import Gatehouse.Keyed
import Gatehouse.Text.Blank

/-!
# Revoked sessions

The ledger holds the end of every revoked session under its id, so a session is refused until it
would have ended anyway. Ids are compared without blanks around them. Entries whose time has passed
are dropped when the ledger is changed and when they are asked for; nobody can see that they were
there.
-/

namespace Gatehouse

/-- The ends of revoked sessions by session id. -/
abbrev Ledger := List (String × Int)

namespace Ledger

/-- The entries that still matter at `now`. -/
def live (l : Ledger) (now : Int) : Ledger :=
  l.filter fun e => now < e.2

def record (l : Ledger) (id : String) (expiresAt now : Int) : Ledger :=
  Keyed.insert id expiresAt (l.live now)

/-- Takes back what `record` did: the entry that was there before, or none. -/
def undo (l : Ledger) (id : String) (expiresAt now : Int) : Ledger :=
  match Keyed.get? id (l.live now) with
  | some before => Keyed.insert id before (l.record id expiresAt now)
  | none => Keyed.erase id (l.record id expiresAt now)

def isRevoked (l : Ledger) (id : String) (now : Int) : Bool :=
  match Text.nonBlank? id with
  | none => false
  | some id => (Keyed.get? id l).any fun expiresAt => now < expiresAt

/-- The ledger after it was asked for a session: an entry whose time has passed is gone. -/
def asked (l : Ledger) (id : String) (now : Int) : Ledger :=
  match Text.nonBlank? id with
  | none => l
  | some id =>
    if (Keyed.get? id l).any fun expiresAt => expiresAt ≤ now then Keyed.erase id l else l

end Ledger

end Gatehouse
