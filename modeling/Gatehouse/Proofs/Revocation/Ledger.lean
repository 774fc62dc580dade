import Gatehouse.Proofs.Keyed
import Gatehouse.Proofs.Text.Blank
import Gatehouse.Revocation.Ledger
import Gatehouse.Text.Integer

/-!
# What a ledger remembers

A ledger drops entries whose time has passed, and takes entries back when they could not be written.
None of this can be seen by asking: what counts of a ledger at a time are the entries that end later,
and those change only where a session is revoked.
-/

namespace Gatehouse

namespace Ledger

/-- A ledger as a store keeps it: each session once, under an id without blanks around it, with an
end that a file has room for. -/
structure Sound (l : Ledger) : Prop where
  increasing : Keyed.Increasing l
  named : ∀ e ∈ l, Text.nonBlank? e.1 = some e.1
  fits : ∀ e ∈ l, Text.Fits64 e.2

namespace Sound

theorem nil : Sound [] :=
  ⟨.nil, by simp, by simp⟩

variable {l : Ledger}

theorem filter (h : Sound l) (keep : String × Int → Bool) : Sound (l.filter keep) where
  increasing := h.increasing.filter keep
  named e he := h.named e (List.mem_of_mem_filter he)
  fits e he := h.fits e (List.mem_of_mem_filter he)

theorem insert (h : Sound l) {id : String} {expiresAt : Int} (hid : Text.nonBlank? id = some id)
    (hfits : Text.Fits64 expiresAt) : Sound (Keyed.insert id expiresAt l) where
  increasing := h.increasing.insert id expiresAt
  named e he := by
    rcases Keyed.mem_insert he with rfl | he
    · exact hid
    · exact h.named e he
  fits e he := by
    rcases Keyed.mem_insert he with rfl | he
    · exact hfits
    · exact h.fits e he

theorem live (h : Sound l) (now : Int) : Sound (l.live now) :=
  h.filter _

theorem record (h : Sound l) {id : String} {expiresAt : Int} (hid : Text.nonBlank? id = some id)
    (hfits : Text.Fits64 expiresAt) (now : Int) : Sound (l.record id expiresAt now) :=
  (h.live now).insert hid hfits

theorem undo (h : Sound l) {id : String} {expiresAt : Int} (hid : Text.nonBlank? id = some id)
    (hfits : Text.Fits64 expiresAt) (now : Int) : Sound (l.undo id expiresAt now) := by
  rw [Ledger.undo]
  split
  · next before hbefore =>
    exact (h.record hid hfits now).insert hid ((h.live now).fits _ (Keyed.mem_of_get? hbefore))
  · exact (h.record hid hfits now).filter _

theorem asked (h : Sound l) (id : String) (now : Int) : Sound (l.asked id now) := by
  rw [Ledger.asked]
  split
  · exact h
  · split
    · exact h.filter _
    · exact h

theorem get?_live (h : Sound l) (now : Int) (key : String) :
    Keyed.get? key (l.live now) = (Keyed.get? key l).filter (now < ·) :=
  h.increasing.get?_filter _ key

end Sound

/-! ### Asking for a session -/

theorem get?_undo (l : Ledger) (id : String) (expiresAt now : Int) (key : String) :
    Keyed.get? key (l.undo id expiresAt now) = Keyed.get? key (l.live now) := by
  rw [undo]
  by_cases hkey : key = id
  · subst hkey
    split
    · next before hbefore => rw [Keyed.get?_insert_self, hbefore]
    · next hnone => rw [Keyed.get?_erase_self, hnone]
  · split
    · rw [Keyed.get?_insert_of_ne hkey, record, Keyed.get?_insert_of_ne hkey]
    · rw [Keyed.get?_erase_of_ne hkey, record, Keyed.get?_insert_of_ne hkey]

/-- Forgetting an entry whose time has passed leaves what ends later. -/
theorem filter_get?_asked (l : Ledger) (id : String) (now : Int) (key : String) :
    (Keyed.get? key (l.asked id now)).filter (now < ·) = (Keyed.get? key l).filter (now < ·) := by
  rw [asked]
  split
  · rfl
  · next name _ =>
    split
    · next hpast =>
      by_cases hkey : key = name
      · subst hkey
        rw [Keyed.get?_erase_self]
        cases hget : Keyed.get? key l with
        | none => rfl
        | some expiresAt =>
          rw [hget, Option.any_some, decide_eq_true_eq] at hpast
          rw [Option.filter_some, if_neg (by simpa using hpast), Option.filter_none]
      · rw [Keyed.get?_erase_of_ne hkey]
    · rfl

end Ledger

/-! ### Ends of sessions -/

/-- When revoked sessions end, by id: the end that the last revocation gave. -/
abbrev Ends := String → Option Int

namespace Ends

def isRevoked (m : Ends) (id : String) (now : Int) : Bool :=
  match Text.nonBlank? id with
  | none => false
  | some key => (m key).any (now < ·)

end Ends

/-- A ledger that knows of the sessions that end after `now` what the ends say. -/
def Ledger.Tracks (now : Int) (l : Ledger) (m : Ends) : Prop :=
  ∀ key, (Keyed.get? key l).filter (now < ·) = (m key).filter (now < ·)

namespace Ledger.Tracks

variable {l : Ledger} {m : Ends} {before now : Int}

theorem any_eq (h : Tracks now l m) (key : String) :
    (Keyed.get? key l).any (now < ·) = (m key).any (now < ·) := by
  have hisSome := congrArg Option.isSome (h key)
  rwa [Option.isSome_filter, Option.isSome_filter] at hisSome

/-- What ends after a time is known from what ends after an earlier one. -/
theorem mono (h : Tracks before l m) (hle : before ≤ now) : Tracks now l m := by
  intro key
  have hlater (o : Option Int) :
      o.filter (now < ·) = (o.filter (before < ·)).filter (now < ·) := by
    rw [Option.filter_filter]
    congr 1
    funext expiresAt
    rw [Bool.eq_iff_iff, Bool.and_eq_true, decide_eq_true_eq, decide_eq_true_eq]
    omega
  rw [hlater, h key, ← hlater]

theorem isRevoked_eq (h : Tracks now l m) (id : String) :
    l.isRevoked id now = m.isRevoked id now := by
  rw [Ledger.isRevoked, Ends.isRevoked]
  cases Text.nonBlank? id with
  | none => rfl
  | some key => exact h.any_eq key

theorem asked (h : Tracks now l m) (id : String) : Tracks now (l.asked id now) m :=
  fun key => (filter_get?_asked l id now key).trans (h key)

theorem live (h : Tracks now l m) (hl : l.Sound) : Tracks now (l.live now) m := by
  intro key
  rw [hl.get?_live, Option.filter_filter, ← h key]
  simp

theorem undo (h : Tracks now l m) (hl : l.Sound) (id : String) (expiresAt : Int) :
    Tracks now (l.undo id expiresAt now) m := by
  intro key
  rw [get?_undo]
  exact h.live hl key

theorem record (h : Tracks now l m) (hl : l.Sound) (id : String) (expiresAt : Int) :
    Tracks now (l.record id expiresAt now) (Function.update m id (some expiresAt)) := by
  intro key
  rw [Ledger.record]
  by_cases hkey : key = id
  · subst hkey
    rw [Keyed.get?_insert_self, Function.update_self]
  · rw [Keyed.get?_insert_of_ne hkey, Function.update_of_ne hkey]
    exact h.live hl key

theorem isSome_live (h : Tracks now l m) (hl : l.Sound) (key : String) :
    (Keyed.get? key (l.live now)).isSome = (m key).any (now < ·) := by
  rw [hl.get?_live, Option.isSome_filter, h.any_eq]

end Ledger.Tracks

end Gatehouse
