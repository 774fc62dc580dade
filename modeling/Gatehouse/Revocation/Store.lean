import Gatehouse.Core.Exchange
import Gatehouse.Json.Reading
import Gatehouse.Json.Writing
import Gatehouse.Revocation.Ledger
import Gatehouse.Text.Quoted

/-!
# The store of revoked sessions

A ledger, and the file it is kept in if it is to outlast the relay. A revocation counts only once it
has been written: if the file cannot be written, the ledger goes back to what it was. A file that
cannot be read as a ledger is never taken for an empty one.
-/

namespace Gatehouse

inductive StoreError where
  | missingSessionId
  | unreadable (path detail : String)
  | corrupt (path : String)
  | unwritable (path detail : String)
deriving DecidableEq, Repr

/-- The text of an error; what is wrong with a corrupt file is not told. -/
def StoreError.message : StoreError → String
  | missingSessionId => "session id is required"
  | unreadable path detail =>
    "failed to read revocation store " ++ Text.quotedPath path ++ ": " ++ detail
  | corrupt path => "revocation store " ++ Text.quotedPath path ++ " is corrupt"
  | unwritable path detail =>
    "failed to persist revocation store " ++ Text.quotedPath path ++ ": " ++ detail

inductive FileContent where
  | absent
  | unreadable (detail : String)
  | bytes (b : Bytes)

/-- A ledger and the file it is kept in. -/
structure Store where
  path : Option String
  entries : Ledger
deriving DecidableEq, Repr

namespace Store

def inMemory : Store :=
  ⟨none, []⟩

def fieldNames : List String :=
  ["version", "revoked_sessions"]

/-- The ends of sessions by id as written; of two under one id the later counts. -/
def entries? : Json.Written → Option (List (String × Int))
  | .object members =>
    (members.mapM fun (key, w) => do
      return (← Json.unitsText? key, ← Json.Written.int64? w)).map Keyed.ofPairs
  | _ => none

def ofWritten? (w : Json.Written) : Option (List (String × Int)) := do
  let fields ← w.fields? fieldNames
  let _ ← Json.field? (Json.Written.natBelow? 0x100000000) 0 "version" fields
  Json.field? entries? [] "revoked_sessions" fields

/-- The entries of the bytes of a file; a blank file has none. -/
def ofBytes? (bytes : Bytes) : Option (List (String × Int)) :=
  if Json.isBlankBody bytes then some []
  else (Json.Written.ofBytes? bytes).bind ofWritten?

/-- The store kept in a file, with the entries that still matter at `now`. -/
def load (path : String) (content : FileContent) (now : Int) : Except StoreError Store :=
  match content with
  | .absent => .ok ⟨some path, []⟩
  | .unreadable detail => .error (.unreadable path detail)
  | .bytes b =>
    match ofBytes? b with
    | none => .error (.corrupt path)
    | some l => .ok ⟨some path, (Ledger.live l now).filter fun e => Text.trim e.1 ≠ ""⟩

def document (l : Ledger) : String :=
  Json.write <| .object
    [("version", .nat 1), ("revoked_sessions", .object (l.map fun e => (e.1, .int e.2)))]

/-- Revokes a session until `expiresAt`: whether it was in the ledger before. -/
def revoke (s : Store) (id : String) (expiresAt now : Int) :
    Exchange (Except StoreError Bool × Store) :=
  match Text.nonBlank? id with
  | none => .done (.error .missingSessionId, s)
  | some id =>
    let recorded : Store := { s with entries := s.entries.record id expiresAt now }
    let already := (Keyed.get? id (s.entries.live now)).isSome
    match s.path with
    | none => .done (.ok already, recorded)
    | some path =>
      .save ⟨path, document recorded.entries⟩ fun fault =>
        match fault with
        | none => .done (.ok already, recorded)
        | some detail =>
          .done (.error (.unwritable path detail),
            { s with entries := s.entries.undo id expiresAt now })

/-- Whether a session is revoked at `now`, and the store after the question. -/
def isRevoked (s : Store) (id : String) (now : Int) : Bool × Store :=
  (s.entries.isRevoked id now, { s with entries := s.entries.asked id now })

@[simp] theorem fst_isRevoked (s : Store) (id : String) (now : Int) :
    (s.isRevoked id now).1 = s.entries.isRevoked id now := rfl

@[simp] theorem entries_snd_isRevoked (s : Store) (id : String) (now : Int) :
    (s.isRevoked id now).2.entries = s.entries.asked id now := rfl

end Store

end Gatehouse
