import Gatehouse.Access.Scope
import Gatehouse.Json.Reading
import Gatehouse.Json.Writing

/-!
# Session claims

What a session token states: whom it was issued to, what it allows, the device it is bound to, the
id under which it can be revoked, and the seconds at which it ends and began. The written form
leaves out an empty subject and id and an absent device, and keeps the other fields in a fixed
order.
-/

namespace Gatehouse

/-- What a session token states. -/
structure Claims where
  subject : String
  scopes : List Scope
  deviceId : Option String
  sessionId : String
  expiresAt : Int
  issuedAt : Int
deriving DecidableEq, Repr

namespace Claims

def isExpired (c : Claims) (now : Int) : Bool :=
  c.expiresAt ≤ now

def fieldNames : List String :=
  ["sub", "scopes", "device_id", "jti", "exp", "iat"]

/-- The members of the written form, in the order of the fields. -/
def members (c : Claims) : Json.Members :=
  (if c.subject = "" then [] else [("sub", .text c.subject)]) ++
    [("scopes", .list (c.scopes.map fun s => .text s.name))] ++
    (match c.deviceId with
      | none => []
      | some d => [("device_id", .text d)]) ++
    (if c.sessionId = "" then [] else [("jti", .text c.sessionId)]) ++
    [("exp", .int c.expiresAt), ("iat", .int c.issuedAt)]

def write (c : Claims) : String :=
  (Json.object c.members).write

/-- Claims with scopes of any kind, each read by `scope`. -/
structure Fields (α : Type) where
  subject : String
  scopes : List α
  deviceId : Option String
  sessionId : String
  expiresAt : Int
  issuedAt : Int

/-- The fields of a record; only the end of the session is required. -/
def Fields.ofWritten? {α : Type} (scope : Json.Written → Option α) (w : Json.Written) :
    Option (Fields α) := do
  let fields ← w.fields? fieldNames
  return {
    subject := ← Json.field? Json.Written.text? "" "sub" fields
    scopes := ← Json.field? (Json.Written.listOf? scope) [] "scopes" fields
    deviceId := ← Json.field? (Json.nullable Json.Written.text?) none "device_id" fields
    sessionId := ← Json.field? Json.Written.text? "" "jti" fields
    expiresAt := ← Json.required? Json.Written.int64? "exp" fields
    issuedAt := ← Json.field? Json.Written.int64? 0 "iat" fields }

def ofText? (s : String) : Option Claims := do
  let f ← Fields.ofWritten? (fun w => w.choice?.bind Scope.ofName?) (← Json.Written.ofText? s)
  return ⟨f.subject, f.scopes, f.deviceId, f.sessionId, f.expiresAt, f.issuedAt⟩

end Claims

namespace Session

/-- The shortest life of a session in seconds. -/
def minLife : Int := 60

/-- The longest life of a session in seconds: a day. -/
def maxLife : Int := 24 * 3600

/-- The life of a session: what was asked for if it is positive, otherwise the default, held within
a minute and a day. -/
def life (requested : Option Int) (default : Int) : Int :=
  let seconds := match requested with
    | some n => if 0 < n then n else default
    | none => default
  max minLife (min maxLife seconds)

end Session

end Gatehouse
