import Gatehouse.Access.Gate
import Gatehouse.Json.Writing

/-!
# Issuing and revoking sessions

An admin asks for a session, or for the end of one, with a free-form JSON record. Fields are read
leniently: a text stands for itself, any other value for its written form, and numbers may be given
as text.
-/

namespace Gatehouse

namespace Json.Members

/-- A field as text without blanks around it; null and blank text are none. -/
def text? (name : String) (m : Members) : Option String :=
  match Keyed.get? name m with
  | some (.text s) => Text.nonBlank? s
  | some .null => none
  | some v => some v.write
  | none => none

def int? (name : String) (m : Members) : Option Int :=
  match Keyed.get? name m with
  | some (.number n) => some n.whole
  | some (.text s) => Text.int64? (Text.trim s)
  | _ => none

/-- The names in a list, or in a text with commas between them. -/
def names (v : Option Json) : List String :=
  match v with
  | some (.list items) =>
    Text.trimmedItems (items.map fun item =>
      match item with
      | .text s => s
      | other => other.write)
  | some (.text s) => Text.commaItems s
  | _ => []

end Json.Members

inductive DeskError where
  | invalid (text : String)
  | token (e : TokenError)
  | store (e : StoreError)
deriving DecidableEq, Repr

def DeskError.message : DeskError → String
  | invalid text => text
  | token e => e.message
  | store e => e.message

structure IssuedSession where
  token : String
  claims : Claims

def IssuedSession.record (s : IssuedSession) : Json :=
  Json.record
    [("token", .text s.token), ("token_type", .text "session"), ("subject", .text s.claims.subject),
     ("session_id", .text s.claims.sessionId),
     ("scopes", .list (s.claims.scopes.map fun scope => .text scope.name)),
     ("device_id", Json.text? s.claims.deviceId), ("expires_at", .int s.claims.expiresAt),
     ("issued_at", .int s.claims.issuedAt)]

inductive Naming where
  | token
  | sessionId
deriving DecidableEq, Repr

def Naming.name : Naming → String
  | token => "token"
  | sessionId => "session_id"

structure Revocation where
  sessionId : String
  subject : String
  expiresAt : Int
  via : Naming
deriving DecidableEq, Repr

structure RevokedSession where
  revocation : Revocation
  already : Bool

def RevokedSession.record (s : RevokedSession) : Json :=
  Json.record
    [("revoked", .bool true), ("already_revoked", .bool s.already),
     ("session_id", .text s.revocation.sessionId), ("subject", .text s.revocation.subject),
     ("expires_at", .int s.revocation.expiresAt), ("via", .text s.revocation.via.name)]

/-- What issues and revokes sessions: the signer and the listed devices. -/
structure Desk where
  signer : Signer
  devices : List String

namespace Desk

/-- What a caller asks for: its own subject and device where it names none, and every scope but
`admin` where it names no scope. -/
def order (caller : Caller) (payload : Json.Members) : Signer.Order where
  subject := (Json.Members.text? "subject" payload).getD caller.subject
  scopes :=
    match Json.Members.names (Keyed.get? "scopes" payload) with
    | [] => Scope.operational.map Scope.name
    | names => names
  deviceId := (Json.Members.text? "device_id" payload).or caller.deviceId
  life := (Json.Members.int? "ttl_seconds" payload).filter (0 < ·)

def issue (d : Desk) (caller : Caller) (payload : Json.Members) (sessionId : String) (now : Int) :
    Except DeskError IssuedSession :=
  let o := order caller payload
  match d.devices, o.deviceId with
  | _ :: _, none =>
    .error (.invalid "'device_id' is required when device allowlist is enabled")
  | devices, deviceId =>
    if devices ≠ [] ∧ deviceId.all (fun id => !devices.contains id) then
      .error (.invalid "device_id is not in allowed list")
    else
      match d.signer.issue o sessionId now with
      | .error e => .error (.token e)
      | .ok (token, claims) => .ok ⟨token, claims⟩

/-- The session that a payload names. A time that has passed or is not given is a day from now, the
longest a session can last. -/
def revocation (d : Desk) (payload : Json.Members) (now : Int) : Except DeskError Revocation :=
  let lasting (expiresAt : Int) : Int :=
    if expiresAt ≤ now then now + Session.maxLife else expiresAt
  match Json.Members.text? "token" payload with
  | some token =>
    match d.signer.verify token now with
    | .error _ => .error (.invalid "invalid session token")
    | .ok c =>
      if Text.trim c.sessionId = "" then .error (.invalid "session token is not revocable")
      else .ok ⟨c.sessionId, c.subject, lasting c.expiresAt, .token⟩
  | none =>
    match Json.Members.text? "session_id" payload with
    | none => .error (.invalid "'token' or 'session_id' is required")
    | some id =>
      .ok ⟨id, "", lasting ((Json.Members.int? "expires_at" payload).getD 0), .sessionId⟩

def revoke (d : Desk) (store : Store) (payload : Json.Members) (now : Int) :
    Exchange (Except DeskError RevokedSession × Store) :=
  match d.revocation payload now with
  | .error e => .done (.error e, store)
  | .ok r =>
    (store.revoke r.sessionId r.expiresAt now).map fun (outcome, store) =>
      match outcome with
      | .error e => (.error (.store e), store)
      | .ok already => (.ok ⟨r, already⟩, store)

end Desk

end Gatehouse
