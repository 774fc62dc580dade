import Gatehouse.Seal.Base64Url
import Gatehouse.Seal.Sha256
import Gatehouse.Session.Claims

/-!
# Session tokens

A token is three segments between dots: the mark `na1`, the claims in base64, and the seal of the
second segment under the signing key. The seal is compared before anything of the claims is read, so
nothing is believed that the key holder did not write.
-/

namespace Gatehouse

inductive TokenError where
  | notConfigured
  | malformed
  | badSignature
  | invalidPayload
  | expired
  | scope (e : Scope.Unknown)
deriving DecidableEq, Repr

def TokenError.message : TokenError → String
  | notConfigured => "session signing key is not configured"
  | malformed => "invalid token format"
  | badSignature => "invalid token signature"
  | invalidPayload => "invalid token payload"
  | expired => "token expired"
  | scope e => e.message

/-- Seals and checks tokens. -/
structure Signer where
  key : Option Bytes
  defaultLife : Int
  mac : Bytes → Bytes → Bytes

namespace Signer

/-- The signer of a key; an empty key is no key. -/
def ofKey (key : Option String) (defaultLife : Int) : Signer :=
  ⟨(key.filter (· ≠ "")).map Utf8.encode, defaultLife, Hmac.sha256⟩

def isConfigured (s : Signer) : Bool :=
  s.key.isSome

/-- The first segment of every token. -/
def mark : String := "na1"

/-- The third segment: the seal of the second. -/
def signature (s : Signer) (key : Bytes) (body : String) : String :=
  Base64Url.encode (s.mac key (Utf8.encode body))

def body (c : Claims) : String :=
  Base64Url.encode (Utf8.encode c.write)

def token (s : Signer) (key : Bytes) (c : Claims) : String :=
  mark ++ "." ++ body c ++ "." ++ s.signature key (body c)

structure Order where
  subject : String
  scopes : List String
  deviceId : Option String
  life : Option Int

/-- The claims of a new session that begins at `now` under the id `sessionId`. -/
def claims (s : Signer) (order : Order) (scopes : List Scope) (sessionId : String) (now : Int) :
    Claims where
  subject := Text.trim order.subject
  scopes := scopes
  deviceId := order.deviceId.bind Text.nonBlank?
  sessionId := sessionId
  expiresAt := now + Session.life order.life s.defaultLife
  issuedAt := now

def issue (s : Signer) (order : Order) (sessionId : String) (now : Int) :
    Except TokenError (String × Claims) :=
  match s.key with
  | none => .error .notConfigured
  | some key =>
    match Scope.normalize order.scopes with
    | .error e => .error (.scope e)
    | .ok scopes =>
      let c := s.claims order scopes sessionId now
      .ok (s.token key c, c)

def segments? (token : String) : Option (String × String) :=
  match Text.split '.' (Text.trim token) with
  | [first, body, signature] =>
    if first = mark ∧ body ≠ "" ∧ signature ≠ "" then some (body, signature) else none
  | _ => none

def payload? (body : String) : Option (Claims.Fields String) := do
  let written ← Json.Written.ofBytes? (← Base64Url.decode? body)
  Claims.Fields.ofWritten? Json.Written.text? written

def accept (f : Claims.Fields String) (now : Int) : Except TokenError Claims :=
  if f.expiresAt ≤ now then .error .expired
  else
    match Scope.normalize f.scopes with
    | .error e => .error (.scope e)
    | .ok scopes =>
      .ok ⟨f.subject, scopes, f.deviceId.filter (· ≠ ""), f.sessionId, f.expiresAt, f.issuedAt⟩

/-- The claims of a token that is sealed with the key and has not run out at `now`. -/
def verify (s : Signer) (token : String) (now : Int) : Except TokenError Claims :=
  match s.key with
  | none => .error .notConfigured
  | some key =>
    match segments? token with
    | none => .error .malformed
    | some (body, signature) =>
      if s.signature key body ≠ signature then .error .badSignature
      else
        match payload? body with
        | none => .error .invalidPayload
        | some f => accept f now

end Signer

end Gatehouse
