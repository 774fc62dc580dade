import Gatehouse.Access.Caller
import Gatehouse.Access.Credentials
import Gatehouse.Revocation.Store
import Gatehouse.Session.Token

/-!
# The gate

The gate turns credentials into a caller. Without a static token and a signing key everyone may do
everything. Otherwise the static token admits to every scope, and a session token that is sealed,
has not run out and is not revoked admits to its own scopes. Both are held to the device rules: a
session bound to a device is used from that device, and where devices are listed only those are let
in.
-/

namespace Gatehouse

inductive AuthFailure where
  | missingCredential
  | invalidToken (e : TokenError)
  | revoked
  | deviceMismatch
  | deviceNotAllowed
deriving DecidableEq, Repr

namespace AuthFailure

def message : AuthFailure → String
  | missingCredential => "missing bearer credential"
  | invalidToken e => "invalid session token: " ++ e.message
  | revoked => "session token has been revoked"
  | deviceMismatch => "device id does not match the token"
  | deviceNotAllowed => "device id is not in the allowed list"

/-- The status of a refusal: only a wrong device is told apart from a wrong credential. -/
def status : AuthFailure → Nat
  | deviceMismatch => 403
  | deviceNotAllowed => 403
  | _ => 401

end AuthFailure

/-- What the gate knows: the static token, the signer of session tokens and the listed devices. -/
structure Gate where
  staticToken : Option String
  signer : Signer
  devices : List String

namespace Gate

/-- The gate of some secrets; an empty static token is none. -/
def of (staticToken : Option String) (signer : Signer) (devices : List String) : Gate :=
  ⟨staticToken.filter (· ≠ ""), signer, devices⟩

/-- Whether everyone is let in. -/
def isOpen (g : Gate) : Bool :=
  g.staticToken.isNone && !g.signer.isConfigured

/-- The device of a request: the one it names, or the one its session is bound to. -/
def device (g : Gate) (named bound : Option String) : Except AuthFailure (Option String) :=
  let bound := bound.bind Text.nonBlank?
  let resolved := (named.bind Text.nonBlank?).or bound
  if bound.isSome ∧ bound ≠ resolved then .error .deviceMismatch
  else if g.devices = [] then .ok resolved
  else
    match resolved with
    | some id => if id ∈ g.devices then .ok (some id) else .error .deviceNotAllowed
    | none => .error .deviceNotAllowed

def sessionCaller (c : Claims) (deviceId : Option String) : Caller :=
  Caller.session ((Text.nonBlank? c.subject).getD "session") c.sessionId deviceId
    (.ofList c.scopes) c.expiresAt

def admitSession (g : Gate) (store : Store) (token : String) (named : Option String) (now : Int) :
    Except AuthFailure Caller × Store :=
  match g.signer.verify token now with
  | .error e => (.error (.invalidToken e), store)
  | .ok claims =>
    let (isRevoked, store) := store.isRevoked claims.sessionId now
    if isRevoked then (.error .revoked, store)
    else
      match g.device named claims.deviceId with
      | .error e => (.error e, store)
      | .ok deviceId => (.ok (sessionCaller claims deviceId), store)

/-- The caller behind some credentials at `now`, and the store after it was asked. -/
def authenticate (g : Gate) (store : Store) (credentials : Credentials) (now : Int) :
    Except AuthFailure Caller × Store :=
  if g.isOpen then (.ok .openAccess, store)
  else
    match credentials.token with
    | none => (.error .missingCredential, store)
    | some token =>
      if g.staticToken = some token then
        match g.device credentials.deviceId none with
        | .error e => (.error e, store)
        | .ok deviceId => (.ok (.staticToken deviceId), store)
      else g.admitSession store token credentials.deviceId now

end Gate

end Gatehouse
