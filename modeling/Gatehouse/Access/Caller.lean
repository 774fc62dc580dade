import Gatehouse.Access.Policy

/-!
# Callers

Who stands behind a request: anyone when no credential is configured, the holder of the static
token, or a session.
-/

namespace Gatehouse

inductive CallerKind where
  | openAccess
  | staticToken
  | session
deriving DecidableEq, Repr

def CallerKind.name : CallerKind → String
  | openAccess => "open"
  | staticToken => "static"
  | session => "session"

structure Caller where
  kind : CallerKind
  subject : String
  sessionId : Option String
  deviceId : Option String
  scopes : ScopeSet
  expiresAt : Option Int

namespace Caller

/-- Anyone, when nothing is configured to tell callers apart. -/
def openAccess : Caller :=
  ⟨.openAccess, "open-access", none, none, .full, none⟩

def staticToken (deviceId : Option String) : Caller :=
  ⟨.staticToken, "relay-static-token", none, deviceId, .full, none⟩

def session (subject sessionId : String) (deviceId : Option String) (scopes : ScopeSet)
    (expiresAt : Int) : Caller :=
  ⟨.session, subject, some sessionId, deviceId, scopes, some expiresAt⟩

def holds (c : Caller) (s : Scope) : Bool :=
  c.scopes.allows s

/-- Whether the caller may make a request under a policy. -/
def mayAccess (c : Caller) (policy : UnscopedPolicy) (method : Method) (path : String) : Bool :=
  c.holds (Policy.required policy method path)

end Caller

end Gatehouse
