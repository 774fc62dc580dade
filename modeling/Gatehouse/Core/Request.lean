import Gatehouse.Access.Policy
import Gatehouse.Http.Header
import Gatehouse.Url.Basic

/-!
# Calls of the core

What the relay asks of the core and what can come back. A call is made at most once; what goes wrong
is told apart by whether the core took too long, could not be reached, broke off, or answered with
something the relay cannot use.
-/

namespace Gatehouse.Core

structure Request where
  method : Method
  url : Url
  requestId : String
  authorization : Option String
  contentType : Option String
  idempotencyKey : Option String
  body : Option String
deriving DecidableEq, Repr

def Request.fields (r : Request) : List (String × String) :=
  [("x-request-id", some r.requestId), ("authorization", r.authorization),
    ("content-type", r.contentType), ("idempotency-key", r.idempotencyKey)].filterMap
    fun (name, value) => value.map fun v => (name, v)

def Request.isSendable (r : Request) : Bool :=
  r.fields.all fun (_, value) => (Header.value? value).isSome

/-- What keeps an answer from arriving: the time ran out, or the connection failed. -/
inductive Fault where
  | timedOut (detail : String)
  | lost (detail : String)
deriving DecidableEq, Repr

inductive Body where
  | whole (bytes : Bytes)
  | broken (read : Bytes) (fault : Fault)
deriving DecidableEq, Repr

structure Reply where
  status : Nat
  headers : Headers
  body : Body
deriving DecidableEq, Repr

abbrev Answer := Except Fault Reply

inductive Failure where
  | timedOut (detail : String)
  | unreachable (detail : String)
  | unreadable (detail : String)
  | invalidJson
  | invalidUrl
  | badStatus (status : Nat)
deriving DecidableEq, Repr

namespace Failure

def message : Failure → String
  | timedOut detail => "core API timed out: " ++ detail
  | unreachable detail => "core API unreachable: " ++ detail
  | unreadable detail => "failed to read core response: " ++ detail
  | invalidJson => "core API returned invalid JSON"
  | invalidUrl => "failed to build core URL"
  | badStatus n => "core events stream returned status " ++ toString n

def status : Failure → Nat
  | timedOut _ => 504
  | _ => 502

def ofFault : Fault → Failure
  | .timedOut detail => timedOut detail
  | .lost detail => unreachable detail

def ofBroken : Fault → Failure
  | .timedOut detail => timedOut detail
  | .lost detail => unreadable detail

end Failure

def isServerError (status : Nat) : Bool :=
  500 ≤ status && status < 600

def isSuccess (status : Nat) : Bool :=
  200 ≤ status && status < 300

end Gatehouse.Core
