import Gatehouse.Core.Request
import Gatehouse.Http.Message
import Gatehouse.Session.Desk

/-!
# Refusals

Every refusal is answered with a record of its text and the id of the request. A refused credential
never says more than that it was refused.
-/

namespace Gatehouse

inductive Refusal where
  | unauthorized
  | forbidden
  | notFound
  | methodNotAllowed
  | badRequest (text : String)
  | originDenied
  | rateLimited (retryAfter : Nat)
  | tooManyConnections
  | core (e : Core.Failure)
  | internal (text : String)
deriving DecidableEq, Repr

namespace Refusal

def message : Refusal → String
  | unauthorized => "Unauthorized"
  | forbidden => "Forbidden"
  | notFound => "Not found"
  | methodNotAllowed => "Method not allowed"
  | badRequest text => text
  | originDenied => "CORS origin not allowed"
  | rateLimited _ => "Rate limit exceeded"
  | tooManyConnections => "Too many websocket connections"
  | core e => e.message
  | internal text => text

def status : Refusal → Nat
  | unauthorized => 401
  | forbidden => 403
  | notFound => 404
  | methodNotAllowed => 405
  | badRequest _ => 400
  | originDenied => 403
  | rateLimited _ => 429
  | tooManyConnections => 429
  | core e => e.status
  | internal _ => 500

def fields : Refusal → Headers
  | unauthorized => [("www-authenticate", Utf8.encode "Bearer")]
  | rateLimited n => [("retry-after", Utf8.encode (toString (max n 1)))]
  | _ => []

def record (r : Refusal) (requestId : String) : Json :=
  Json.record [("error", .text r.message), ("request_id", .text requestId)]

def response (r : Refusal) (requestId : String) : Http.Response :=
  let answer := Http.Response.json r.status (r.record requestId)
  { answer with headers := answer.headers ++ r.fields }

def ofAuth (e : AuthFailure) : Refusal :=
  if e.status = 403 then forbidden else unauthorized

def ofDesk : DeskError → Refusal
  | .store e => internal e.message
  | e => badRequest e.message

end Refusal

end Gatehouse
