import Gatehouse.Access.Caller
import Gatehouse.Core.Exchange
import Gatehouse.Live.Poll
import Gatehouse.Live.Wish

/-!
# Realtime sessions

A session answers every frame of its client with one record that carries the id of the message and
the id of the request that opened the session. A frame moves the cursor of the event feed, or
becomes one call of the core, or is refused. Whatever its kind, a call is made only for a route of
the core that answers in JSON, and only if the caller's scopes allow it.
-/

namespace Gatehouse.Live

/-- What a session knows: its caller, the policy, the core, and how it was opened. -/
structure Session where
  caller : Caller
  policy : UnscopedPolicy
  client : Core.Client
  requestId : String
  poll : PollSettings

/-- What handling a frame leaves: the reply, the cursor, and whether a call of the core failed. -/
structure Handled where
  reply : Json
  cursor : Int
  isFailed : Bool

def serviceName : String := "relay-gateway"

namespace Session

/-- A record of the session: some members and the id of the request. -/
def record (s : Session) (members : Json.Members) : Json :=
  Json.record (members ++ [("request_id", .text s.requestId)])

def hello (s : Session) : Json :=
  s.record [("type", .text "hello"), ("service", .text serviceName)]

/-- Whether a call is for a route that may be asked for in a frame. -/
def isForwardable (path : String) : Bool :=
  path ≠ Route.realtimePath && Route.classify path == some .json

/-- The members of the reply to a call that the core answered. -/
def replyMembers (plan : Plan) (commandId : String) (r : Core.JsonReply) : Json.Members :=
  [("type", .text plan.reply), ("status", .nat r.status), ("payload", r.payload),
    ("core_request", .text commandId), ("core_request_id", Json.text? r.coreRequestId),
    ("idempotency_key", Json.text? (r.idempotencyKey.or plan.call.idempotencyKey)),
    ("replayed", .bool r.replayed)] ++
    (match plan.extra with
      | some (name, value) => [(name, .text value)]
      | none => [])

/-- Makes a call if it may be made; `reply` puts the id of the message to the members of an
answer. -/
def relay (s : Session) (plan : Plan) (commandId : String) (cursor : Int)
    (reply : Json.Members → Json) : Exchange Handled :=
  let call := plan.call
  if !isForwardable call.path then .done ⟨reply (notForwardable call.path), cursor, false⟩
  else if !s.caller.mayAccess s.policy call.method call.path then
    .done ⟨reply (errorMembers "forbidden by token scope" ++
      [("path", .text call.path), ("method", .text call.method.name)]), cursor, false⟩
  else
    .ask (s.client.command call commandId) fun outcome =>
      match outcome.bind (Core.JsonReply.ofReply commandId) with
      | .ok r => ⟨reply (replyMembers plan commandId r), cursor, false⟩
      | .error e => ⟨reply (errorMembers e.message), cursor, true⟩

/-- Answers a frame; `commandId` is the id of the call that it may become. -/
def handle (s : Session) (cursor : Int) (commandId frame : String) : Exchange Handled :=
  match Message.ofText? frame with
  | none =>
    .done ⟨s.record (("id", .null) :: errorMembers "invalid message: no record of a message"),
      cursor, false⟩
  | some m =>
    let reply (members : Json.Members) : Json := s.record (("id", m.id.getD .null) :: members)
    match m.wish with
    | .answer members => .done ⟨reply members, cursor, false⟩
    | .seek cursor members => .done ⟨reply members, cursor, false⟩
    | .call plan => s.relay plan commandId cursor reply

end Session

end Gatehouse.Live
