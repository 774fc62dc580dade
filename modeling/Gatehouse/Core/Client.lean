import Gatehouse.Core.Request
import Gatehouse.Json.Reading
import Gatehouse.Json.Writing
import Gatehouse.Live.Event
import Gatehouse.Live.Poll
import Gatehouse.Text.Charset

/-!
# Speaking with the core

A client knows where the core is and how the relay identifies itself to it. It turns what is asked
into requests below the core's base path, and the core's answers into what the relay passes on.
-/

namespace Gatehouse.Core

/-- The URL of the core and the token the relay presents. -/
structure Client where
  base : Url
  token : Option String

structure Call where
  method : Method
  path : String
  query : Option String
  body : Option Json.Members
  idempotencyKey : Option String

/-- A decoded answer with the fields that tell it apart. -/
structure JsonReply where
  status : Nat
  payload : Json
  coreRequestId : Option String
  idempotencyKey : Option String
  replayed : Bool

namespace Client

/-- The path of the base and a path below it, with one slash between them. -/
def joinedPath (base path : String) : String :=
  String.ofList (Text.dropEnd (· == '/') base.toList) ++ "/" ++
    String.ofList (path.toList.dropWhile (· == '/'))

/-- The URL of a path below the base; an empty query is none. -/
def url? (c : Client) (path : String) (query : Option String) : Option Url :=
  match c.base.path with
  | .rootless _ => none
  | .segments _ =>
    some ((c.base.withPath (joinedPath c.base.path.text path)).withQuery (query.filter (· ≠ "")))

def authorization (c : Client) : Option String :=
  c.token.map ("Bearer " ++ ·)

/-- A request for a document as it is. -/
def fetch (c : Client) (path : String) (query : Option String) (requestId : String) :
    Option Request :=
  (c.url? path query).map fun url =>
    ⟨.get, url, requestId, c.authorization, none, none, none⟩

/-- A request in JSON. Only a POST has a body, an empty object if none is given. -/
def command (c : Client) (call : Call) (requestId : String) : Option Request :=
  (c.url? call.path call.query).map fun url =>
    { method := call.method
      url
      requestId
      authorization := c.authorization
      contentType := some "application/json"
      idempotencyKey := call.idempotencyKey.bind Text.nonBlank?
      body := if call.method = .post then some (Json.object (call.body.getD [])).write else none }

def probe (c : Client) (requestId : String) : Option Request :=
  c.fetch "/health" none requestId

def poll (c : Client) (since : Int) (settings : PollSettings) (requestId : String) :
    Option Request :=
  c.fetch "/events/stream" (some (settings.query since)) requestId

end Client

/-- The body of an answer that arrived whole. -/
def Reply.bytes (r : Reply) : Except Failure Bytes :=
  match r.body with
  | .whole bytes => .ok bytes
  | .broken _ fault => .error (.ofBroken fault)

/-- The value of a body; a blank one is an empty object. -/
def payload? (bytes : Bytes) : Option Json :=
  if Json.isBlankBody bytes then some (.object []) else Json.ofBytes? bytes

/-- Puts the id of a request into an object that names none. -/
def attachRequestId (requestId : String) (payload : Json) : Json :=
  Json.fill "request_id" (.text requestId) payload

def JsonReply.ofReply (requestId : String) (r : Reply) : Except Failure JsonReply :=
  match r.bytes with
  | .error e => .error e
  | .ok bytes =>
    match payload? bytes with
    | none => .error .invalidJson
    | some v =>
      .ok
        { status := r.status
          payload := attachRequestId requestId v
          coreRequestId := r.headers.trimmed? "x-request-id"
          idempotencyKey := r.headers.trimmed? "idempotency-key"
          replayed := (r.headers.trimmed? "x-idempotency-replayed").any (Text.sameLetters "true") }

/-- The type of a document, HTML if it does not say. -/
def Reply.contentType (r : Reply) : String :=
  (r.headers.trimmed? "content-type").getD "text/html; charset=utf-8"

/-- The text of an answer, in the encoding that its type names. -/
def Reply.text [CharTables] (r : Reply) : Except Failure String :=
  r.bytes.map (Charset.decode ((r.headers.text? "content-type").bind Charset.label?))

def Reply.events [CharTables] (r : Reply) : Except Failure (List Event) :=
  if r.status ≠ 200 then .error (.badStatus r.status) else r.text.map Event.ofStream

end Gatehouse.Core
