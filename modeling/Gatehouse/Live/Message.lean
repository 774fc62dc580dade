import Gatehouse.Access.Policy
import Gatehouse.Json.Reading
import Gatehouse.Json.Writing

/-!
# Messages of a realtime client

A client sends one JSON record a frame. Every field may be left out; which of them matter depends on
the kind of the message.
-/

namespace Gatehouse

structure Message where
  kind : String
  id : Option Json
  method : Option String
  path : Option String
  query : Option String
  body : Option Json.Members
  idempotencyKey : Option String
  sinceId : Option Int
  sessionId : Option String
  sinceSeq : Option Int
  limit : Option Int
  input : Option String

namespace Message

def fieldNames : List String :=
  ["type", "id", "method", "path", "query", "body", "idempotency_key", "since_id", "session_id",
    "since_seq", "limit", "input"]

def ofText? (s : String) : Option Message := do
  let fields ← (← Json.Written.ofText? s).fields? fieldNames
  let text (name : String) : Option (Option String) :=
    Json.field? (Json.nullable Json.Written.text?) none name fields
  let int (name : String) : Option (Option Int) :=
    Json.field? (Json.nullable Json.Written.int64?) none name fields
  let depth := Json.maxDepth - 1
  return {
    kind := ← Json.field? Json.Written.text? "" "type" fields
    id := ← Json.field? (Json.nullable (Json.value? depth)) none "id" fields
    method := ← text "method"
    path := ← text "path"
    query := ← text "query"
    body := ← Json.field? (Json.nullable (Json.Written.members? depth)) none "body" fields
    idempotencyKey := ← text "idempotency_key"
    sinceId := ← int "since_id"
    sessionId := ← text "session_id"
    sinceSeq := ← int "since_seq"
    limit := ← int "limit"
    input := ← text "input" }

/-- The keystrokes for a terminal: the field, or `input` in the body when the field is blank. Only
an empty text is none. -/
def terminalInput (m : Message) : Option String :=
  let direct := m.input.getD ""
  let keys :=
    if Text.trim direct = "" then
      match m.body.bind (Keyed.get? "input") with
      | some (.text s) => s
      | some .null => direct
      | none => direct
      | some other => other.write
    else direct
  if keys = "" then none else some keys

/-- The first line and the number of lines of terminal output asked for. -/
def terminalWindow (m : Message) : Int × Int :=
  (max 0 (m.sinceSeq.getD 0), max 1 (min 5000 (m.limit.getD 600)))

end Message

inductive TerminalIdError where
  | missing
  | invalid
deriving DecidableEq, Repr

def TerminalIdError.message : TerminalIdError → String
  | missing => "'session_id' is required"
  | invalid => "invalid 'session_id'"

/-- The id of a terminal session: not blank, and fit to stand in a path. -/
def terminalId (raw : Option String) : Except TerminalIdError String :=
  let id := Text.trim (raw.getD "")
  if id = "" then .error .missing
  else if isResourceId id then .ok id
  else .error .invalid

/-- A browser message as a request: its method and path, and the kind of the reply. -/
structure BrowserRoute where
  method : Method
  path : String
  reply : String
deriving DecidableEq, Repr

def browserRoute? (kind : String) : Option BrowserRoute := do
  let a ← BrowserAction.ofName? (← Text.after? "browser_" kind)
  let path := (Route.browser a).path
  return match a with
    | .status => ⟨.get, path, kind⟩
    | .pages => ⟨.get, path, kind⟩
    | .close => ⟨.post, path, "browser_closed"⟩
    | _ => ⟨.post, path, kind ++ "_result"⟩

/-- The path of a command: trimmed, not blank, no URL of its own, and with a slash in front. -/
def commandPath? (raw : String) : Option String :=
  let path := Text.trim raw
  if path = "" ∨ Text.contains "://" path then none
  else if (Text.after? "/" path).isSome then some path
  else some ("/" ++ path)

end Gatehouse
