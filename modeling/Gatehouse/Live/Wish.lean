import Gatehouse.Core.Client
import Gatehouse.Live.Message

/-!
# What a message asks for

A message is answered at once, moves the cursor of the event feed, or asks for one call of the core.
Every kind of message that names what it wants stands for a command that spells it out.
-/

namespace Gatehouse.Live

/-- A call of the core on behalf of a client, the kind of the reply to it, and a further member of
that reply. -/
structure Plan where
  call : Core.Call
  reply : String
  extra : Option (String × String)

/-- What a message asks for, or the members of the answer that refuses it. -/
inductive Wish where
  | answer (members : Json.Members)
  | seek (cursor : Int) (members : Json.Members)
  | call (plan : Plan)

def errorMembers (text : String) : Json.Members :=
  [("type", .text "error"), ("error", .text text)]

def notForwardable (path : String) : Json.Members :=
  errorMembers "path is not command-forwardable" ++ [("path", .text path)]

def getCall (path : String) (query : Option String) : Core.Call :=
  ⟨.get, path, query, none, none⟩

def postCall (path : String) (body : Option Json.Members) (key : Option String) : Core.Call :=
  ⟨.post, path, none, some (body.getD []), key⟩

end Gatehouse.Live

namespace Gatehouse.Message

open Live

/-- The method of a command: the one it names, or POST if it has a body and GET if it has none. -/
def commandMethod? (m : Message) : Option Method :=
  match m.method.bind Text.nonBlank? with
  | some name =>
    if Text.sameLetters name "GET" then some .get
    else if Text.sameLetters name "POST" then some .post
    else none
  | none => some (if m.body.isSome then .post else .get)

/-- The path of a command and the query that goes with it: its own query, or what follows a `?` in
the path. -/
def commandTarget (path : String) (query : Option String) : String × Option String :=
  match Text.cut '?' path with
  | none => (path, query.bind Text.nonBlank?)
  | some (path, inline) =>
    (path, (query.bind Text.nonBlank?).or (if inline = "" then none else some inline))

def command (m : Message) : Wish :=
  match m.commandMethod? with
  | none => .answer (errorMembers "method must be GET or POST")
  | some method =>
    match m.path.bind commandPath? with
    | none => .answer (notForwardable "")
    | some full =>
      let (path, query) := commandTarget full m.query
      .call ⟨⟨method, path, query, m.body, m.idempotencyKey⟩, "command_result", none⟩

def onTerminal (m : Message) (wish : String → Wish) : Wish :=
  match terminalId m.sessionId with
  | .ok id => wish id
  | .error e => .answer (errorMembers e.message)

def terminalExtra (id : String) : Option (String × String) :=
  some ("session_id", id)

def terminalPoll (m : Message) (id : String) : Wish :=
  let (since, limit) := m.terminalWindow
  let query := "since_seq=" ++ toString since ++ "&limit=" ++ toString limit
  .call ⟨getCall (Route.terminal id .output).path (some query), "terminal_output",
    terminalExtra id⟩

def terminalType (m : Message) (id : String) : Wish :=
  match m.terminalInput with
  | none => .answer (errorMembers "'input' is required")
  | some keys =>
    .call ⟨postCall (Route.terminal id .input).path (some [("input", .text keys)])
      m.idempotencyKey, "terminal_input_result", terminalExtra id⟩

def terminalClose (m : Message) (id : String) : Wish :=
  .call ⟨postCall (Route.terminal id .close).path m.body m.idempotencyKey, "terminal_closed",
    terminalExtra id⟩

def onBrowser (m : Message) (r : BrowserRoute) : Wish :=
  let body := if r.method = .post then some (m.body.getD []) else none
  .call ⟨⟨r.method, r.path, none, body, m.idempotencyKey⟩, r.reply, some ("path", r.path)⟩

def wish (m : Message) : Wish :=
  match Text.lower (Text.trim m.kind) with
  | "ping" => .answer [("type", .text "pong")]
  | "set_since_id" =>
    match m.sinceId with
    | some since =>
      let cursor := max since 0
      .seek cursor [("type", .text "ack"), ("since_id", .int cursor)]
    | none => .answer (errorMembers "'since_id' is required")
  | "command" => m.command
  | "terminal_list" =>
    .call ⟨getCall (Route.resource .terminals).path none, "terminal_sessions", none⟩
  | "terminal_start" =>
    .call ⟨postCall (Route.resource .terminals).path m.body m.idempotencyKey, "terminal_started",
      none⟩
  | "terminal_poll" => m.onTerminal m.terminalPoll
  | "terminal_input" => m.onTerminal m.terminalType
  | "terminal_close" => m.onTerminal m.terminalClose
  | kind =>
    match browserRoute? kind with
    | some r => m.onBrowser r
    | none => .answer (errorMembers ("unsupported message type: " ++ m.kind))

end Gatehouse.Message
