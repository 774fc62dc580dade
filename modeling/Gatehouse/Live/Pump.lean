import Gatehouse.Live.Session

/-!
# The event feed

Next to answering frames, a session polls the core for events after its cursor and passes every
`audit` event on. A batch moves the cursor to its highest id before it is passed on, unless the
client has set the cursor while the poll was under way. A failed poll is reported to the client and
tried again after a pause.
-/

namespace Gatehouse.Live

/-- What becomes of a poll: it failed, or it brought events for the client. -/
inductive Feed where
  | failed (envelope : Json)
  | batch (ids : List Int) (envelopes : List Json)

namespace Feed

/-- The pause after a failed poll in milliseconds. -/
def errorPause : Nat := 500

/-- The pause after a poll without events in milliseconds. -/
def idlePause : Nat := 100

def envelopes : Feed → List Json
  | failed envelope => [envelope]
  | batch _ envelopes => envelopes

/-- The pause before the next poll in milliseconds. -/
def pause : Feed → Nat
  | failed _ => errorPause
  | batch _ [] => idlePause
  | batch _ _ => 0

def highest? : List Int → Option Int
  | [] => none
  | id :: rest => some ((highest? rest).elim id (max id))

/-- The cursor after a poll that was made at `since`, where it now stands at `cursor`. -/
def advance (f : Feed) (since cursor : Int) : Int :=
  match f with
  | failed _ => cursor
  | batch ids _ =>
    match highest? ids with
    | some next => if since < next ∧ cursor = since then next else cursor
    | none => cursor

end Feed

namespace Session

def pollRequest (s : Session) (since : Int) : Exchange (Except Core.Failure Core.Reply) :=
  .ask (s.client.poll since s.poll s.requestId) id

def eventRecord (s : Session) (e : Event) : Json :=
  s.record [("type", .text "event"), ("event", .text e.name), ("data", .object e.data)]

def feedError (s : Session) (e : Core.Failure) : Json :=
  s.record (errorMembers e.message ++ [("source", .text "events")])

/-- What becomes of the answer to a poll. -/
def feed [CharTables] (s : Session) (outcome : Except Core.Failure Core.Reply) : Feed :=
  match outcome.bind Core.Reply.events with
  | .error e => .failed (s.feedError e)
  | .ok events =>
    let audits := events.filter fun e => e.name = Event.audit
    .batch (audits.filterMap Event.id?) (audits.map s.eventRecord)

end Session

end Gatehouse.Live
