import Gatehouse.Live.Serving
import Mathlib.Logic.Relation

/-!
# A connection, one step at a time

Serving a connection is two activities at once. The loop greets the client and answers its frames; the
pump polls the core for events and passes them on. They share the cursor, the client, and a flag by
which either ends the other. A step is what one of them does without being able to be interrupted, and
a schedule is any sequence of steps: whether a record is taken by the client, what the core answers to
a poll, and which activity goes next are all left open. What is outside while the frames are handled is
given beforehand, turn by turn.
-/

namespace Gatehouse.Live

abbrev Outcome := Except Core.Failure Core.Reply

/-- What is outside while one frame is handled: the id of the call that it may become, and how the
core and the disk behave. -/
structure Turn where
  commandId : String
  core : Core.Request → Core.Answer
  disk : FileWrite → Option String

namespace Session

def handled (s : Session) (t : Turn) (cursor : Int) (frame : String) : Handled :=
  (s.handle cursor t.commandId frame).result t.core t.disk

/-- What a poll can come to where `answers` says what the core may answer, if it is asked. -/
def Brings (s : Session) (answers : Core.Request → Core.Answer → Prop) (since : Int)
    (outcome : Outcome) : Prop :=
  ∃ core disk, (∀ r ∈ (s.pollRequest since).calls core disk, answers r (core r)) ∧
    (s.pollRequest since).result core disk = outcome

end Session

inductive Sender where
  | loop
  | pump
deriving DecidableEq

inductive Loop where
  | greeting
  | waiting
  | handling (frame : String)
  | replying (record : Json)
  | joining
  | returned

inductive Pump where
  | unborn
  | checking
  | loading
  | polling (since : Int)
  | received (since : Int) (outcome : Outcome)
  | passing (rest : List Json) (pause : Nat)
  | pausing
  | stopped

def Pump.isLive : Pump → Bool
  | unborn => false
  | stopped => false
  | _ => true

/-- A connection: the cursor, the frames to come and those handled, the records that the client took
with the activity that sent each, what the pump asked of the core, whether its activities are to end,
whether a record was refused, and where the activities stand. -/
structure Connection where
  cursor : Int
  incoming : List String
  handled : List String
  sent : List (Sender × Json)
  asked : List Core.Request
  isCancelled : Bool
  isBroken : Bool
  loop : Loop
  pump : Pump

namespace Connection

/-- A connection before its greeting, over which these frames will come until the client leaves. -/
def start (since : Int) (frames : List String) : Connection :=
  ⟨max since 0, frames, [], [], [], false, false, .greeting, .unborn⟩

/-- The records that the client took. -/
def taken (c : Connection) : List Json :=
  c.sent.map Prod.snd

/-- Those of them that one of the activities sent. -/
def sentBy (c : Connection) (sender : Sender) : List Json :=
  (c.sent.filter fun m => m.1 = sender).map Prod.snd

theorem taken_concat {c after : Connection} {sender : Sender} {record : Json}
    (h : after.sent = c.sent ++ [(sender, record)]) :
    after.taken = c.taken ++ [record] := by
  rw [taken, taken, h, List.map_append]
  rfl

theorem sentBy_concat_self {c after : Connection} {sender : Sender} {record : Json}
    (h : after.sent = c.sent ++ [(sender, record)]) :
    after.sentBy sender = c.sentBy sender ++ [record] := by
  rw [sentBy, sentBy, h, List.filter_append, List.map_append]
  simp

theorem sentBy_concat_of_ne {c after : Connection} {sender other : Sender} {record : Json}
    (h : after.sent = c.sent ++ [(other, record)]) (hne : other ≠ sender) :
    after.sentBy sender = c.sentBy sender := by
  rw [sentBy, sentBy, h, List.filter_append]
  simp [hne]

/-- What the pump is about to send. -/
def inFlight (c : Connection) : List Json :=
  match c.pump with
  | .passing rest _ => rest
  | _ => []

/-- What the loop does in one step. A frame that comes at the moment at which the connection is to end
may be taken or left. -/
inductive LoopStep (s : Session) (turns : Nat → Turn) : Connection → Connection → Prop where
  | greet {c : Connection} (stands : c.loop = .greeting) :
    LoopStep s turns c
      { c with sent := c.sent ++ [(.loop, s.hello)], loop := .waiting, pump := .checking }
  | unheard {c : Connection} (stands : c.loop = .greeting) :
    LoopStep s turns c { c with isBroken := true, loop := .returned }
  | take {c : Connection} (frame : String) (rest : List String) (stands : c.loop = .waiting)
    (comes : c.incoming = frame :: rest) :
    LoopStep s turns c { c with incoming := rest, loop := .handling frame }
  | handle {c : Connection} (frame : String) (stands : c.loop = .handling frame) :
    LoopStep s turns c
      { c with
        cursor := (s.handled (turns c.handled.length) c.cursor frame).cursor
        handled := c.handled ++ [frame]
        loop := .replying (s.handled (turns c.handled.length) c.cursor frame).reply }
  | reply {c : Connection} (record : Json) (stands : c.loop = .replying record) :
    LoopStep s turns c { c with sent := c.sent ++ [(.loop, record)], loop := .waiting }
  | refused {c : Connection} (record : Json) (stands : c.loop = .replying record) :
    LoopStep s turns c { c with isBroken := true, isCancelled := true, loop := .joining }
  | gone {c : Connection} (stands : c.loop = .waiting) (none : c.incoming = []) :
    LoopStep s turns c { c with isCancelled := true, loop := .joining }
  | cancelled {c : Connection} (stands : c.loop = .waiting) (ends : c.isCancelled = true) :
    LoopStep s turns c { c with loop := .joining }
  | join {c : Connection} (stands : c.loop = .joining) (stopped : c.pump = .stopped) :
    LoopStep s turns c { c with loop := .returned }

variable [CharTables]

/-- What the pump does in one step. -/
inductive PumpStep (s : Session) (answers : Core.Request → Core.Answer → Prop) :
    Connection → Connection → Prop where
  | check {c : Connection} (stands : c.pump = .checking) (lasts : c.isCancelled = false) :
    PumpStep s answers c { c with pump := .loading }
  | poll {c : Connection} (stands : c.pump = .loading) :
    PumpStep s answers c
      { c with
        asked := c.asked ++ (s.pollRequest c.cursor).call?.toList, pump := .polling c.cursor }
  | receive {c : Connection} (since : Int) (outcome : Outcome) (stands : c.pump = .polling since)
    (brought : s.Brings answers since outcome) :
    PumpStep s answers c { c with pump := .received since outcome }
  | advance {c : Connection} (since : Int) (outcome : Outcome)
    (stands : c.pump = .received since outcome) :
    PumpStep s answers c
      { c with
        cursor := (s.feed outcome).advance since c.cursor
        pump := .passing (s.feed outcome).envelopes (s.feed outcome).pause }
  | pass {c : Connection} (record : Json) (rest : List Json) (pause : Nat)
    (stands : c.pump = .passing (record :: rest) pause) :
    PumpStep s answers c
      { c with sent := c.sent ++ [(.pump, record)], pump := .passing rest pause }
  | refused {c : Connection} (record : Json) (rest : List Json) (pause : Nat)
    (stands : c.pump = .passing (record :: rest) pause) :
    PumpStep s answers c { c with isBroken := true, isCancelled := true, pump := .stopped }
  | again {c : Connection} (stands : c.pump = .passing [] 0) :
    PumpStep s answers c { c with pump := .checking }
  | pause {c : Connection} (pause : Nat) (stands : c.pump = .passing [] pause) (long : pause ≠ 0) :
    PumpStep s answers c { c with pump := .pausing }
  | wake {c : Connection} (stands : c.pump = .pausing) :
    PumpStep s answers c { c with pump := .checking }
  | stop {c : Connection}
    (stands : c.pump = .checking ∨ (∃ since, c.pump = .polling since) ∨ c.pump = .pausing)
    (ends : c.isCancelled = true) :
    PumpStep s answers c { c with pump := .stopped }

inductive Step (s : Session) (turns : Nat → Turn) (answers : Core.Request → Core.Answer → Prop)
    (c after : Connection) : Prop where
  | loop (h : LoopStep s turns c after)
  | pump (h : PumpStep s answers c after)

abbrev Steps (s : Session) (turns : Nat → Turn) (answers : Core.Request → Core.Answer → Prop) :
    Connection → Connection → Prop :=
  Relation.ReflTransGen (Step s turns answers)

end Connection

end Gatehouse.Live
