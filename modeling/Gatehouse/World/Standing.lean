import Gatehouse.Live.Frame
import Gatehouse.Relay.Answer
import Gatehouse.World.Watching

/-!
# A relay standing in a world

A relay is started in a world, is asked one thing after the other, and may be started again on the
same disk. A request that opens a session leaves a socket, whose frames are answered one after the
other.
-/

namespace Gatehouse

/-- A relay, what it carries, the world around it, and the time on its clock. -/
structure Standing where
  relay : Relay
  state : Relay.State
  world : World
  clock : Nat

/-- An open socket: its session, and its feed as far as it was followed. -/
structure Socket where
  session : Live.Session
  watched : World.Watched

inductive Returned where
  | record (j : Json)
  | pong (b : Bytes)
  | closed

namespace Standing

def start [CharTables] (w : World) (c : Config) (now : Int) : Except ConfigError Standing :=
  (Relay.start w.surroundings c now).map fun (relay, state) => ⟨relay, state, w, 0⟩

/-- Starts the relay again: only what is on the disk stays. -/
def restart [CharTables] (v : Standing) (c : Config) (now : Int) : Except ConfigError Standing :=
  (start v.world c now).map fun again => { again with clock := v.clock }

/-- Answers a request, for which a microsecond passes. -/
def answer (v : Standing) (now : Int) (requestId sessionId : String) (request : Http.Request) :
    Relay.Answer × Standing :=
  let ((answer, state), world) :=
    v.world.run (v.relay.answer v.state ⟨now, v.clock, requestId, sessionId⟩ request)
  (answer, { v with state, world, clock := v.clock + 1000 })

end Standing

namespace Socket

/-- The socket of a session, whose feed is followed for some time. -/
def ofSession [CharTables] (s : Live.Session) (since : Int) (polls : List World.Polled) (span : Nat) : Socket :=
  let greeted := (Live.Serving.start since).greet s fun _ => true
  ⟨s, (World.Watched.start greeted (some polls)).toEnd ⟨fun _ => true, false, span⟩ s⟩

/-- Answers frames; the calls that they become have the ids `idOf n`, `idOf (n + 1)`, and so on. -/
def exchange (s : Live.Session) (idOf : Nat → String) :
    List Live.Frame → Int → Nat → World → List Returned × World
  | [], _, _, w => ([], w)
  | .close :: _, _, _, w => ([.closed], w)
  | .ping b :: rest, cursor, n, w =>
    let (more, w) := exchange s idOf rest cursor (n + 1) w
    (.pong b :: more, w)
  | frame :: rest, cursor, n, w =>
    match frame.message? with
    | none => exchange s idOf rest cursor (n + 1) w
    | some text =>
      let (h, w) := w.run (s.handle cursor (idOf n) text)
      let (more, w) := exchange s idOf rest h.cursor (n + 1) w
      (.record h.reply :: more, w)

end Socket

end Gatehouse
