import Gatehouse.Live.Serving
import Gatehouse.World.Basic

/-!
# Watching a feed

A connection's feed is followed in a world for a while: each poll is answered from a script, and
while a poll is under way the client may set the cursor. When the script is at its end the next
poll hangs, and the watch ends with it.
-/

namespace Gatehouse.World

/-- The answer to a poll, and where the client sets the cursor meanwhile. -/
structure Polled where
  answer : Core.Answer
  seek : Option Int

/-- How a feed is watched: which records the client takes, whether a reported failure ends the
watch, and for how many milliseconds it goes on. -/
structure Watching where
  takes : Nat → Bool
  endsOnFailure : Bool
  span : Nat

/-- A watched connection: the polls to come if the core can be reached, what it was asked, the
replies to the frames that set the cursor, whether the watch has ended, and the time gone. -/
structure Watched where
  serving : Live.Serving
  polls : Option (List Polled)
  asked : List Core.Request
  replies : List Json
  isEnded : Bool
  elapsed : Nat

namespace Watched

variable [CharTables]

def start (serving : Live.Serving) (polls : Option (List Polled)) : Watched :=
  ⟨serving, polls, [], [], false, 0⟩

def seekFrame (since : Int) : String :=
  Json.write (Json.record [("type", .text "set_since_id"), ("since_id", .int since)])

/-- Sets the cursor while a poll is under way, for which the core is not asked. -/
def seek (w : Watched) (s : Live.Session) (since : Int) : Watched :=
  let h := (s.handle w.serving.cursor "" (seekFrame since)).result (fun _ => refused) fun _ => none
  { w with serving := { w.serving with cursor := h.cursor }, replies := w.replies ++ [h.reply] }

def pass (w : Watched) (how : Watching) (since : Int) (f : Live.Feed) : Watched :=
  let hasFailed := match f with
    | .failed _ => true
    | .batch _ _ => false
  { w with
    serving := w.serving.feed how.takes since f
    isEnded := w.isEnded || (hasFailed && how.endsOnFailure)
    elapsed := w.elapsed + f.pause }

def poll (w : Watched) (how : Watching) (s : Live.Session) : Watched :=
  let since := w.serving.cursor
  let exchange := s.pollRequest since
  let feed (answer : Core.Answer) : Live.Feed :=
    s.feed (exchange.result (fun _ => answer) fun _ => none)
  match exchange.call?, w.polls with
  | some r, some [] => { w with isEnded := true, asked := w.asked ++ [r] }
  | some r, some (next :: polls) =>
    let w := { w with polls := some polls, asked := w.asked ++ [r] }
    (next.seek.elim w (w.seek s)).pass how since (feed next.answer)
  | _, _ => w.pass how since (feed refused)

def isFollowed (w : Watched) (how : Watching) : Bool :=
  !w.isEnded && w.serving.isOpen && w.elapsed < how.span

def follow (how : Watching) (s : Live.Session) : Nat → Watched → Watched
  | 0, w => w
  | n + 1, w => if w.isFollowed how then follow how s n (w.poll how s) else w

/-- Follows the feed to the end of the watch: each poll takes one from the script or some of the
time. -/
def toEnd (w : Watched) (how : Watching) (s : Live.Session) : Watched :=
  w.follow how s (how.span + (w.polls.getD []).length + 1)

end Watched

end Gatehouse.World
