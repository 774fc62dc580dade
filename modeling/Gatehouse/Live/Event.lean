import Gatehouse.Json.Reading
import Gatehouse.Text.Split

/-!
# Events of the core

The core answers a poll with named frames, each an `event:` line and a `data:` line. A name holds
for one data line only; without one the frame is a `message`. Data that is no JSON object is
wrapped in one, so nothing of a frame is lost.
-/

namespace Gatehouse

structure Event where
  name : String
  data : Json.Members

namespace Event

/-- The name of the frames that clients are told of. -/
def audit : String := "audit"

def unnamed : String := "message"

/-- The data of a frame: an object as it is, another value under `value`, other text under `raw`. -/
def dataOf (s : String) : Json.Members :=
  match Json.ofText? s with
  | some (.object members) => members
  | some v => [("value", v)]
  | none => [("raw", .text s)]

/-- The number of an event: a number, its whole part, or a text that is one. -/
def id? (e : Event) : Option Int :=
  match Keyed.get? "id" e.data with
  | some (.number n) => some n.whole
  | some (.text s) => Text.int64? (Text.trim s)
  | _ => none

/-- What the reader of a stream carries from line to line: the name that the next data line takes,
and the events so far, the last first. -/
structure Reader where
  name : String
  events : List Event

def Reader.line (r : Reader) (line : String) : Reader :=
  match Text.after? "event:" line with
  | some name => { r with name := (Text.nonBlank? name).getD unnamed }
  | none =>
    match Text.after? "data:" line with
    | some data => ⟨unnamed, ⟨r.name, dataOf (Text.trim data)⟩ :: r.events⟩
    | none => r

/-- A line without the carriage returns at its end. -/
def bareLine (l : List Char) : String :=
  String.ofList (Text.dropEnd (· == '\r') l)

def ofStream (raw : String) : List Event :=
  let lines := (Text.splitChars '\n' raw.toList).map bareLine
  (lines.foldl Reader.line ⟨unnamed, []⟩).events.reverse

end Event

end Gatehouse
