import Gatehouse.Decimal.Layout
import Gatehouse.Decimal.Reading
import Gatehouse.Text.Blank

/-!
# How long to poll

A client may choose how long a poll waits and how often the core looks for news. What cannot be read
as a finite number is taken as the default, and everything is held within bounds.
-/

namespace Gatehouse

/-- The seconds that a poll waits, and the seconds between two looks. -/
structure PollSettings where
  timeout : Float
  interval : Float

namespace PollSettings

/-- A number from text, or the default where it is none or not finite. -/
def seconds (s : Option String) (default : Float) : Float :=
  match s.bind fun s => Decimal.read? (Text.trim s) with
  | some x => if x.isFinite then x else default
  | none => default

def held (low high x : Float) : Float :=
  if x < low then low else if high < x then high else x

def ofTexts (timeout interval : Option String) : PollSettings :=
  ⟨held 1 120 (seconds timeout 20), held 0.05 5 (seconds interval 0.25)⟩

/-- The query of a poll for the events after `since`. -/
def query (p : PollSettings) (since : Int) : String :=
  "timeout=" ++ Decimal.Layout.plain.write p.timeout ++ "&interval=" ++
    Decimal.Layout.plain.write p.interval ++ "&since_id=" ++ toString since

end PollSettings

end Gatehouse
