import Gatehouse.Text.Ascii

/-!
# Whole numbers in text

A number may carry a sign, has at least one digit and nothing else, and must fit the width of the
place it is written to.
-/

namespace Gatehouse.Text

/-- The signed number of 64 bits. -/
def Fits64 (n : Int) : Prop :=
  -0x8000000000000000 ≤ n ∧ n < 0x8000000000000000

instance (n : Int) : Decidable (Fits64 n) :=
  inferInstanceAs (Decidable (_ ∧ _))

/-- Digits after an optional sign, of any size. -/
def integerChars? : List Char → Option Int
  | '-' :: rest => (decimal? rest).map fun n => -(n : Int)
  | '+' :: rest => (decimal? rest).map fun n => (n : Int)
  | rest => (decimal? rest).map fun n => (n : Int)

def int64? (s : String) : Option Int :=
  (integerChars? s.toList).filter fun n => decide (Fits64 n)

/-- A number below `bound`, with an optional plus sign. -/
def natBelow? (bound : Nat) (s : String) : Option Nat :=
  let digits := match s.toList with
    | '+' :: rest => rest
    | l => l
  (decimal? digits).filter (· < bound)

end Gatehouse.Text
