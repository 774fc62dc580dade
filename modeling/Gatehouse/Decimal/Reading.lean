import Gatehouse.Text.Ascii
import Gatehouse.Text.Split

/-!
# Reading a number in decimal

A decimal is an optional sign, digits with an optional point (a digit on one side of it is enough)
and an optional exponent; `inf`, `infinity` and `nan` are read in any case. The result is the double
nearest to the decimal, ties to even.
-/

namespace Gatehouse.Decimal

/-- The double nearest to `mantissa * 10 ^ exponent`. Outside the range where doubles live the
answer is known without the power of ten. -/
def nearest (mantissa : Nat) (exponent : Int) : Float :=
  let size : Int := (Nat.toDigits 10 mantissa).length + exponent
  if mantissa = 0 then 0
  else if 400 < size then 1 / 0
  else if size < -400 then 0
  else Float.ofScientific mantissa (exponent < 0) exponent.natAbs

/-- The exponent after `e`, with no effect when there is none. -/
def exponent? : List Char → Option Int
  | [] => some 0
  | e :: rest =>
    if e = 'e' ∨ e = 'E' then
      match rest with
      | '-' :: ds => (Text.decimal? ds).map fun n => -(n : Int)
      | '+' :: ds => (Text.decimal? ds).map fun n => (n : Int)
      | ds => (Text.decimal? ds).map fun n => (n : Int)
    else none

def unsigned? (l : List Char) : Option Float :=
  match Text.lower (String.ofList l) with
  | "inf" | "infinity" => some (1 / 0)
  | "nan" => some (0 / 0)
  | _ =>
    let whole := l.takeWhile Char.isDigit
    let rest := l.dropWhile Char.isDigit
    let fraction := match rest with
      | '.' :: ds => ds.takeWhile Char.isDigit
      | _ => []
    let tail := match rest with
      | '.' :: ds => ds.dropWhile Char.isDigit
      | _ => rest
    match Text.decimal? (whole ++ fraction), exponent? tail with
    | some mantissa, some e => some (nearest mantissa (e - fraction.length))
    | _, _ => none

def read? (s : String) : Option Float :=
  match s.toList with
  | '-' :: rest => (unsigned? rest).map fun x => -x
  | '+' :: rest => unsigned? rest
  | rest => unsigned? rest

/-- The whole part of a number, held within the signed numbers of 64 bits; NaN counts as zero. -/
def toInt64 (x : Float) : Int :=
  x.toInt64.toInt

end Gatehouse.Decimal
