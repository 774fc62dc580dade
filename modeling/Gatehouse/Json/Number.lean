import Gatehouse.Json.Value
import Gatehouse.Decimal.Layout
import Gatehouse.Text.Ascii

/-!
# JSON numbers in text

A number is read into the digits that fit 64 bits and a power of ten; the double is that number of
digits, rounded, times or divided by the power. With more than 15 digits this can differ from the
nearest double in its last bit. A number too large for a double is no number.
-/

namespace Gatehouse.Json

/-- The parts of a number as written: digits before and after the point, and the exponent with its
sign. -/
structure Numeral where
  negative : Bool
  whole : List Char
  fraction : Option (List Char)
  exponent : Option (Bool × List Char)
deriving Repr, DecidableEq

def maxUnsigned : Nat := 0xFFFFFFFFFFFFFFFF

/-- Digits taken so far, the power of ten that goes with them, and whether a digit was too much. -/
structure Gathered where
  significand : Nat
  power : Int
  full : Bool

/-- Takes a digit before the point: once the digits are full, every further one is a power of
ten. -/
def Gathered.whole (g : Gathered) (c : Char) : Gathered :=
  let next := g.significand * 10 + (c.toNat - '0'.toNat)
  if g.full ∨ maxUnsigned < next then { g with power := g.power + 1, full := true }
  else { g with significand := next }

/-- Takes a digit after the point: once the digits are full, every further one is dropped. -/
def Gathered.fraction (g : Gathered) (c : Char) : Gathered :=
  let next := g.significand * 10 + (c.toNat - '0'.toNat)
  if g.full ∨ maxUnsigned < next then { g with full := true }
  else { g with significand := next, power := g.power - 1 }

def tenTo (n : Nat) : Float :=
  Float.ofScientific 1 false n

/-- A double divided by ten `n` times over, in strides of 308. -/
def shrink (f : Float) (n : Nat) : Nat → Float
  | 0 => f
  | limit + 1 => if n ≤ 308 then f / tenTo n else shrink (f / tenTo 308) (n - 308) limit

def Gathered.toFloat? (g : Gathered) : Option Float :=
  let f := Float.ofNat g.significand
  if g.power < 0 then some (if g.significand = 0 then f else shrink f (-g.power).toNat 8)
  else if 308 < g.power then if g.significand = 0 then some f else none
  else
    let x := f * tenTo g.power.toNat
    if x.isInf then none else some x

/-- Exponents are held within the signed numbers of 32 bits. -/
def clampExponent (n : Int) : Int :=
  max (-0x80000000) (min 0x7FFFFFFF n)

def Numeral.real? (n : Numeral) : Option Float :=
  let start := n.whole.foldl Gathered.whole ⟨0, 0, false⟩
  let g := (n.fraction.getD []).foldl Gathered.fraction { start with full := false }
  let size := match n.exponent with
    | none => some g
    | some (negative, digits) =>
      match Text.decimal? digits with
      | none => none
      | some e =>
        if 0x80000000 ≤ e then
          if g.significand ≠ 0 ∧ ¬ negative then none else some ⟨0, 0, false⟩
        else some { g with power := clampExponent (g.power + if negative then -(e : Int) else e) }
  match size with
  | none => none
  | some g => g.toFloat?.map fun x => if n.negative then -x else x

/-- The number of a numeral. A minus sign before zero makes a double. -/
def Numeral.number? (n : Numeral) : Option Number :=
  match n.fraction, n.exponent, Text.decimal? n.whole with
  | none, none, some value =>
    if n.negative then
      if 0 < value ∧ value ≤ 0x8000000000000000 then some (.integer (-(value : Int)))
      else n.real?.map .real
    else if value ≤ maxUnsigned then some (.integer value)
    else n.real?.map .real
  | _, _, _ => n.real?.map .real

def Number.write : Number → String
  | .integer n => toString n
  | .real x => if x.isNaN || x.isInf then "null" else Decimal.Layout.json.write x

def Number.int64? : Number → Option Int
  | .integer n => if n < 0x8000000000000000 then some n else none
  | .real _ => none

def Number.toFloat : Number → Float
  | .integer n => if n < 0 then -(Float.ofNat n.natAbs) else Float.ofNat n.natAbs
  | .real x => x

/-- The whole part of a number, held within the signed numbers of 64 bits. -/
def Number.whole (n : Number) : Int :=
  match n.int64? with
  | some i => i
  | none => n.toFloat.toInt64.toInt

end Gatehouse.Json
