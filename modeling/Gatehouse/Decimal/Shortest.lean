/-!
# The shortest decimal of a double

A positive finite double is `m * 2 ^ q`, and every real number closer to it than to its neighbours
reads back as it (the ends of that interval too, when `m` is even). On the grid of decimals with
`n` significant digits only the two neighbours of the double can be the nearest ones, so the grids
are tried from coarse to fine and the first that meets the interval gives the digits.
-/

namespace Gatehouse.Decimal

/-- A positive double `significand * 2 ^ exponent`. The gap below a power of two is half as wide as
the gap above it, which `narrowBelow` records. -/
structure Binary where
  significand : Nat
  exponent : Int
  narrowBelow : Bool
deriving Repr, DecidableEq

/-- The parts of a double from its bits, sign dropped. -/
def Binary.ofBits (bits : Nat) : Binary :=
  let fraction : Nat := bits % 0x10000000000000
  let biased : Nat := bits / 0x10000000000000 % 0x800
  if biased = 0 then ⟨fraction, -1074, false⟩
  else ⟨0x10000000000000 + fraction, (biased : Int) - 1075, fraction = 0 ∧ biased > 1⟩

/-- A positive decimal `digits * 10 ^ exponent`. -/
structure Digits where
  digits : Nat
  exponent : Int
deriving Repr, DecidableEq

def digitCount (n : Nat) : Nat :=
  if n = 0 then 0 else (Nat.toDigits 10 n).length

/-- The least `j` up to `limit` with `den ≤ num * 10 ^ j`. -/
def leadingZeros (num den : Nat) : Nat → Nat
  | 0 => 0
  | limit + 1 => if den ≤ num then 0 else leadingZeros (num * 10) den limit + 1

/-- The power `k` with `10 ^ (k - 1) ≤ num / den < 10 ^ k`. -/
def magnitude (num den : Nat) : Int :=
  if den ≤ num then digitCount (num / den) else 1 - (leadingZeros num den 400 : Int)

/-- Drops zeros at the end of the digits, at most `limit` of them. -/
def Digits.strip (d : Digits) : Nat → Digits
  | 0 => d
  | limit + 1 =>
    if d.digits ≠ 0 ∧ d.digits % 10 = 0 then Digits.strip ⟨d.digits / 10, d.exponent + 1⟩ limit
    else d

/-- The interval that reads back as a double, in quarters of its last binary place. -/
structure Interval where
  low : Nat
  value : Nat
  high : Nat
  den : Nat
  closed : Bool

/-- The interval of the reals that read back as `b`. -/
def Binary.interval (b : Binary) : Interval :=
  let place := b.exponent - 2
  let up := if 0 ≤ place then Nat.pow 2 place.toNat else 1
  let den := if 0 ≤ place then 1 else Nat.pow 2 (-place).toNat
  ⟨(4 * b.significand - if b.narrowBelow then 1 else 2) * up, 4 * b.significand * up,
    (4 * b.significand + 2) * up, den, b.significand % 2 = 0⟩

/-- Whether `d / 1` on the grid with unit `unit / scale` lies in the interval. -/
def Interval.holds (i : Interval) (d unit scale : Nat) : Bool :=
  let x := d * unit * i.den
  if i.closed then i.low * scale ≤ x && x ≤ i.high * scale
  else i.low * scale < x && x < i.high * scale

/-- The digits on the grid of `n` significant digits, when one of the neighbours of the value reads
back; of two the nearer, and of two equally near the even one. -/
def Interval.onGrid (i : Interval) (k : Int) (n : Nat) : Option Digits :=
  let e := k - n
  let unit := if 0 ≤ e then Nat.pow 10 e.toNat else 1
  let scale := if 0 ≤ e then 1 else Nat.pow 10 (-e).toNat
  let d := i.value * scale / (unit * i.den)
  let below := i.value * scale - d * unit * i.den
  let above := (d + 1) * unit * i.den - i.value * scale
  match i.holds d unit scale, i.holds (d + 1) unit scale with
  | true, true =>
    some ⟨if below < above ∨ (below = above ∧ d % 2 = 0) then d else d + 1, e⟩
  | true, false => some ⟨d, e⟩
  | false, true => some ⟨d + 1, e⟩
  | false, false => none

/-- The shortest decimal that reads back as `b`, without zeros at its end. Seventeen digits always
suffice. -/
def Binary.shortest (b : Binary) : Digits :=
  let i := b.interval
  let k := magnitude i.value i.den
  match (List.range 17).findSome? fun n => i.onGrid k (n + 1) with
  | some d => d.strip 20
  | none => ⟨0, 0⟩

/-- The sign and magnitude of a number that is neither infinite nor NaN, with no digits for zero. -/
def ofFloat (x : Float) : Digits :=
  (Binary.ofBits (x.toBits.toNat % 0x8000000000000000)).shortest

def isNegative (x : Float) : Bool :=
  0x8000000000000000 ≤ x.toBits.toNat

end Gatehouse.Decimal
