import Gatehouse.Decimal.Shortest

/-!
# Writing a number in decimal

The digits of a double are always the shortest ones. A layout says how they are set: which powers of
ten are written positionally, whether a whole number keeps a `.0`, and how the exponent is marked.
-/

namespace Gatehouse.Decimal

/-- How digits are set. `positional k` decides for a number whose first digit stands for
`10 ^ (k - 1)`. -/
structure Layout where
  positional : Int → Bool
  wholeMark : String

/-- Every number written out, whole ones without a point. -/
def Layout.plain : Layout :=
  ⟨fun _ => true, ""⟩

/-- Whole numbers keep `.0`; from `10 ^ 16` up and below `10 ^ (-5)` an exponent is used. -/
def Layout.json : Layout :=
  ⟨fun k => -5 < k ∧ k ≤ 16, ".0"⟩

def zeros (n : Nat) : List Char :=
  List.replicate n '0'

/-- The digits of a positive decimal with the point in its place. -/
def Digits.positional (d : Digits) (wholeMark : String) : String :=
  let ds := Nat.toDigits 10 d.digits
  let k : Int := ds.length + d.exponent
  if 0 ≤ d.exponent then String.ofList (ds ++ zeros d.exponent.toNat) ++ wholeMark
  else if 0 < k then String.ofList (ds.take k.toNat ++ '.' :: ds.drop k.toNat)
  else String.ofList ('0' :: '.' :: zeros (-k).toNat ++ ds)

/-- The digits of a positive decimal with one digit before the point and a signed exponent. -/
def Digits.scientific (d : Digits) : String :=
  let ds := Nat.toDigits 10 d.digits
  let k : Int := ds.length + d.exponent - 1
  let point := if ds.length = 1 then ds else ds.take 1 ++ '.' :: ds.drop 1
  String.ofList point ++ "e" ++ (if k < 0 then "-" else "+") ++ toString k.natAbs

def Layout.write (l : Layout) (x : Float) : String :=
  if x.isNaN then "NaN"
  else
    let body :=
      if x.isInf then "inf"
      else
        let d := ofFloat x
        if d.digits = 0 then "0" ++ l.wholeMark
        else if l.positional (digitCount d.digits + d.exponent) then d.positional l.wholeMark
        else d.scientific
    if isNegative x then "-" ++ body else body

end Gatehouse.Decimal
