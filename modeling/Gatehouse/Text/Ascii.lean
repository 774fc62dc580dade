/-!
# ASCII letters and digits

Names that the relay compares without regard to case (scopes, schemes, header names) are folded in
ASCII only: every other letter keeps its case.
-/

namespace Gatehouse.Text

def lower (s : String) : String :=
  String.ofList (s.toList.map Char.toLower)

/-- Equality up to the case of ASCII letters. -/
def sameLetters (s t : String) : Bool :=
  lower s == lower t

def digit? (c : Char) : Option Nat :=
  if '0' ≤ c ∧ c ≤ '9' then some (c.toNat - '0'.toNat) else none

def hexDigit? (c : Char) : Option Nat :=
  if '0' ≤ c ∧ c ≤ '9' then some (c.toNat - '0'.toNat)
  else if 'a' ≤ c ∧ c ≤ 'f' then some (c.toNat - 'a'.toNat + 10)
  else if 'A' ≤ c ∧ c ≤ 'F' then some (c.toNat - 'A'.toNat + 10)
  else none

/-- The digit of value `n < 16`, letters small. -/
def hexChar (n : Nat) : Char :=
  if n < 10 then Char.ofNat (n + '0'.toNat) else Char.ofNat (n - 10 + 'a'.toNat)

/-- The digit of value `n < 16`, letters capital. -/
def hexCapital (n : Nat) : Char :=
  if n < 10 then Char.ofNat (n + '0'.toNat) else Char.ofNat (n - 10 + 'A'.toNat)

/-- A number in base 16 with small letters and no leading zeros. -/
def hexText (n : Nat) : String :=
  String.ofList ((Nat.toDigits 16 n).map Char.toLower)

/-- The value of a run of digits in the given base, read by `digit`; an empty run has none. -/
def number? (base : Nat) (digit : Char → Option Nat) : List Char → Option Nat
  | [] => none
  | c :: rest =>
    (c :: rest).foldl (fun acc c => do return (← acc) * base + (← digit c)) (some 0)

/-- The value of a non-empty run of decimal digits. -/
def decimal? : List Char → Option Nat :=
  number? 10 digit?

end Gatehouse.Text
