/-!
# Punycode

A label with characters outside ASCII is written with its ASCII characters first and then, as one
number per insertion, where and which the others are. The numbers have digits of varying weight that
adapt to the distance between insertions.
-/

namespace Gatehouse.Punycode

/-- The threshold between the digits of a number and its last digit, at position `k`. -/
def threshold (k bias : Nat) : Nat :=
  if k ≤ bias then 1 else if bias + 26 ≤ k then 26 else k - bias

/-- The bias for the next number after a distance `delta`. -/
def adapt (delta count : Nat) (first : Bool) : Nat :=
  let d := if first then delta / 700 else delta / 2
  go 64 (d + d / count) 0
where
  /-- Divides until the distance is small. -/
  go : Nat → Nat → Nat → Nat
    | 0, _, k => k
    | fuel + 1, d, k => if 455 < d then go fuel (d / 35) (k + 36) else k + 36 * d / (d + 38)

def digitChar (n : Nat) : Char :=
  if n < 26 then Char.ofNat (n + 'a'.toNat) else Char.ofNat (n - 26 + '0'.toNat)

def digit? (c : Char) : Option Nat :=
  if 'a' ≤ c ∧ c ≤ 'z' then some (c.toNat - 'a'.toNat)
  else if 'A' ≤ c ∧ c ≤ 'Z' then some (c.toNat - 'A'.toNat)
  else if '0' ≤ c ∧ c ≤ '9' then some (c.toNat - '0'.toNat + 26)
  else none

def number (bias : Nat) : Nat → Nat → Nat → List Char
  | 0, _, _ => []
  | fuel + 1, q, k =>
    let t := threshold k bias
    if q < t then [digitChar q]
    else digitChar (t + (q - t) % (36 - t)) :: number bias fuel ((q - t) / (36 - t)) (k + 36)

/-- What an encoder carries: the code point reached, the distance since the last insertion, the
bias, and the number of characters written. -/
structure Progress where
  point : Nat
  delta : Nat
  bias : Nat
  handled : Nat

/-- Writes the insertions of one code point, which are found by a walk over the label. -/
def insertions (basic point : Nat) : List Char → Progress → List Char × Progress
  | [], p => ([], p)
  | c :: rest, p =>
    if c.toNat < point then insertions basic point rest { p with delta := p.delta + 1 }
    else if c.toNat = point then
      let out := number p.bias 64 p.delta 36
      let (more, p) := insertions basic point rest
        { p with
          bias := adapt p.delta (p.handled + 1) (p.handled == basic)
          delta := 0
          handled := p.handled + 1 }
      (out ++ more, p)
    else insertions basic point rest p

def sweep (label : List Char) (basic : Nat) : Nat → Progress → List Char
  | 0, _ => []
  | fuel + 1, p =>
    match ((label.map Char.toNat).filter (p.point ≤ ·)).min? with
    | none => []
    | some next =>
      let delta := p.delta + (next - p.point) * (p.handled + 1)
      let (out, p) := insertions basic next label { p with point := next, delta := delta }
      out ++ sweep label basic fuel { p with point := next + 1, delta := p.delta + 1 }

def encode (label : List Char) : List Char :=
  let basic := label.filter (·.toNat < 0x80)
  (if basic = [] then [] else basic ++ ['-']) ++
    sweep label basic.length label.length ⟨0x80, 0, 72, basic.length⟩

def number? (bias : Nat) : Nat → Nat → Nat → Nat → List Char → Option (Nat × List Char)
  | 0, _, _, _, _ => none
  | _ + 1, _, _, _, [] => none
  | fuel + 1, acc, weight, k, c :: rest =>
    match digit? c with
    | none => none
    | some d =>
      let t := threshold k bias
      let acc := acc + d * weight
      if 0x100000000 ≤ acc then none
      else if d < t then some (acc, rest)
      else number? bias fuel acc (weight * (36 - t)) (k + 36) rest

def insert? : Nat → Nat → Nat → Nat → List Char → List Char → Option (List Char)
  | 0, _, _, _, _, _ => none
  | _ + 1, _, _, _, out, [] => some out
  | fuel + 1, point, index, bias, out, l =>
    match number? bias 64 0 1 36 l with
    | none => none
    | some (delta, rest) =>
      let count := out.length + 1
      let total := index + delta
      let next := point + total / count
      let place := total % count
      if 0x110000 ≤ next ∨ (0xD800 ≤ next ∧ next < 0xE000) then none
      else
        insert? fuel next (place + 1) (adapt delta count (index == 0))
          (out.take place ++ Char.ofNat next :: out.drop place) rest

def decode? (l : List Char) : Option (List Char) :=
  let tail := (l.reverse.takeWhile (· ≠ '-')).reverse
  let basic := if tail.length = l.length then [] else l.take (l.length - tail.length - 1)
  if basic.all (·.toNat < 0x80) then insert? (l.length + 1) 0x80 0 72 basic tail else none

end Gatehouse.Punycode
