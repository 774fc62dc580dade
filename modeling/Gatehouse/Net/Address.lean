import Gatehouse.Text.Ascii
import Gatehouse.Text.Split

/-!
# Internet addresses

An address is 32 or 128 bits. In text the 32 bits are four decimal numbers without leading zeros;
the 128 bits are groups of four hexadecimal digits, of which one run of zero groups may be left
out, and the last two may be written as an address of 32 bits.
-/

namespace Gatehouse

inductive Address where
  | v4 (bits : Nat)
  | v6 (bits : Nat)
deriving DecidableEq, Repr

namespace Address

/-- A number of at most `most` digits in a base, below `bound`; with `strict` a leading zero stands
alone. Reads as many digits as there are: one digit too many is a failure. -/
def number? (base : Nat) (digit : Char → Option Nat) (most bound : Nat) (strict : Bool)
    (l : List Char) : Option (Nat × List Char) :=
  let ds := l.takeWhile fun c => (digit c).isSome
  match Text.number? base digit ds with
  | none => none
  | some n =>
    if most < ds.length ∨ bound ≤ n ∨ (strict ∧ ds.head? = some '0' ∧ ds.length ≠ 1) then none
    else some (n, l.drop ds.length)

def expect? (c : Char) : List Char → Option (List Char)
  | d :: rest => if c = d then some rest else none
  | [] => none

def quad? (strict : Bool) (l : List Char) : Option (Nat × List Char) := do
  let octet := number? 10 Text.digit? 3 256 strict
  let (a, l) ← octet l
  let (b, l) ← octet (← expect? '.' l)
  let (c, l) ← octet (← expect? '.' l)
  let (d, l) ← octet (← expect? '.' l)
  return (((a * 256 + b) * 256 + c) * 256 + d, l)

/-- Up to `limit` groups between colons, the first without a colon before it. A quad may stand for
the last two groups. Gives the groups, whether they end in a quad, and the rest. -/
def groups (strict : Bool) : Nat → Bool → List Char → List Nat × Bool × List Char
  | 0, _, l => ([], false, l)
  | limit + 1, isFirst, l =>
    match if isFirst then some l else expect? ':' l with
    | none => ([], false, l)
    | some start =>
      match if limit = 0 then none else quad? strict start with
      | some (n, rest) => ([n / 65536, n % 65536], true, rest)
      | none =>
        match number? 16 Text.hexDigit? 4 65536 false start with
        | none => ([], false, l)
        | some (g, rest) =>
          let (gs, quad, rest) := groups strict limit false rest
          (g :: gs, quad, rest)

def ofGroups (gs : List Nat) : Nat :=
  gs.foldl (fun acc g => acc * 65536 + g) 0

/-- The 128 bits of an address. The double colon stands for at least one group when `strict`. -/
def groups? (strict : Bool) (l : List Char) : Option (Nat × List Char) :=
  let (head, quad, rest) := groups strict 8 true l
  if head.length = 8 then some (ofGroups head, rest)
  else if quad then none
  else
    match rest with
    | ':' :: ':' :: rest =>
      let limit := if strict then 7 - head.length else 8 - head.length
      let (tail, _, rest) := groups strict limit true rest
      some (ofGroups (head ++ List.replicate (8 - head.length - tail.length) 0 ++ tail), rest)
    | _ => none

def ofChars? (l : List Char) : Option Address :=
  match quad? true l with
  | some (n, []) => some (.v4 n)
  | _ =>
    match groups? true l with
    | some (n, []) => some (.v6 n)
    | _ => none

def ofText? (s : String) : Option Address :=
  ofChars? s.toList

def toGroups (n : Nat) : List Nat :=
  (List.range 8).map fun i => n / Nat.pow 65536 (7 - i) % 65536

def quadText (n : Nat) : String :=
  Text.joined "." ((List.range 4).map fun i => toString (n / Nat.pow 256 (3 - i) % 256))

def zeroRun (gs : List Nat) : Nat :=
  (gs.takeWhile (· == 0)).length

/-- The start and length of the first longest run of zeros. -/
def longestRun (gs : List Nat) : Nat × Nat :=
  (List.range gs.length).foldl
    (fun best i => if best.2 < zeroRun (gs.drop i) then (i, zeroRun (gs.drop i)) else best) (0, 0)

/-- Groups between colons, the first longest run of at least two zeros left out. -/
def groupsText (n : Nat) : String :=
  let gs := toGroups n
  let hex (l : List Nat) := Text.joined ":" (l.map Text.hexText)
  let (start, length) := longestRun gs
  if length < 2 then hex gs
  else hex (gs.take start) ++ "::" ++ hex (gs.drop (start + length))

/-- The text of an address. One of 128 bits that stands for one of 32 shows that as a quad. -/
def text : Address → String
  | v4 n => quadText n
  | v6 n =>
    if n / 0x100000000 = 0xFFFF then "::ffff:" ++ quadText (n % 0x100000000) else groupsText n

/-- The address of a peer written with its socket number. -/
def ofPeer? (s : String) : Option Address :=
  match s.toList with
  | '[' :: rest =>
    match Text.cutChars ']' rest with
    | some (inside, _) =>
      match groups? true inside with
      | some (n, []) => some (.v6 n)
      | _ => none
    | none => none
  | l => (Text.cutChars ':' l).bind fun (host, _) => ofChars? host

end Address

end Gatehouse
