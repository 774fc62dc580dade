import Gatehouse.Json.Number

/-!
# JSON as written

The tree of a JSON text before it is read as values: numerals as digits, strings as characters and
escapes, members in the order and number in which they stand. A field that a record does not know
is only skipped, so a lone surrogate, a number out of range or deep nesting in it does no harm;
those are refused when the tree becomes a value.
-/

namespace Gatehouse.Json

/-- One element of a string: a character, or a four-digit escape. -/
inductive Unit16 where
  | char (c : Char)
  | code (n : Nat)
deriving Repr, DecidableEq

inductive Written where
  | null
  | bool (b : Bool)
  | number (n : Numeral)
  | text (units : List Unit16)
  | list (items : List Written)
  | object (members : List (List Unit16 × Written))
deriving Inhabited

def skip (l : List Char) : List Char :=
  l.dropWhile fun c => c == ' ' || c == '\t' || c == '\n' || c == '\r'

def shortEscape? : Char → Option Char
  | '"' => some '"'
  | '\\' => some '\\'
  | '/' => some '/'
  | 'b' => some '\x08'
  | 'f' => some '\x0c'
  | 'n' => some '\n'
  | 'r' => some '\r'
  | 't' => some '\t'
  | _ => none

/-- The rest of a string after its opening quote, and what follows the closing one. -/
def string? (acc : List Unit16) : List Char → Option (List Unit16 × List Char)
  | [] => none
  | '"' :: rest => some (acc.reverse, rest)
  | '\\' :: 'u' :: a :: b :: c :: d :: rest =>
    match Text.number? 16 Text.hexDigit? [a, b, c, d] with
    | some n => string? (.code n :: acc) rest
    | none => none
  | '\\' :: e :: rest =>
    match shortEscape? e with
    | some c => string? (.char c :: acc) rest
    | none => none
  | c :: rest => if c.toNat < 0x20 then none else string? (.char c :: acc) rest

def digits (l : List Char) : List Char × List Char :=
  (l.takeWhile Char.isDigit, l.dropWhile Char.isDigit)

def fraction? : List Char → Option (Option (List Char) × List Char)
  | '.' :: rest =>
    if (digits rest).1 = [] then none else some (some (digits rest).1, (digits rest).2)
  | l => some (none, l)

/-- The sign and digits of an exponent, at least one digit. -/
def exponentDigits? (l : List Char) : Option (Option (Bool × List Char) × List Char) :=
  let signed := match l with
    | '-' :: rest => (true, rest)
    | '+' :: rest => (false, rest)
    | _ => (false, l)
  let (ds, rest) := digits signed.2
  if ds = [] then none else some (some (signed.1, ds), rest)

def exponent? : List Char → Option (Option (Bool × List Char) × List Char)
  | 'e' :: rest => exponentDigits? rest
  | 'E' :: rest => exponentDigits? rest
  | l => some (none, l)

/-- A numeral: no digit may stand before or after a leading zero of the whole part. -/
def numeral? (l : List Char) : Option (Numeral × List Char) :=
  let signed := match l with
    | '-' :: rest => (true, rest)
    | _ => (false, l)
  let (whole, rest) := digits signed.2
  if whole = [] ∨ (whole.head? = some '0' ∧ whole.length ≠ 1) then none
  else
    match fraction? rest with
    | none => none
    | some (fraction, rest) =>
      match exponent? rest with
      | none => none
      | some (exponent, rest) => some (⟨signed.1, whole, fraction, exponent⟩, rest)

/-- The rest of a list that starts with the letters of a word. -/
def word? : List Char → List Char → Option (List Char)
  | [], l => some l
  | c :: cs, d :: ds => if c = d then word? cs ds else none
  | _ :: _, [] => none

mutual

/-- A value after white space, read with at most `fuel` steps. -/
def written? : Nat → List Char → Option (Written × List Char)
  | 0, _ => none
  | fuel + 1, l =>
    match skip l with
    | '{' :: rest =>
      match skip rest with
      | '}' :: rest => some (.object [], rest)
      | rest => members? fuel [] rest
    | '[' :: rest =>
      match skip rest with
      | ']' :: rest => some (.list [], rest)
      | rest => items? fuel [] rest
    | '"' :: rest => (string? [] rest).map fun (s, rest) => (.text s, rest)
    | 'n' :: rest => (word? ['u', 'l', 'l'] rest).map fun rest => (.null, rest)
    | 't' :: rest => (word? ['r', 'u', 'e'] rest).map fun rest => (.bool true, rest)
    | 'f' :: rest => (word? ['a', 'l', 's', 'e'] rest).map fun rest => (.bool false, rest)
    | l => (numeral? l).map fun (n, rest) => (.number n, rest)

/-- The items of a list after its opening bracket. -/
def items? : Nat → List Written → List Char → Option (Written × List Char)
  | 0, _, _ => none
  | fuel + 1, acc, l =>
    match written? fuel l with
    | none => none
    | some (item, rest) =>
      match skip rest with
      | ',' :: rest => items? fuel (item :: acc) rest
      | ']' :: rest => some (.list (item :: acc).reverse, rest)
      | _ => none

/-- The members of an object after its opening brace. -/
def members? : Nat → List (List Unit16 × Written) → List Char → Option (Written × List Char)
  | 0, _, _ => none
  | fuel + 1, acc, l =>
    match skip l with
    | '"' :: rest =>
      match string? [] rest with
      | none => none
      | some (key, rest) =>
        match skip rest with
        | ':' :: rest =>
          match written? fuel rest with
          | none => none
          | some (value, rest) =>
            match skip rest with
            | ',' :: rest => members? fuel ((key, value) :: acc) rest
            | '}' :: rest => some (.object ((key, value) :: acc).reverse, rest)
            | _ => none
        | _ => none
    | _ => none

end

/-- The tree of a text that holds one value and white space around it. Every step consumes a
character, so as many steps as there are characters suffice. -/
def Written.ofText? (s : String) : Option Written :=
  match written? (2 * s.length + 2) s.toList with
  | none => none
  | some (w, rest) => if skip rest = [] then some w else none

end Gatehouse.Json
