import Gatehouse.Text.Ascii
import Gatehouse.Text.Utf8

/-!
# Percent encoding

A character that may not stand in a part of a URL is written as `%` and two capital hexadecimal
digits for each of its bytes. Which characters those are depends on the part; a `%` is never
encoded itself, so what is encoded already stays as it is.
-/

namespace Gatehouse.Percent

/-- Control characters and everything outside ASCII. -/
def isControl (c : Char) : Bool :=
  c.toNat < 0x20 || 0x7E < c.toNat

def inFragment (c : Char) : Bool :=
  isControl c || c == ' ' || c == '"' || c == '<' || c == '>' || c == '\x60'

def inQuery (c : Char) : Bool :=
  isControl c || c == ' ' || c == '"' || c == '#' || c == '<' || c == '>'

/-- Encoded in the query of an `http` URL and its like. -/
def inSpecialQuery (c : Char) : Bool :=
  inQuery c || c == '\''

def inPath (c : Char) : Bool :=
  inFragment c || c == '#' || c == '?' || c == '\x7b' || c == '\x7d'

def inUserInfo (c : Char) : Bool :=
  inPath c || c == '/' || c == ':' || c == ';' || c == '=' || c == '@' || c == '[' || c == '\\' ||
    c == ']' || c == '^' || c == '|'

def encodeByte (b : UInt8) : List Char :=
  ['%', Text.hexCapital (b.toNat / 16), Text.hexCapital (b.toNat % 16)]

/-- A character, encoded if `set` holds it. -/
def encodeChar (set : Char → Bool) (c : Char) : List Char :=
  if set c then (Utf8.encodeChar c).flatMap encodeByte else [c]

def encode (set : Char → Bool) (l : List Char) : List Char :=
  l.flatMap (encodeChar set)

/-- The bytes of a text whose encoded bytes are decoded; a `%` without two digits stays. -/
def decode : Bytes → Bytes
  | 0x25 :: a :: b :: rest =>
    match Text.hexDigit? (Char.ofNat a.toNat), Text.hexDigit? (Char.ofNat b.toNat) with
    | some x, some y => UInt8.ofNat (16 * x + y) :: decode rest
    | _, _ => 0x25 :: decode (a :: b :: rest)
  | x :: rest => x :: decode rest
  | [] => []

end Gatehouse.Percent
