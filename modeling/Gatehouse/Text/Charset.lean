import Gatehouse.Text.Ascii
import Gatehouse.Text.Split
import Gatehouse.Text.Tables

/-!
# The text of an answer

An answer is read in the encoding that its media type names, and in UTF-8 where the type names none
or cannot be read. A mark of the byte order at its start goes before both and is no part of the text.
-/

namespace Gatehouse

namespace Utf16

/-- The code units of a byte sequence, with `none` for a byte that is left over. -/
def units (isBigEndian : Bool) : Bytes → List (Option Nat)
  | a :: b :: rest =>
    some (if isBigEndian then a.toNat * 256 + b.toNat else b.toNat * 256 + a.toNat)
      :: units isBigEndian rest
  | [_] => [none]
  | [] => []

/-- The character of a code unit by itself, none if it is half of one. -/
def char? (n : Nat) : Option Char :=
  if 0xD800 ≤ n ∧ n < 0xE000 then none else some (Char.ofNat n)

/-- The characters of code units, with `none` for what is no character; a half at the end and the byte
left over behind it are one such. -/
def characters : List (Option Nat) → List (Option Char)
  | [] => []
  | none :: rest => none :: characters rest
  | [some n] => [char? n]
  | some n :: none :: rest =>
    if 0xD800 ≤ n ∧ n < 0xDC00 then none :: characters rest
    else char? n :: none :: characters rest
  | some n :: some m :: rest =>
    if 0xD800 ≤ n ∧ n < 0xDC00 ∧ 0xDC00 ≤ m ∧ m < 0xE000 then
      some (Char.ofNat (0x10000 + (n - 0xD800) * 0x400 + (m - 0xDC00))) :: characters rest
    else char? n :: characters (some m :: rest)

def decodeLenient (isBigEndian : Bool) (bytes : Bytes) : String :=
  String.ofList ((characters (units isBigEndian bytes)).map (·.getD (Char.ofNat 0xFFFD)))

/-- Whether a label stands for UTF-16, and with which byte order. -/
def isBigEndian? (label : String) : Option Bool :=
  if label ∈ ["utf-16be", "unicodefffe"] then some true
  else if label ∈ ["utf-16", "utf-16le", "csunicode", "iso-10646-ucs-2", "ucs-2", "unicode",
      "unicodefeff"] then some false
  else none

end Utf16

namespace Charset

/-! ### What a media type names -/

def isNameChar (c : Char) : Bool :=
  c.isAlphanum || "!#$%&'*+-.^_\x60|~".toList.contains c

/-- The pieces of a list between the semicolons that stand outside quotes. -/
def pieces (quoted : Bool) : List Char → List (List Char)
  | [] => [[]]
  | c :: rest =>
    if c = ';' && !quoted then [] :: pieces quoted rest
    else
      match pieces (quoted != (c == '"')) rest with
      | piece :: more => (c :: piece) :: more
      | [] => [[c]]

/-- The value of a parameter: a name, or anything between quotes. -/
def value? (l : List Char) : Option String :=
  match l with
  | '"' :: rest =>
    match rest.reverse with
    | '"' :: inside =>
      if inside.contains '"' then none else some (String.ofList inside.reverse)
    | _ => none
  | l => if l.all isNameChar then some (String.ofList l) else none

/-- A parameter of a media type: its name in small letters, and its value. -/
def parameter? (l : List Char) : Option (String × String) := do
  let (name, value) ← Text.cutChars '=' (l.dropWhile (· == ' '))
  if name ≠ [] && name.all isNameChar then
    return (Text.lower (String.ofList name), ← value? (Text.dropEnd (· == ' ') value))
  else none

def isMediaType (l : List Char) : Bool :=
  match Text.cutChars '/' l with
  | some (kind, sub) => kind ≠ [] && kind.all isNameChar && sub ≠ [] && sub.all isNameChar
  | none => false

/-- The label of the encoding that a media type names. -/
def label? (mediaType : String) : Option String := do
  let kind :: rest := pieces false mediaType.toList | none
  let parameters ← (rest.filter (·.any (· ≠ ' '))).mapM parameter?
  if isMediaType (Text.dropEnd (· == ' ') kind) then
    (parameters.find? fun p => p.1 = "charset").map fun p => Text.lower (Text.trim p.2)
  else none

/-! ### Reading bytes -/

def decodeUnder [CharTables] (label : Option String) (bytes : Bytes) : String :=
  match label.bind Utf16.isBigEndian?, label.bind CharTables.encoding? with
  | some isBigEndian, _ => Utf16.decodeLenient isBigEndian bytes
  | none, some read => read bytes
  | none, none => Utf8.decodeLenient bytes

/-- The text of bytes under a label, unless they start with a mark of the byte order. -/
def decode [CharTables] (label : Option String) (bytes : Bytes) : String :=
  if bytes.take 3 = [0xEF, 0xBB, 0xBF] then Utf8.decodeLenient (bytes.drop 3)
  else if bytes.take 2 = [0xFE, 0xFF] then Utf16.decodeLenient true (bytes.drop 2)
  else if bytes.take 2 = [0xFF, 0xFE] then Utf16.decodeLenient false (bytes.drop 2)
  else decodeUnder label bytes

end Charset

end Gatehouse
