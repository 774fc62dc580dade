import Gatehouse.Text.Split
import Gatehouse.Url.Percent

/-!
# Queries as forms

A query is a list of pairs between ampersands, key and value on either side of the first equals
sign. Empty pairs are skipped, a plus sign is a space, and bytes that are no text become U+FFFD.
-/

namespace Gatehouse.Form

/-- The bytes of a form with its plus signs read as spaces. -/
def spaced (bytes : Bytes) : Bytes :=
  bytes.map fun b => if b = 0x2B then 0x20 else b

def field (s : List Char) : String :=
  Utf8.decodeLenient (Percent.decode (spaced (Utf8.encodeChars s)))

/-- One pair; without an equals sign the value is empty. -/
def pair (l : List Char) : String × String :=
  match Text.cutChars '=' l with
  | some (key, value) => (field key, field value)
  | none => (field l, "")

def pairs (query : String) : List (String × String) :=
  ((Text.splitChars '&' query.toList).filter (· ≠ [])).map pair

/-- The trimmed value of the first pair under a name, unless it is blank. -/
def value? (query : Option String) (name : String) : Option String := do
  let (_, value) ← (pairs (← query)).find? fun (key, _) => key = name
  Text.nonBlank? value

end Gatehouse.Form
