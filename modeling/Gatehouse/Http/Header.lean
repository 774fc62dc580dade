import Gatehouse.Text.Ascii
import Gatehouse.Text.Blank
import Gatehouse.Text.Utf8

/-!
# Header fields

Fields are kept in their order with names in small letters. The first field of a name counts, and it
is read only if it is all visible ASCII, spaces and tabs.
-/

namespace Gatehouse

abbrev Headers := List (String × Bytes)

namespace Header

/-- Whether a byte may stand in a value that is read as text. -/
def isReadable (b : UInt8) : Bool :=
  b == 0x09 || (0x20 ≤ b && b ≤ 0x7E)

/-- Whether a byte may stand in a value at all. -/
def isLegal (b : UInt8) : Bool :=
  b == 0x09 || (0x20 ≤ b && b != 0x7F)

def text? (value : Bytes) : Option String :=
  if value.all isReadable then some (String.ofList (value.map fun b => Char.ofNat b.toNat))
  else none

/-- The value of a text, if it may be one. -/
def value? (s : String) : Option Bytes :=
  let bytes := Utf8.encode s
  if bytes.all isLegal then some bytes else none

end Header

namespace Headers

def first? (name : String) : Headers → Option Bytes
  | [] => none
  | (n, v) :: rest => if n = name then some v else first? name rest

def text? (name : String) (h : Headers) : Option String :=
  (h.first? name).bind Header.text?

/-- The text of the first value under a name without blanks around it, unless nothing is left. -/
def trimmed? (name : String) (h : Headers) : Option String :=
  (h.text? name).bind Text.nonBlank?

def add (name : String) (value : Bytes) (h : Headers) : Headers :=
  h ++ [(name, value)]

/-- Puts a field in place of all others of its name. -/
def set (name : String) (value : Bytes) (h : Headers) : Headers :=
  h.filter (fun f => f.1 != name) ++ [(name, value)]

/-- Puts a field in place of all others of its name, if the text may be a value. -/
def setText (name value : String) (h : Headers) : Headers :=
  match Header.value? value with
  | some v => h.set name v
  | none => h

@[simp] theorem first?_nil (name : String) : first? name [] = none := rfl

theorem first?_append (name : String) (g h : Headers) :
    first? name (g ++ h) = (first? name g).or (first? name h) := by
  induction g with
  | nil => simp
  | cons f g ih =>
    obtain ⟨n, v⟩ := f
    simp only [List.cons_append, first?]
    split <;> simp [ih]

theorem first?_filter_ne (name : String) (h : Headers) :
    first? name (h.filter fun f => f.1 != name) = none := by
  induction h with
  | nil => rfl
  | cons f h ih =>
    obtain ⟨n, v⟩ := f
    by_cases hn : n = name
    · simp [hn, ih]
    · simp [hn, first?, ih]

theorem first?_set (name : String) (value : Bytes) (h : Headers) :
    first? name (set name value h) = some value := by
  simp [set, first?_append, first?_filter_ne, first?]

end Headers

end Gatehouse
