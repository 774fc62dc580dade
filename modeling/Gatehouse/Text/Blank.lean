/-!
# Blank text

Names, secrets and header values are compared after the blanks around them are dropped. A blank is a
code point with the Unicode property White_Space; the zero width space U+200B and the byte order
mark U+FEFF do not have it, so they stay.
-/

namespace Gatehouse.Text

/-- The 25 code points with the property White_Space. -/
def isBlank (c : Char) : Bool :=
  let n := c.toNat
  (9 ≤ n && n ≤ 13) || n == 0x20 || n == 0x85 || n == 0xA0 || n == 0x1680 ||
    (0x2000 ≤ n && n ≤ 0x200A) || n == 0x2028 || n == 0x2029 || n == 0x202F || n == 0x205F ||
    n == 0x3000

/-- Drops the elements satisfying `p` at the end of a list. -/
def dropEnd {α : Type} (p : α → Bool) (l : List α) : List α :=
  (l.reverse.dropWhile p).reverse

def trimChars (l : List Char) : List Char :=
  dropEnd isBlank (l.dropWhile isBlank)

def trim (s : String) : String :=
  String.ofList (trimChars s.toList)

/-- The trimmed text, unless nothing is left of it. -/
def nonBlank? (s : String) : Option String :=
  if trim s = "" then none else some (trim s)

def trimmedItems (items : List String) : List String :=
  items.filterMap nonBlank?

theorem nonBlank?_ne_empty {s t : String} (h : nonBlank? s = some t) : t ≠ "" := by
  unfold nonBlank? at h
  split at h
  · simp at h
  · next hne => exact Option.some.inj h ▸ hne

end Gatehouse.Text
