import Gatehouse.Text.Blank
import Gatehouse.Text.Charset
import Gatehouse.Url.Punycode
import Gatehouse.Url.SmallLetter

/-!
# Tables to try a relay with

Tables that know the small letters of all capital ones and little more. Names are put in small letters
label by label and written in Punycode; what needs a wider mapping or a normal form is taken as it
stands. Of the older encodings they know the western one.
-/

namespace Gatehouse.International

/-! ### Names -/

/-- Characters that a domain drops: soft hyphens, joiners of words and variation marks. -/
def isDropped (c : Char) : Bool :=
  let n := c.toNat
  n == 0xAD || n == 0x34F || (0x180B ≤ n && n ≤ 0x180F) || n == 0x200B || n == 0x2060 ||
    n == 0x2064 || (0xFE00 ≤ n && n ≤ 0xFE0F) || n == 0xFEFF

/-- Characters that stand for nothing in a domain: unassigned and private ones, surrogates of text,
and joiners out of place. -/
def isRefused (c : Char) : Bool :=
  let n := c.toNat
  (0x80 ≤ n && n ≤ 0x9F) || n == 0x200C || n == 0x200D || n == 0x200E || n == 0x200F ||
    (0x2028 ≤ n && n ≤ 0x202E) || (0x2FF0 ≤ n && n ≤ 0x2FFB) || (0xE000 ≤ n && n ≤ 0xF8FF) ||
    (0xFFF0 ≤ n && n ≤ 0xFFFF) || (0xFDD0 ≤ n && n ≤ 0xFDEF) || 0xE0000 ≤ n

/-- The characters that a character of a domain is read as. -/
def mapped (c : Char) : List Char :=
  let n := c.toNat
  if n < 0x80 then [c.toLower]
  else if isDropped c then []
  else if n == 0x3002 || n == 0xFF0E || n == 0xFF61 then ['.']
  else if 0xFF01 ≤ n && n ≤ 0xFF5E then [(Char.ofNat (n - 0xFEE0)).toLower]
  else if Text.isBlank c then [' ']
  else if n == 0x130 then ['i', Char.ofNat 0x307]
  else [SmallLetter.of c]

/-- A label of a domain in ASCII. A label that is already in its ASCII form must be the form of
something. -/
def label? (l : List Char) : Option (List Char) :=
  match Text.afterChars ['x', 'n', '-', '-'] l with
  | some rest =>
    match Punycode.decode? rest with
    | some inner =>
      if l.all (·.toNat < 0x80) && inner.any (0x80 ≤ ·.toNat) && inner.all (fun c => mapped c = [c])
          && !inner.any isRefused && Punycode.encode inner = rest then
        some l
      else none
    | none => none
  | none =>
    if l.all (·.toNat < 0x80) then some l
    else if (l.head?.any fun c => 0x300 ≤ c.toNat && c.toNat ≤ 0x36F) then none
    else some (['x', 'n', '-', '-'] ++ Punycode.encode l)

def domain? (l : List Char) : Option (List Char) :=
  let letters := l.flatMap mapped
  if letters.any isRefused then none
  else
    ((Text.splitChars '.' letters).mapM label?).map fun labels =>
      (Text.joined "." (labels.map String.ofList)).toList

/-! ### Encodings -/

/-- The characters of the western encoding from 0x80 to 0x9F. -/
def westernControls : List Nat :=
  [0x20AC, 0x81, 0x201A, 0x192, 0x201E, 0x2026, 0x2020, 0x2021, 0x2C6, 0x2030, 0x160, 0x2039, 0x152,
    0x8D, 0x17D, 0x8F, 0x90, 0x2018, 0x2019, 0x201C, 0x201D, 0x2022, 0x2013, 0x2014, 0x2DC, 0x2122,
    0x161, 0x203A, 0x153, 0x9D, 0x17E, 0x178]

def westernChar (b : UInt8) : Char :=
  Char.ofNat (if 0x80 ≤ b && b < 0xA0 then (westernControls[b.toNat - 0x80]?).getD 0xFFFD else b.toNat)

def westernLabels : List String :=
  ["ansi_x3.4-1968", "ascii", "cp1252", "cp819", "csisolatin1", "ibm819", "iso-8859-1", "iso-ir-100",
    "iso8859-1", "iso88591", "iso_8859-1", "iso_8859-1:1987", "l1", "latin1", "us-ascii",
    "windows-1252", "x-cp1252"]

instance tables : CharTables where
  domain? := domain?
  encoding? label :=
    if label ∈ westernLabels then some fun bytes => String.ofList (bytes.map westernChar) else none

end Gatehouse.International
