import Gatehouse.Text.Split
import Gatehouse.Url.Percent

/-!
# Paths of URLs

A path is a list of segments. While it is read, a segment of one dot is dropped, a segment of two
dots takes the segment before it away, and a backslash counts as a slash in an `http` URL and its
like; the dots may be written as `%2e`. Every other segment is encoded and kept, empty ones too.
-/

namespace Gatehouse.Url

def isDot (l : List Char) : Bool :=
  l == ['.'] || l.map Char.toLower == ['%', '2', 'e']

def isDoubleDot (l : List Char) : Bool :=
  let s := l.map Char.toLower
  s == ['.', '.'] || s == ['%', '2', 'e', '.'] || s == ['.', '%', '2', 'e'] ||
    s == ['%', '2', 'e', '%', '2', 'e']

/-- Whether a segment is the letter of a drive, which two dots do not take away. -/
def isDriveLetter : List Char → Bool
  | [c, d] => c.isAlpha && (d == ':' || d == '|')
  | _ => false

/-- The segments above, the last first, after two dots. -/
def stepUp : List (List Char) → List (List Char)
  | [] => []
  | s :: above => if isDriveLetter s then s :: above else above

/-- The segments of a path from its pieces between slashes; `above` holds what was read so far, the
last first. Dots at the end leave an empty segment. -/
def walk (above : List (List Char)) : List (List Char) → List (List Char)
  | [] => above.reverse
  | [s] =>
    let last := Percent.encode Percent.inPath s
    if isDoubleDot last then ([] :: stepUp above).reverse
    else if isDot last then ([] :: above).reverse
    else (last :: above).reverse
  | s :: rest =>
    let e := Percent.encode Percent.inPath s
    if isDoubleDot e then walk (stepUp above) rest
    else if isDot e then walk above rest
    else walk (e :: above) rest

def slashed (l : List Char) : List Char :=
  l.map fun c => if c = '\\' then '/' else c

/-- The segments of the text of a path, with or without a slash in front. -/
def segments (special : Bool) (l : List Char) : List String :=
  let l := if special then slashed l else l
  let l := match l with
    | '/' :: rest => rest
    | _ => l
  (walk [] (Text.splitChars '/' l)).map String.ofList

def pathText (segments : List String) : String :=
  String.ofList (segments.flatMap fun s => '/' :: s.toList)

end Gatehouse.Url
