import Gatehouse.Text.Blank

/-!
# Cutting text at a character
-/

namespace Gatehouse.Text

/-- The pieces between the occurrences of `sep`, one more than there are occurrences. -/
def splitChars (sep : Char) : List Char → List (List Char)
  | [] => [[]]
  | c :: rest =>
    match splitChars sep rest with
    | [] => [[c]]
    | piece :: pieces => if c = sep then [] :: piece :: pieces else (c :: piece) :: pieces

/-- The pieces between the occurrences of `sep`. -/
def split (sep : Char) (s : String) : List String :=
  (splitChars sep s.toList).map String.ofList

def cutChars (sep : Char) : List Char → Option (List Char × List Char)
  | [] => none
  | c :: rest =>
    if c = sep then some ([], rest) else (cutChars sep rest).map fun (a, b) => (c :: a, b)

/-- What stands before and after the first `sep`. -/
def cut (sep : Char) (s : String) : Option (String × String) :=
  (cutChars sep s.toList).map fun (a, b) => (String.ofList a, String.ofList b)

def afterChars : List Char → List Char → Option (List Char)
  | [], l => some l
  | _ :: _, [] => none
  | p :: ps, c :: cs => if p = c then afterChars ps cs else none

/-- The rest of a text that starts with `start`. -/
def after? (start s : String) : Option String :=
  (afterChars start.toList s.toList).map String.ofList

def containsChars (part : List Char) : List Char → Bool
  | [] => part.isEmpty
  | c :: cs => (afterChars part (c :: cs)).isSome || containsChars part cs

def contains (part s : String) : Bool :=
  containsChars part.toList s.toList

def endsWith (ending s : String) : Bool :=
  (afterChars ending.toList.reverse s.toList.reverse).isSome

/-- The items of a comma-separated list, trimmed, the blank ones left out. -/
def commaItems (s : String) : List String :=
  trimmedItems (split ',' s)

def joined (sep : String) : List String → String
  | [] => ""
  | [s] => s
  | s :: rest => s ++ sep ++ joined sep rest

end Gatehouse.Text
