/-!
# Places in a YAML text

YAML tells structure by columns, so a reader carries the line and column it has come to. Line ends
of every kind are single line feeds by then.
-/

namespace Gatehouse.Yaml

/-- A place: its line and column, whether only blanks stand before it on its line, and the text from
there on. -/
structure Place where
  line : Nat
  column : Nat
  isFresh : Bool
  rest : List Char

def Place.start (l : List Char) : Place :=
  ⟨0, 0, true, l⟩

def isSpace (c : Char) : Bool :=
  c == ' ' || c == '\t'

/-- Whether a list ends or goes on with a space, a tab or a line end. -/
def endsWord : List Char → Bool
  | [] => true
  | c :: _ => isSpace c || c == '\n'

/-- Whether a list starts with a character that stands alone. -/
def hasIndicator (c : Char) : List Char → Bool
  | d :: rest => c == d && endsWord rest
  | [] => false

namespace Place

/-- The place after some characters, none of them a line end. -/
def after (p : Place) (count : Nat) (rest : List Char) : Place :=
  ⟨p.line, p.column + count, false, rest⟩

def step (p : Place) : Place :=
  p.after 1 (p.rest.drop 1)

def isMarker (p : Place) : Bool :=
  p.column == 0 &&
    match p.rest with
    | '-' :: '-' :: '-' :: rest => endsWord rest
    | '.' :: '.' :: '.' :: rest => endsWord rest
    | _ => false

/-- Whether nothing of the document is left here. -/
def isOver (p : Place) : Bool :=
  p.rest.isEmpty || p.isMarker

/-- Skips blanks, comments and line ends. Tabs are skipped where `tabs` says so, and after a line
end only if `everywhere`. -/
def skipFrom (everywhere : Bool) : Bool → Bool → Place → List Char → Place
  | _, _, p, [] => { p with rest := [] }
  | tabs, comment, p, c :: rest =>
    if c = '\n' then skipFrom everywhere everywhere false ⟨p.line + 1, 0, true, rest⟩ rest
    else if comment || c == ' ' || (tabs && c == '\t') then
      skipFrom everywhere tabs comment { p with column := p.column + 1 } rest
    else if c = '#' then skipFrom everywhere tabs true { p with column := p.column + 1 } rest
    else { p with rest := c :: rest }

/-- Skips blanks, comments and line ends between blocks. -/
def skip (p : Place) (tabs : Bool) : Place :=
  skipFrom false tabs false p p.rest

def skipFlow (p : Place) : Place :=
  skipFrom true true false p p.rest

def skipSpaces (p : Place) : Place :=
  let spaces := p.rest.takeWhile isSpace
  { p with column := p.column + spaces.length, rest := p.rest.drop spaces.length }

end Place

end Gatehouse.Yaml
