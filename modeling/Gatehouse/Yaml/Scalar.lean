import Gatehouse.Text.Ascii
import Gatehouse.Yaml.Place

/-!
# Scalars

A scalar is plain, quoted, or a block of lines. A line end inside a plain or quoted scalar is a
space, and each empty line after it a line feed; a block keeps its line ends, or folds them in the
same way between lines that are not indented further.
-/

namespace Gatehouse.Yaml

inductive Style where
  | plain
  | quoted
  | literal
  | folded
deriving DecidableEq, Repr

/-- Blanks between two words: the spaces, or the line ends after the first. -/
structure Gap where
  spaces : List Char
  breaks : Option Nat

def Gap.text (g : Gap) : List Char :=
  match g.breaks with
  | none => g.spaces
  | some 0 => [' ']
  | some n => List.replicate n '\n'

/-- The gap at the start of a list and the place after it. `held` counts the line ends so far. A tab
before column `inside` of a new line is refused. -/
def gap? (inside : Nat) : Gap → Place → List Char → Option (Gap × Place)
  | g, p, [] => some (g, { p with rest := [] })
  | g, p, c :: rest =>
    if c = '\n' then
      gap? inside ⟨[], some (match g.breaks with | none => 0 | some n => n + 1)⟩
        ⟨p.line + 1, 0, true, rest⟩ rest
    else if isSpace c then
      if c = '\t' ∧ g.breaks.isSome ∧ p.column < inside then none
      else
        let spaces := if g.breaks.isSome then [] else g.spaces ++ [c]
        gap? inside { g with spaces } { p with column := p.column + 1 } rest
    else some (g, { p with rest := c :: rest })

def isFlowMark (c : Char) : Bool :=
  c == ',' || c == '[' || c == ']' || c == '\x7b' || c == '\x7d'

/-- A word of a plain scalar and the rest. Between brackets a colon before a bracket is refused. -/
def plainWord? (flow : Bool) : List Char → Option (List Char × List Char)
  | [] => some ([], [])
  | c :: rest =>
    if isSpace c || c == '\n' || (flow && isFlowMark c) || (c == ':' && endsWord rest) then
      some ([], c :: rest)
    else if flow && c == ':' && (rest.head?.any fun d => isFlowMark d || d == '?') then none
    else (plainWord? flow rest).map fun (word, rest) => (c :: word, rest)

/-- A plain scalar from a place where one may start: its text, and the place after it and the blanks
that follow. -/
def plain? (flow : Bool) (inside : Nat) : Nat → List Char → Place → Option (List Char × Place)
  | 0, _, _ => none
  | fuel + 1, before, p =>
    if p.isMarker || p.rest.head? == some '#' || (!flow && p.isFresh && p.column < inside) then
      some ([], p)
    else
      match plainWord? flow p.rest with
      | none => none
      | some ([], _) => some ([], p)
      | some (word, rest) =>
        match gap? inside ⟨[], none⟩ (p.after word.length rest) rest with
        | none => none
        | some (g, q) =>
          if q.rest.length = rest.length then some (before ++ word, q)
          else (plain? flow inside fuel g.text q).map fun (more, q) => (before ++ word ++ more, q)

def startsPlain (flow : Bool) : List Char → Bool
  | [] => false
  | c :: rest =>
    if c = '-' then !endsWord rest
    else if c = '?' || c = ':' then !flow && !endsWord rest
    else !(isSpace c || c == '\n' || isFlowMark c || "#&*!|>'\"%@\x60".toList.contains c)

def char? (n : Nat) : Option Char :=
  if n < 0xD800 ∨ (0xE000 ≤ n ∧ n < 0x110000) then some (Char.ofNat n) else none

/-- The character of an escape after a backslash, and the characters that the escape takes. -/
def escape? : List Char → Option (Char × Nat)
  | [] => none
  | c :: rest =>
    let coded (n : Nat) : Option (Char × Nat) := do
      let ds := rest.take n
      if ds.length ≠ n then none
      else return (← char? (← Text.number? 16 Text.hexDigit? ds), n + 1)
    match c with
    | '0' => some ('\x00', 1)
    | 'a' => some ('\x07', 1)
    | 'b' => some ('\x08', 1)
    | 't' => some ('\t', 1)
    | '\t' => some ('\t', 1)
    | 'n' => some ('\n', 1)
    | 'v' => some ('\x0b', 1)
    | 'f' => some ('\x0c', 1)
    | 'r' => some ('\r', 1)
    | 'e' => some ('\x1b', 1)
    | ' ' => some (' ', 1)
    | '"' => some ('"', 1)
    | '/' => some ('/', 1)
    | '\\' => some ('\\', 1)
    | 'N' => some (Char.ofNat 0x85, 1)
    | '_' => some (Char.ofNat 0xA0, 1)
    | 'L' => some (Char.ofNat 0x2028, 1)
    | 'P' => some (Char.ofNat 0x2029, 1)
    | 'x' => coded 2
    | 'u' => coded 4
    | 'U' => coded 8
    | _ => none

/-- What follows an opening quote: the text up to the closing one, and the place after that. -/
def quoted? (quote : Char) : Nat → Place → Option (List Char × Place)
  | 0, _ => none
  | fuel + 1, p =>
    if p.isMarker then none
    else
      match p.rest with
      | [] => none
      | c :: rest =>
        if isSpace c || c == '\n' then
          match gap? 0 ⟨[], none⟩ p p.rest with
          | none => none
          | some (g, q) => (quoted? quote fuel q).map fun (more, q) => (g.text ++ more, q)
        else if c = quote then
          if quote = '\'' ∧ rest.head? = some '\'' then
            (quoted? quote fuel (p.after 2 (rest.drop 1))).map fun (more, q) => ('\'' :: more, q)
          else some ([], p.after 1 rest)
        else if quote = '"' ∧ c = '\\' then
          if rest.head? = some '\n' then
            match gap? 0 ⟨[], none⟩ (p.after 1 rest) rest with
            | none => none
            | some (g, q) =>
              (quoted? quote fuel q).map fun (more, q) =>
                (List.replicate (g.breaks.getD 0) '\n' ++ more, q)
          else
            match escape? rest with
            | none => none
            | some (d, n) =>
              (quoted? quote fuel (p.after (n + 1) (rest.drop n))).map fun (more, q) =>
                (d :: more, q)
        else (quoted? quote fuel (p.after 1 rest)).map fun (more, q) => (c :: more, q)

/-! ### Blocks of lines -/

/-- What is kept of the line ends at the end of a block. -/
inductive Chomp where
  | strip
  | clip
  | keep
deriving DecidableEq, Repr

/-- The header of a block after its mark: what is kept at its end, and how much further than its
parent it is indented. -/
def header? (l : List Char) : Option (Chomp × Option Nat) :=
  let chomp (c : Char) : Option Chomp :=
    if c = '+' then some .keep else if c = '-' then some .strip else none
  let depth (c : Char) : Option Nat := (Text.digit? c).filter (0 < ·)
  match l with
  | [] => some (.clip, none)
  | [c] =>
    match chomp c, depth c with
    | some k, _ => some (k, none)
    | none, some n => some (.clip, some n)
    | none, none => none
  | [c, d] =>
    match chomp c, depth d, depth c, chomp d with
    | some k, some n, _, _ => some (k, some n)
    | _, _, some n, some k => some (k, some n)
    | _, _, _, _ => none
  | _ => none

/-- A line, the text after its line end, and whether it has one. -/
def cutLine (l : List Char) : List Char × List Char × Bool :=
  let line := l.takeWhile (· ≠ '\n')
  (line, l.drop (line.length + 1), line.length < l.length)

/-- The lines of a block that is indented by `indent`: each with its text, or an empty one for a
line of blanks only; with the number of lines and the text after them. -/
def blockLines (indent : Nat) : Nat → List Char → List (List Char) × Nat × List Char
  | 0, l => ([], 0, l)
  | fuel + 1, l =>
    let (row, rest, more) := cutLine l
    let blanks := row.takeWhile (· == ' ')
    if row.length = blanks.length ∧ blanks.length ≤ indent then
      if more then
        let (rows, n, rest) := blockLines indent fuel rest
        ([] :: rows, n + 1, rest)
      else ([], 0, l)
    else if blanks.length < indent then ([], 0, l)
    else
      let text := row.drop indent
      if more then
        let (rows, n, rest) := blockLines indent fuel rest
        (text :: rows, n + 1, rest)
      else ([text], 0, [])

/-- The blanks before the first line that is not blank, the longest run of them. A tab there is
refused. -/
def detected? : Nat → Nat → List Char → Option Nat
  | 0, widest, _ => some widest
  | fuel + 1, widest, l =>
    let (row, rest, more) := cutLine l
    let blanks := (row.takeWhile (· == ' ')).length
    if row.length = blanks then
      if more then detected? fuel (max widest blanks) rest else some (max widest blanks)
    else if row[blanks]? = some '\t' then none
    else some (max widest blanks)

/-- Lines with a line feed between them, or folded: between two lines that do not start with a
blank one line end is a space, and further ones are line feeds. `lead` says whether the line before
started with a blank. -/
def foldLines (isFolded : Bool) : Bool → Nat → List (List Char) → List Char
  | _, _, [] => []
  | lead, empty, line :: rest =>
    if line = [] then foldLines isFolded lead (empty + 1) rest
    else
      let blank := line.head?.any isSpace
      let gap :=
        if isFolded && !lead && !blank then
          if empty = 0 then [' '] else List.replicate empty '\n'
        else List.replicate (empty + 1) '\n'
      gap ++ line ++ foldLines isFolded blank 0 rest

def blockText (isFolded : Bool) (chomp : Chomp) (isEnded : Bool) (lines : List (List Char)) :
    List Char :=
  let first := lines.takeWhile (· = [])
  let body := (lines.drop first.length)
  let trailing := (body.reverse.takeWhile (· = [])).length
  let body := body.take (body.length - trailing)
  match body with
  | [] => if chomp = .keep then List.replicate first.length '\n' else []
  | line :: rest =>
    let text := List.replicate first.length '\n' ++ line ++
      foldLines isFolded (line.head?.any isSpace) 0 rest
    let ending := if isEnded || 0 < trailing then ['\n'] else []
    match chomp with
    | .strip => text
    | .clip => text ++ ending
    | .keep => text ++ ending ++ List.replicate trailing '\n'

/-- A block of lines after its mark, and the place after it. -/
def block? (isFolded : Bool) (inside : Nat) (p : Place) : Option (List Char × Place) := do
  let (line, rest, more) := cutLine p.rest
  let mark := line.takeWhile fun c => !isSpace c && c != '#'
  let after := (line.drop mark.length).dropWhile isSpace
  if after ≠ [] ∧ after.head? ≠ some '#' then none
  let (chomp, depth) ← header? mark
  if !more then return ([], ⟨p.line, p.column + line.length, false, []⟩)
  let indent ← match depth with
    | some n => some (max 1 inside - 1 + n)
    | none => (detected? rest.length 0 rest).map fun n => max n (max 1 inside)
  let (lines, count, tail) := blockLines indent (rest.length + 1) rest
  let isEnded := count = lines.length
  return (blockText isFolded chomp isEnded lines,
    ⟨p.line + 1 + count, 0, true, tail⟩)

end Gatehouse.Yaml
