import Gatehouse.Keyed
import Gatehouse.Yaml.Scalar

/-!
# YAML documents

A document is a tree of scalars, lists and maps. Its blocks are told apart by their columns: what
belongs to a block stands further right than the block it is in, except that a list may stand right
below the key it belongs to. Between brackets columns do not count. A key stands on one line. An
anchored node can be referred to further down.
-/

namespace Gatehouse.Yaml

inductive Node where
  | scalar (tag : Option String) (style : Style) (text : String)
  | list (tag : Option String) (items : List Node)
  | map (tag : Option String) (entries : List (Node × Node))

/-- The node that stands where nothing is written. -/
def Node.empty : Node :=
  .scalar none .plain ""

def Node.tagged (tag : Option String) : Node → Node
  | scalar t s text => scalar (tag.or t) s text
  | list t items => list (tag.or t) items
  | map t entries => map (tag.or t) entries

/-- What a reader carries: its place, and the anchored nodes. -/
structure Scan where
  place : Place
  anchors : List (String × Node)

structure Properties where
  anchor : Option String
  tag : Option String

def Properties.none : Properties :=
  ⟨.none, .none⟩

/-- A node with what is in front of it, and its anchor noted. -/
def Properties.bind (props : Properties) (n : Node) (s : Scan) : Node × Scan :=
  let n := n.tagged props.tag
  match props.anchor with
  | some name => (n, { s with anchors := Keyed.insert name n s.anchors })
  | .none => (n, s)

def anchorName? (l : List Char) : Option (String × Nat × List Char) :=
  let name := l.takeWhile fun c => c.isAlphanum || c == '-' || c == '_'
  let rest := l.drop name.length
  let ended := endsWord rest ||
    rest.head?.any fun c => "?:,]%@\x60".toList.contains c || c == '\x7d'
  if name = [] || !ended then none else some (String.ofList name, name.length, rest)

/-- A tag and the rest; a tag of the language's own is named by what follows `!!`. -/
def tagName (flow : Bool) (l : List Char) : String × Nat × List Char :=
  let name := l.takeWhile fun c => !(isSpace c || c == '\n' || (flow && isFlowMark c))
  (String.ofList name, name.length, l.drop name.length)

/-- The anchor and tag at a place, if one of them is there, and the place after it. -/
def property? (flow : Bool) (props : Properties) (p : Place) :
    Option (Option (Properties × Place)) :=
  match p.rest with
  | '&' :: l =>
    if props.anchor.isSome then none
    else
      (anchorName? l).map fun (name, n, rest) =>
        some ({ props with anchor := some name }, p.after (n + 1) rest)
  | '!' :: l =>
    if props.tag.isSome then none
    else
      let (name, n, rest) := tagName flow l
      some (some ({ props with tag := some name }, p.after (n + 1) rest))
  | _ => some .none

def scalar? (flow : Bool) (inside : Nat) (p : Place) : Option (Node × Place) :=
  match p.rest with
  | '"' :: rest =>
    (quoted? '"' (rest.length + 1) (p.after 1 rest)).map fun (text, q) =>
      (.scalar none .quoted (String.ofList text), q)
  | '\'' :: rest =>
    (quoted? '\'' (rest.length + 1) (p.after 1 rest)).map fun (text, q) =>
      (.scalar none .quoted (String.ofList text), q)
  | l =>
    if startsPlain flow l then
      (plain? flow inside (l.length + 1) [] { p with isFresh := false }).map fun (text, q) =>
        (.scalar none .plain (String.ofList text), q)
    else none

/-! ### Between brackets -/

def isLeftOut (p : Place) : Bool :=
  match p.rest with
  | [] => true
  | c :: rest => c == ',' || c == ']' || c == '\x7d' || (c == ':' && endsWord rest)

mutual

/-- A node between brackets, what stands in front of it already read. -/
def flowNode? : Nat → Nat → Properties → Scan → Option (Node × Scan)
  | 0, _, _, _ => none
  | fuel + 1, inside, props, s =>
    let p := s.place.skipFlow
    if p.isOver then none
    else
      match property? true props p with
      | none => none
      | some (some (props, q)) => flowNode? fuel inside props { s with place := q }
      | some none =>
        let s := { s with place := p }
        if isLeftOut p then some (props.bind .empty s)
        else
          match p.rest with
          | '*' :: l => do
            let (name, n, rest) ← anchorName? l
            return (← Keyed.get? name s.anchors, { s with place := p.after (n + 1) rest })
          | '[' :: _ => do
            let (items, s) ← flowItems? fuel inside [] { s with place := p.step }
            return props.bind (.list none items) s
          | '\x7b' :: _ => do
            let (entries, s) ← flowEntries? fuel inside [] { s with place := p.step }
            return props.bind (.map none entries) s
          | _ => do
            let (n, q) ← scalar? true inside p
            return props.bind n { s with place := q }

/-- What follows a key between brackets: its value after a colon on the same line, if there is
one. -/
def flowValue? : Nat → Nat → Nat → Scan → Option (Option Node × Scan)
  | 0, _, _, _ => none
  | fuel + 1, inside, line, s =>
    let p := s.place.skipSpaces
    match p.rest with
    | ':' :: _ =>
      if p.line ≠ line then none
      else do
        let (v, s) ← flowNode? fuel inside .none { s with place := p.step }
        return (some v, s)
    | _ => some (none, s)

def flowItems? : Nat → Nat → List Node → Scan → Option (List Node × Scan)
  | 0, _, _, _ => none
  | fuel + 1, inside, before, s =>
    let p := s.place.skipFlow
    if p.isOver then none
    else
      match p.rest with
      | ']' :: _ => some (before, { s with place := p.step })
      | ',' :: _ => none
      | _ => do
        let (n, s) ← flowNode? fuel inside .none { s with place := p }
        let (v, s) ← flowValue? fuel inside p.line s
        let item := match v with
          | some v => .map none [(n, v)]
          | none => n
        let q := s.place.skipFlow
        match q.rest with
        | ',' :: _ => flowItems? fuel inside (before ++ [item]) { s with place := q.step }
        | ']' :: _ => return (before ++ [item], { s with place := q.step })
        | _ => none

def flowEntries? : Nat → Nat → List (Node × Node) → Scan → Option (List (Node × Node) × Scan)
  | 0, _, _, _ => none
  | fuel + 1, inside, before, s =>
    let p := s.place.skipFlow
    if p.isOver then none
    else
      match p.rest with
      | '\x7d' :: _ => some (before, { s with place := p.step })
      | ',' :: _ => none
      | ':' :: _ => none
      | l => do
        let start := if hasIndicator '?' l then p.step else p
        let (k, s) ← flowNode? fuel inside .none { s with place := start }
        let (v, s) ← flowValue? fuel inside p.line s
        let entry := (k, v.getD .empty)
        let q := s.place.skipFlow
        match q.rest with
        | ',' :: _ => flowEntries? fuel inside (before ++ [entry]) { s with place := q.step }
        | '\x7d' :: _ => return (before ++ [entry], { s with place := q.step })
        | _ => none

end

/-! ### Blocks -/

/-- What an inline node is: an alias, something between brackets, or a scalar. -/
def inline? (fuel inside : Nat) (props : Properties) (s : Scan) : Option (Node × Scan) :=
  match s.place.rest with
  | '*' :: l => do
    let (name, n, rest) ← anchorName? l
    return (← Keyed.get? name s.anchors, { s with place := s.place.after (n + 1) rest })
  | '[' :: _ => flowNode? fuel inside props s
  | '\x7b' :: _ => flowNode? fuel inside props s
  | _ => do
    let (n, q) ← scalar? false inside s.place
    return props.bind n { s with place := q }

/-- A key with what is in front of it, and the place of the colon after it. -/
def key? : Nat → Nat → Properties → Scan → Option (Node × Scan)
  | 0, _, _, _ => none
  | fuel + 1, inside, props, s =>
    let line := s.place.line
    match property? false props s.place with
    | none => none
    | some (some (props, q)) => key? fuel inside props { s with place := q.skipSpaces }
    | some none =>
      if hasIndicator ':' s.place.rest then some (props.bind .empty s)
      else do
        let (n, s) ← inline? fuel inside props s
        let q := s.place.skipSpaces
        if q.line = line ∧ hasIndicator ':' q.rest then return (n, { s with place := q }) else none

/-- Whether a block at `column` is over at a place, goes on there, or cannot go on so. -/
inductive Turn where
  | over
  | onward
  | stuck

def turn (column : Nat) (p : Place) : Turn :=
  if p.isOver || (p.isFresh && p.column < column) then .over
  else if p.isFresh && p.column == column then .onward
  else .stuck

mutual

/-- A node of a block whose content stands at `inside` or further right. `opens` says whether a
block may start here on this line, `below` whether a list may stand one column to the left, and
`first` is the place of the first property on this line. -/
def node? : Nat → Nat → Bool → Bool → Properties → Option (Place × Bool) → Scan →
    Option (Node × Scan)
  | 0, _, _, _, _, _, _ => none
  | fuel + 1, inside, opens, below, props, first, s =>
    let p := s.place.skip (!opens)
    let crossed := s.place.line < p.line
    let opens := opens || crossed
    let first := if crossed then none else first
    let isItem := hasIndicator '-' p.rest
    let isOutside := p.isFresh && p.column < inside
    if p.isOver || (isOutside && !(below && isItem && p.column + 1 == inside)) then
      some (props.bind .empty { s with place := p })
    else
      let s := { s with place := p }
      match property? false props p with
      | none => none
      | some (some (props, q)) =>
        node? fuel inside false below props (first.or (some (p, opens))) { s with place := q }
      | some none =>
        let start := first.getD (p, opens)
        if isItem then
          if opens then do
            let (items, s) ← items? fuel p.column [] s
            return props.bind (.list none items) s
          else none
        else if hasIndicator '?' p.rest then
          if opens then do
            let (entries, s) ← entries? fuel p.column [] s
            return props.bind (.map none entries) s
          else none
        else
          match p.rest with
          | '|' :: _ => do
            let (text, q) ← block? false inside p.step
            return props.bind (.scalar none .literal (String.ofList text)) { s with place := q }
          | '>' :: _ => do
            let (text, q) ← block? true inside p.step
            return props.bind (.scalar none .folded (String.ofList text)) { s with place := q }
          | _ =>
            match key? fuel inside .none { s with place := start.1 } with
            | some _ =>
              if start.2 then do
                let props := if first.isSome then .none else props
                let (entries, s) ← entries? fuel start.1.column [] { s with place := start.1 }
                return props.bind (.map none entries) s
              else none
            | none => inline? fuel inside props s

/-- The items of a list at `column`, from a dash on. -/
def items? : Nat → Nat → List Node → Scan → Option (List Node × Scan)
  | 0, _, _, _ => none
  | fuel + 1, column, before, s => do
    let (n, s) ← node? fuel (column + 1) true false .none none { s with place := s.place.step }
    let items := before ++ [n]
    let p := s.place.skip false
    match turn column p with
    | .over => return (items, s)
    | .stuck => none
    | .onward =>
      if hasIndicator '-' p.rest then items? fuel column items { s with place := p }
      else return (items, s)

/-- The entries of a map at `column`, from a key on. -/
def entries? : Nat → Nat → List (Node × Node) → Scan → Option (List (Node × Node) × Scan)
  | 0, _, _, _ => none
  | fuel + 1, column, before, s => do
    let (k, v, s) ←
      if hasIndicator '?' s.place.rest then do
        let (k, s) ← node? fuel (column + 1) true false .none none { s with place := s.place.step }
        let p := s.place.skip false
        if p.isFresh && p.column == column && hasIndicator ':' p.rest then
          let (v, s) ← node? fuel (column + 1) true true .none none { s with place := p.step }
          pure (k, v, s)
        else pure (k, .empty, s)
      else do
        let (k, s) ← key? fuel (column + 1) .none s
        let (v, s) ← node? fuel (column + 1) false true .none none { s with place := s.place.step }
        pure (k, v, s)
    let entries := before ++ [(k, v)]
    let p := s.place.skip false
    match turn column p with
    | .over => return (entries, s)
    | .stuck => none
    | .onward => entries? fuel column entries { s with place := p }

end

/-! ### Documents -/

def isPrintable (c : Char) : Bool :=
  let n := c.toNat
  c == '\t' || c == '\n' || c == '\r' || (0x20 ≤ n && n ≤ 0x7E) || n == 0x85 ||
    (0xA0 ≤ n && n ≤ 0xFFFD && n != 0xFEFF) || 0x10000 ≤ n

def joinedBreaks : List Char → List Char
  | [] => []
  | '\r' :: '\n' :: rest => '\n' :: joinedBreaks rest
  | c :: rest =>
    (if c == '\r' || c.toNat == 0x85 || c.toNat == 0x2028 || c.toNat == 0x2029 then '\n' else c) ::
      joinedBreaks rest

/-- Whether a line before a document says something that can be followed. -/
def isDirective (line : List Char) : Bool :=
  let words := (((String.ofList line).splitOn " ").filter (· ≠ "")).takeWhile
    fun w => w.toList.head? ≠ some '#'
  match words with
  | ["%YAML", version] => version == "1.1" || version == "1.2"
  | ["%TAG", _, _] => true
  | _ => false

/-- The place after the lines in front of a document; whether there were any. -/
def skipDirectives : Nat → Bool → Place → Option (Bool × Place)
  | 0, _, _ => none
  | fuel + 1, seen, p =>
    let p := p.skip false
    match p.rest with
    | '%' :: _ =>
      if p.column = 0 then
        let (line, _, _) := cutLine p.rest
        if isDirective line then
          skipDirectives fuel true { p with rest := p.rest.drop line.length, column := line.length }
        else none
      else none
    | _ => some (seen, p)

/-- Whether the text starts with a mark of a document and then a blank. -/
def hasMark (mark : List Char) (p : Place) : Bool :=
  p.isMarker && mark.isPrefixOf p.rest

inductive Document where
  | none
  | node (n : Node)

/-- The one document of a text, or nothing where the text holds only comments. -/
def Document.ofText? (s : String) : Option Document := do
  let chars := match s.toList with
    | c :: rest => if c.toNat = 0xFEFF then rest else c :: rest
    | [] => []
  if !chars.all isPrintable then .none
  let chars := joinedBreaks chars
  let fuel := 4 * chars.length + 16
  let (seen, p) ← skipDirectives fuel false (Place.start chars)
  let isMarked := hasMark ['-', '-', '-'] p
  if seen && !isMarked then .none
  if p.rest.isEmpty then return .none
  let start := if isMarked then p.after 3 (p.rest.drop 3) else p
  let (n, s) ← node? fuel 0 (!isMarked) false .none .none ⟨start, []⟩
  let q := s.place.skip false
  let rest := if hasMark ['.', '.', '.'] q then (q.after 3 (q.rest.drop 3)).skip true else q
  if rest.rest.isEmpty then return .node n else .none

end Gatehouse.Yaml
