import Gatehouse.Json.Written
import Gatehouse.Text.Integer
import Gatehouse.Text.Utf8

/-!
# Reading JSON

A written tree becomes a value if its strings are text, its numbers have a double and it is nested
no deeper than 127 lists and objects. Of two members under one key the later counts.

A record with known fields is read from an object, in which a known field stands at most once and
other members are skipped, or from a list of the fields in their order, in which fields at the end
may be left out.
-/

namespace Gatehouse.Json

/-- The deepest nesting of lists and objects that is read. -/
def maxDepth : Nat := 127

/-- The text of string elements: two escapes in a row may form one character, and an escape that is
half of one stands for nothing. -/
def chars? : List Unit16 → Option (List Char)
  | [] => some []
  | .char c :: rest => (chars? rest).map (c :: ·)
  | [.code n] => if 0xD800 ≤ n ∧ n < 0xE000 then none else some [Char.ofNat n]
  | .code n :: .code m :: rest =>
    if 0xD800 ≤ n ∧ n < 0xDC00 then
      if 0xDC00 ≤ m ∧ m < 0xE000 then
        (chars? rest).map (Char.ofNat (0x10000 + (n - 0xD800) * 0x400 + (m - 0xDC00)) :: ·)
      else none
    else if 0xDC00 ≤ n ∧ n < 0xE000 then none
    else (chars? (.code m :: rest)).map (Char.ofNat n :: ·)
  | .code n :: .char c :: rest =>
    if 0xD800 ≤ n ∧ n < 0xE000 then none
    else (chars? (.char c :: rest)).map (Char.ofNat n :: ·)

def unitsText? (units : List Unit16) : Option String :=
  (chars? units).map String.ofList

mutual

/-- The value of a tree nested at most `depth` deep. -/
def value? (depth : Nat) : Written → Option Json
  | .null => some .null
  | .bool b => some (.bool b)
  | .number n => n.number?.map .number
  | .text units => (unitsText? units).map .text
  | .list items =>
    if depth = 0 then none else (values? (depth - 1) items).map .list
  | .object members =>
    if depth = 0 then none
    else (pairs? (depth - 1) members).map fun ps => .object (Keyed.ofPairs ps)

def values? (depth : Nat) : List Written → Option (List Json)
  | [] => some []
  | w :: rest =>
    match value? depth w, values? depth rest with
    | some v, some vs => some (v :: vs)
    | _, _ => none

/-- The keys and values of members as written. -/
def pairs? (depth : Nat) : List (List Unit16 × Written) → Option (List (String × Json))
  | [] => some []
  | (key, w) :: rest =>
    match unitsText? key, value? depth w, pairs? depth rest with
    | some k, some v, some ps => some ((k, v) :: ps)
    | _, _, _ => none

end

def ofText? (s : String) : Option Json :=
  (Written.ofText? s).bind (value? maxDepth)

def ofBytes? (bytes : Bytes) : Option Json :=
  (Utf8.decode? bytes).bind ofText?

/-- Whether a body counts as empty: nothing but ASCII white space. -/
def isBlankBody (bytes : Bytes) : Bool :=
  bytes.all fun b => b == 0x20 || b == 0x09 || b == 0x0A || b == 0x0C || b == 0x0D

/-! ### Records -/

/-- What stands for a part of a byte sequence that is no character: a character that no escape and no
number goes on with, and half of one that never finds its other half. -/
def damaged : List Char :=
  "x\\udc00".toList

/-- The tree of a byte sequence. Damage in a member that is skipped does no harm. -/
def Written.ofBytes? (bytes : Bytes) : Option Written :=
  ofText? (String.ofList ((Utf8.characters bytes).flatMap fun c => c.elim damaged ([·])))

/-- The known fields of an object: each at most once. -/
def knownFields? (names : List String) (members : List (List Unit16 × Written)) :
    Option (List (String × Written)) :=
  members.foldlM (fun seen (key, w) => do
    let k ← unitsText? key
    if names.contains k then
      if (Keyed.get? k seen).isSome then none else some (seen ++ [(k, w)])
    else some seen) []

def Written.fields? (names : List String) : Written → Option (List (String × Written))
  | .object members => knownFields? names members
  | .list items => if names.length < items.length then none else some (names.zip items)
  | _ => none

def field? {α : Type} (read : Written → Option α) (default : α) (name : String)
    (fields : List (String × Written)) : Option α :=
  match Keyed.get? name fields with
  | none => some default
  | some w => read w

def required? {α : Type} (read : Written → Option α) (name : String)
    (fields : List (String × Written)) : Option α :=
  (Keyed.get? name fields).bind read

def nullable {α : Type} (read : Written → Option α) : Written → Option (Option α)
  | .null => some none
  | w => (read w).map some

def Written.text? : Written → Option String
  | .text units => unitsText? units
  | _ => none

def Written.bool? : Written → Option Bool
  | .bool b => some b
  | _ => none

def Written.int64? : Written → Option Int
  | .number n =>
    match n.number? with
    | some (.integer i) => if i < 0x8000000000000000 then some i else none
    | _ => none
  | _ => none

/-- A field with a number that is not negative and below `bound`. -/
def Written.natBelow? (bound : Nat) : Written → Option Nat
  | .number n =>
    match n.number? with
    | some (.integer i) => if 0 ≤ i ∧ i < bound then some i.toNat else none
    | _ => none
  | _ => none

def Written.float? : Written → Option Float
  | .number n => n.number?.map Number.toFloat
  | _ => none

def Written.listOf? {α : Type} (read : Written → Option α) : Written → Option (List α)
  | .list items => items.mapM read
  | _ => none

/-- The name of an alternative: a text, or an object with that one key and null under it. -/
def Written.choice? : Written → Option String
  | .text units => unitsText? units
  | .object [(key, .null)] => unitsText? key
  | _ => none

/-- A field with free-form members, `depth` levels of nesting allowed in it. -/
def Written.members? (depth : Nat) : Written → Option Members
  | .object members =>
    match value? depth (.object members) with
    | some (.object ms) => some ms
    | _ => none
  | _ => none

end Gatehouse.Json
