import Gatehouse.Config.Reading
import Gatehouse.Decimal.Reading
import Gatehouse.Text.Integer
import Gatehouse.Yaml.Node

/-!
# Settings in YAML

A settings file is one YAML document. What a scalar means depends on the field it stands for: any
scalar is a text, while truth values and numbers are plain scalars in the spellings of YAML 1.2. A
field without a value is an empty text, an empty list or a setting left out, whichever it can be.
-/

namespace Gatehouse.Yaml

def isNullText (s : String) : Bool :=
  s == "~" || s == "null" || s == "Null" || s == "NULL"

namespace Node

/-- Whether nothing is written for a node. -/
def isEmpty : Node → Bool
  | scalar _ .plain "" => true
  | _ => false

/-- The text of a scalar that can be a value of a kind: a plain one, or a block tagged as such. -/
def literal? (kind : String) : Node → Option String
  | scalar _ .plain s => some s
  | scalar (some tag) .literal s => if tag = kind then some s else none
  | _ => none

def text? : Node → Option String
  | scalar _ _ s => some s
  | _ => none

/-- Whether a node leaves a setting out. -/
def isNull : Node → Bool
  | scalar none .plain s => s == "" || isNullText s
  | scalar (some "!null") .plain s => isNullText s
  | _ => false

def bool? (n : Node) : Option Bool :=
  match n.literal? "!bool" with
  | some "true" | some "True" | some "TRUE" => some true
  | some "false" | some "False" | some "FALSE" => some false
  | _ => none

def digits? : List Char → Option Nat
  | '0' :: 'x' :: ds => Text.number? 16 Text.hexDigit? ds
  | '0' :: 'o' :: ds => Text.number? 8 (fun c => (Text.digit? c).filter (· < 8)) ds
  | '0' :: 'b' :: ds => Text.number? 2 (fun c => (Text.digit? c).filter (· < 2)) ds
  | ['0'] => some 0
  | '0' :: _ => none
  | ds => Text.decimal? ds

/-- A whole number: digits after an optional sign, without zeros in front. -/
def integer? (s : String) : Option Int :=
  match s.toList with
  | '-' :: ds => (digits? ds).map fun n => -(n : Int)
  | '+' :: ds => (digits? ds).map fun n => (n : Int)
  | ds => (digits? ds).map fun n => (n : Int)

def int64? (n : Node) : Option Int :=
  ((n.literal? "!int").bind integer?).filter fun i => decide (Text.Fits64 i)

/-- A number below `bound` and without a minus sign. -/
def natBelow? (bound : Nat) (n : Node) : Option Nat :=
  match n.literal? "!int" with
  | none => none
  | some s =>
    let ds := match s.toList with
      | '+' :: ds => ds
      | ds => ds
    (digits? ds).filter (· < bound)

/-- A double: a decimal that is finite, or the spellings of the values that are not. -/
def float? (n : Node) : Option Float :=
  match n.literal? "!float" with
  | none => none
  | some s =>
    let bare := match s.toList with
      | '+' :: ds => String.ofList ds
      | _ => s
    if [".inf", ".Inf", ".INF"].contains bare then some (1 / 0)
    else if ["-.inf", "-.Inf", "-.INF"].contains s then some (-1 / 0)
    else if [".nan", ".NaN", ".NAN"].contains s then some (0 / 0)
    else
      match bare.toList, s.toList with
      | '+' :: _, _ => none
      | '-' :: _, '+' :: _ => none
      | _, _ => (Decimal.read? bare).filter Float.isFinite

def items? : Node → Option (List Node)
  | list _ items => some items
  | n => if n.isEmpty then some [] else none

/-- The name of an alternative: a scalar, or the tag of an empty one. -/
def choice? : Node → Option String
  | scalar (some tag) style s =>
    if (Text.after? "!" tag).isSome || tag = "" then some s
    else if style = .plain ∧ (s = "" ∨ isNullText s) then some tag
    else none
  | scalar none _ s => some s
  | _ => none

/-- The fields of a map under their names; a known one stands there at most once. -/
def fields? (names : List String) : Node → Option (List (String × Node))
  | map _ entries =>
    entries.foldlM (fun seen (key, value) => do
      let name ← key.text?
      if names.contains name then
        if (Keyed.get? name seen).isSome then none else some (seen ++ [(name, value)])
      else some seen) []
  | n => if n.isEmpty then some [] else none

end Node

end Gatehouse.Yaml

namespace Gatehouse.Config

def yamlKinds : Kinds Yaml.Node where
  isNull := Yaml.Node.isNull
  text? := Yaml.Node.text?
  bool? := Yaml.Node.bool?
  int64? := Yaml.Node.int64?
  natBelow? := Yaml.Node.natBelow?
  float? := Yaml.Node.float?
  items? := Yaml.Node.items?
  choice? := Yaml.Node.choice?

/-- The settings of a YAML text; a text without a document sets nothing. -/
def ofYaml? (s : String) : Option Config :=
  match Yaml.Document.ofText? s with
  | none => none
  | some .none => some default
  | some (.node n) => (n.fields? fieldNames).bind (ofFields? yamlKinds)

def ofFile (path : String) (content : FileContent) : Except ConfigError Config :=
  match content with
  | .bytes b =>
    match Utf8.decode? b with
    | none => .error (.unreadable "config file" path)
    | some s =>
      match ofYaml? s with
      | some c => .ok c
      | none => .error (.badFile path)
  | _ => .error (.unreadable "config file" path)

end Gatehouse.Config
