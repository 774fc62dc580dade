import Gatehouse.Keyed

/-!
# JSON values

A number written without point and exponent that fits 64 bits, signed or unsigned, is kept exactly;
every other number is a double. The members of an object are in the order of their keys, each key
once.
-/

namespace Gatehouse

inductive Json.Number where
  | integer (n : Int)
  | real (x : Float)

inductive Json where
  | null
  | bool (b : Bool)
  | number (n : Json.Number)
  | text (s : String)
  | list (items : List Json)
  | object (members : List (String × Json))

namespace Json

instance : Inhabited Json := ⟨null⟩

abbrev Members := List (String × Json)

def int (n : Int) : Json :=
  number (.integer n)

def nat (n : Nat) : Json :=
  number (.integer n)

/-- A text, or null where there is none. -/
def text? : Option String → Json
  | some s => text s
  | none => null

def int? : Option Int → Json
  | some n => int n
  | none => null

/-- The object with some members, in the order of their keys. -/
def record (members : List (String × Json)) : Json :=
  object (Keyed.ofPairs members)

/-- Puts a member into an object that lacks it; any other value stays as it is. -/
def fill (key : String) (value : Json) : Json → Json
  | object members =>
    match Keyed.get? key members with
    | some _ => object members
    | none => object (Keyed.insert key value members)
  | other => other

end Json

end Gatehouse
