import Gatehouse.Text.Ascii
import Gatehouse.Text.Split

/-!
# Scopes

What a caller may do is a set of eight scopes; `admin` stands for all of them. Scopes are named in
small letters, and names that a caller writes are read without blanks around them and in any case.
-/

namespace Gatehouse

inductive Scope where
  | admin
  | read
  | run
  | plan
  | approve
  | reject
  | undo
  | cancel
deriving DecidableEq, Repr

namespace Scope

/-- Every scope, in the order in which sets of them are shown. -/
def all : List Scope :=
  [admin, read, run, plan, approve, reject, undo, cancel]

/-- What a session may do when its issuer did not ask for anything: everything but `admin`. -/
def operational : List Scope :=
  [read, run, plan, approve, reject, undo, cancel]

def name : Scope → String
  | admin => "admin"
  | read => "read"
  | run => "run"
  | plan => "plan"
  | approve => "approve"
  | reject => "reject"
  | undo => "undo"
  | cancel => "cancel"

def ofName? (s : String) : Option Scope :=
  all.find? fun scope => scope.name = s

/-- The form in which names are compared: no blanks around, small letters. -/
def fold (s : String) : String :=
  Text.lower (Text.trim s)

def ofText? (s : String) : Option Scope :=
  ofName? (fold s)

/-- The names of a list, folded: each once, in the order of their first occurrence, blank ones left
out. -/
def distinctNames (raw : List String) : List String :=
  raw.foldl (fun seen s =>
    let n := fold s
    if n = "" ∨ n ∈ seen then seen else seen ++ [n]) []

structure Unknown where
  names : List String
deriving DecidableEq, Repr

def Unknown.message (e : Unknown) : String :=
  "unknown scope(s): " ++ Text.joined ", " e.names

/-- The scope that a text names, or the name that is none. -/
def parse (s : String) : Except Unknown Scope :=
  match ofText? s with
  | some scope => .ok scope
  | none => .error ⟨[fold s]⟩

/-- The scopes that a list of names asks for, each once, in the order of their first occurrence;
`read` when the list names none. -/
def normalize (raw : List String) : Except Unknown (List Scope) :=
  let names := distinctNames raw
  let unknown := names.filter fun n => (ofText? n).isNone
  if names = [] then .ok [read]
  else if unknown = [] then .ok (names.filterMap ofText?)
  else .error ⟨unknown⟩

theorem ofName?_name (s : Scope) : ofName? s.name = some s := by
  cases s <;> decide

end Scope

structure ScopeSet where
  has : Scope → Bool

namespace ScopeSet

def full : ScopeSet :=
  ⟨fun _ => true⟩

def ofList (l : List Scope) : ScopeSet :=
  ⟨fun s => l.contains s⟩

def allows (set : ScopeSet) (s : Scope) : Bool :=
  set.has .admin || set.has s

/-- The members in the order of `Scope.all`. -/
def toList (set : ScopeSet) : List Scope :=
  Scope.all.filter set.has

@[simp] theorem has_ofList (l : List Scope) (s : Scope) : (ofList l).has s = l.contains s := rfl

@[simp] theorem allows_full (s : Scope) : full.allows s = true := rfl

end ScopeSet

end Gatehouse
