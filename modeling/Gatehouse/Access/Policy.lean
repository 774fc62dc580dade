import Gatehouse.Access.Route
import Gatehouse.Access.Scope

/-!
# What a request requires

Reading needs `read`. A POST needs the scope that the table below gives its path; every other
request falls to the policy for unscoped routes, which asks for `admin` or for `run`.
-/

namespace Gatehouse

/-- The method of a request. Methods are told apart by case. -/
structure Method where
  name : String
deriving DecidableEq, Repr

namespace Method

def get : Method := ⟨"GET"⟩
def head : Method := ⟨"HEAD"⟩
def post : Method := ⟨"POST"⟩
def options : Method := ⟨"OPTIONS"⟩

def isTokenChar (c : Char) : Bool :=
  c.isAlphanum || "!#$%&'*+-.^_\x60|~".toList.contains c

def ofText? (s : String) : Option Method :=
  if s ≠ "" && s.toList.all isTokenChar then some ⟨s⟩ else none

end Method

/-- What a request requires that no rule covers. -/
inductive UnscopedPolicy where
  | deny
  | run
deriving DecidableEq, Repr

namespace UnscopedPolicy

def name : UnscopedPolicy → String
  | deny => "deny"
  | run => "run"

def ofName? : String → Option UnscopedPolicy
  | "deny" => some deny
  | "run" => some run
  | _ => none

/-- The policy that a text names, blanks around it and case aside. -/
def ofText (s : String) : Except String UnscopedPolicy :=
  match ofName? (Text.lower (Text.trim s)) with
  | some p => .ok p
  | none => .error ("unknown unscoped route policy: " ++ Text.lower (Text.trim s))

/-- The scope that stands in where no rule gives one. -/
def scope : UnscopedPolicy → Scope
  | deny => .admin
  | run => .run

end UnscopedPolicy

namespace Policy

/-- The scope of a POST to `/{collection}/{id}/{action}`. -/
def actionScope? : String → String → Option Scope
  | "plans", "approve" => some .approve
  | "plans", "approve_async" => some .approve
  | "plans", "retry_failed" => some .approve
  | "plans", "retry_failed_async" => some .approve
  | "plans", "reject" => some .reject
  | "plans", "undo" => some .undo
  | "jobs", "cancel" => some .cancel
  | _, _ => none

/-- The scope of a POST to a path of its own. -/
def exactScope? : String → Option Scope
  | "/run" => some .run
  | "/run_async" => some .run
  | "/check" => some .run
  | "/plans" => some .plan
  | "/undo" => some .undo
  | "/terminal/sessions" => some .run
  | _ => none

def nestedScope? (path : String) : Option Scope := do
  let (collection, rest) ← Text.cut '/' (← Text.after? "/" path)
  let (_, action) ← Text.cut '/' rest
  actionScope? collection action

def postScope? (path : String) : Option Scope :=
  match exactScope? path with
  | some s => some s
  | none =>
    if (Text.after? "/browser/" path).isSome then some .run
    else
      match Text.after? "/terminal/sessions/" path with
      | some rest =>
        if Text.endsWith "/input" rest || Text.endsWith "/close" rest then some .run else none
      | none => nestedScope? path

def required (policy : UnscopedPolicy) (method : Method) (path : String) : Scope :=
  if method = .get ∨ method = .head then .read
  else if method = .post then (postScope? path).getD policy.scope
  else policy.scope

end Policy

namespace Route

/-- The scope of a POST by production, where the table gives one. -/
def postScope? : Route → Option Scope
  | resource .run => some .run
  | resource .runAsync => some .run
  | resource .check => some .run
  | resource .plans => some .plan
  | resource .undo => some .undo
  | resource .terminals => some .run
  | browser _ => some .run
  | terminal _ .input => some .run
  | terminal _ .close => some .run
  | planAction _ .approve => some .approve
  | planAction _ .approveAsync => some .approve
  | planAction _ .retryFailed => some .approve
  | planAction _ .retryFailedAsync => some .approve
  | planAction _ .reject => some .reject
  | planAction _ .undo => some .undo
  | jobCancel _ => some .cancel
  | _ => none

end Route

end Gatehouse
