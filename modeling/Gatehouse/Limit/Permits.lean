import Gatehouse.Limit.Connections

/-!
# Permits under contention

A call for a permit reads the number of open connections, compares it with the limit, and raises it by
a compare-and-swap. That fails if the number has changed in the meantime, and may fail for no reason;
the call then goes on with the number that it found. A permit is given back by one subtraction, and
the gauge is set after each change. Any number of calls take these steps in any order, so what a call
knows of the number may be out of date.

The number is held in a word, which has `words` values: raising and lowering it wraps around.
-/

namespace Gatehouse

/-- Where a call stands, from its start until the permit that it got has been given back. -/
inductive Stage where
  | called
  | looked (seen : Nat)
  | trying (seen : Nat)
  | taken (seen : Nat)
  | refused
  | held
  | dropped (before : Nat)
  | gone
deriving DecidableEq, Repr

namespace Stage

/-- Whether the call holds a permit: from the swap that took it to the subtraction that gives it
back. -/
def holds : Stage → Bool
  | taken _ => true
  | held => true
  | _ => false

/-- Whether the call has neither got a permit nor been refused one. -/
def isAsking : Stage → Bool
  | called => true
  | looked _ => true
  | trying _ => true
  | _ => false

end Stage

/-- The number of connections as all see it, and where every call stands. -/
structure Permits where
  shared : Connections
  calls : List Stage
deriving DecidableEq, Repr

namespace Permits

def raised (words n : Nat) : Nat :=
  (n + 1) % words

def lowered (words n : Nat) : Nat :=
  (n + (words - 1)) % words

/-- The next step of a call. With `fails` a compare-and-swap fails although it could succeed. -/
def next (words : Nat) (fails : Bool) (c : Connections) : Stage → Connections × Stage
  | .called => (c, .looked c.active)
  | .looked seen => (c, if c.max ≤ seen then .refused else .trying seen)
  | .trying seen =>
    if c.active = seen ∧ fails = false then
      ({ c with active := raised words seen }, .taken seen)
    else (c, .looked c.active)
  | .taken seen => ({ c with gauge := raised words seen }, .held)
  | .held => ({ c with active := lowered words c.active }, .dropped c.active)
  | .dropped before => ({ c with gauge := before - 1 }, .gone)
  | .refused => (c, .refused)
  | .gone => (c, .gone)

/-- One move: somebody calls, or a call that there is takes its next step. -/
inductive Move where
  | call
  | turn (i : Nat) (fails : Bool)
deriving DecidableEq, Repr

def step (words : Nat) (p : Permits) : Move → Permits
  | .call => { p with calls := p.calls ++ [.called] }
  | .turn i fails =>
    match p.calls[i]? with
    | none => p
    | some stage =>
      let (shared, stage) := next words fails p.shared stage
      ⟨shared, p.calls.set i stage⟩

def start (max : Nat) : Permits :=
  ⟨.ofMax max, []⟩

def run (words max : Nat) (moves : List Move) : Permits :=
  moves.foldl (step words) (start max)

/-- The number of permits that are held. -/
def held (p : Permits) : Nat :=
  p.calls.countP Stage.holds

end Permits

end Gatehouse
