/-!
# Realtime connections

At most `max` connections are open at a time. A connection holds a permit while it lasts; the gauge
shows the number of permits as of the last change.
-/

namespace Gatehouse

/-- The limit on open connections, the number that are open, and the number last shown. -/
structure Connections where
  max : Nat
  active : Nat
  gauge : Nat
deriving DecidableEq, Repr

namespace Connections

def ofMax (max : Nat) : Connections :=
  ⟨max, 0, 0⟩

def acquire? (c : Connections) : Option Connections :=
  if c.max ≤ c.active then none else some ⟨c.max, c.active + 1, c.active + 1⟩

def release (c : Connections) : Connections :=
  ⟨c.max, c.active - 1, c.active - 1⟩

end Connections

end Gatehouse
