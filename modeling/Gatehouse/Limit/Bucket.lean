import Gatehouse.Keyed
import Gatehouse.Limit.Refill

/-!
# Rate limiting

Every client has a bucket that holds the time at which its next request would be on schedule, one
period after the last. A request may come early by as many periods as the burst allows. A bucket
that nobody has asked for in a quarter of an hour is forgotten. A bucket keeps in 64 bits of
nanoseconds how early a request may come, and cannot be made where that takes more.
-/

namespace Gatehouse.Limit

/-- The period between requests in nanoseconds, and how many may come at once. -/
structure Quota where
  period : Nat
  burst : Nat
deriving DecidableEq, Repr

/-- The quota of a rate and a burst, none where the rate sets no limit. A burst of nothing is a
burst of one. -/
def Quota.ofRate? (rate : Float) (burst : Nat) : Option Quota :=
  (period? rate).map fun p => ⟨p, max 1 burst⟩

/-- How early a request may come. -/
def Quota.tolerance (q : Quota) : Nat :=
  q.period * q.burst

/-- Whether a bucket can be made for the quota. -/
def Quota.Fits (q : Quota) : Prop :=
  q.tolerance ≤ maxPeriod

instance (q : Quota) : Decidable q.Fits :=
  inferInstanceAs (Decidable (q.tolerance ≤ maxPeriod))

/-- A client's bucket: the time at which its next request is on schedule, and when it was last asked
for, in nanoseconds. -/
structure Bucket where
  arrival : Nat
  lastSeen : Nat
deriving DecidableEq, Repr

inductive Admission where
  | allowed
  | limited (retryAfter : Nat)
deriving DecidableEq, Repr

/-- The bucket of a client that has not been seen. -/
def Bucket.fresh (q : Quota) (now : Nat) : Bucket :=
  ⟨now + q.period, now⟩

/-- Nanoseconds as whole seconds, rounded up and at least one. -/
def wholeSeconds (nanos : Nat) : Nat :=
  max 1 ((nanos + second - 1) / second)

def Bucket.check (q : Quota) (b : Bucket) (now : Nat) : Admission × Bucket :=
  let earliest := b.arrival - q.tolerance
  if now < earliest then (.limited (wholeSeconds (earliest - now)), ⟨b.arrival, now⟩)
  else (.allowed, ⟨max b.arrival now + q.period, now⟩)

abbrev Buckets := List (String × Bucket)

/-- How long a bucket is kept: a quarter of an hour. -/
def idleLimit : Nat := 15 * 60 * second

def Buckets.sweep (bs : Buckets) (now : Nat) : Buckets :=
  bs.filter fun p => now - p.2.lastSeen ≤ idleLimit

/-- Checks a request of a client whose bucket can be made. Without a quota everything is allowed and
nothing is kept. -/
def check (quota : Option Quota) (bs : Buckets) (client : String) (now : Nat) :
    Admission × Buckets :=
  match quota with
  | none => (.allowed, bs)
  | some q =>
    let live := Buckets.sweep bs now
    let bucket := (Keyed.get? client live).getD (Bucket.fresh q now)
    let (answer, next) := bucket.check q now
    (answer, Keyed.insert client next live)

/-- Checks a request of a client, none where its bucket would have to be made and cannot be. -/
def check? (quota : Option Quota) (bs : Buckets) (client : String) (now : Nat) :
    Option (Admission × Buckets) :=
  match quota with
  | none => some (check none bs client now)
  | some q =>
    if q.Fits ∨ (Keyed.get? client (Buckets.sweep bs now)).isSome then
      some (check (some q) bs client now)
    else none

end Gatehouse.Limit
