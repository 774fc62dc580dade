import Gatehouse.Decimal.Shortest

/-!
# From a rate to a period

A rate of requests per second becomes the nanoseconds between two of them: the double nearest to
one over the rate, taken exactly and rounded to a whole number of nanoseconds, ties to even. A rate
whose period is no positive number of 64 bits cannot be kept.
-/

namespace Gatehouse.Limit

/-- A fraction rounded to a whole number, ties to even. -/
def rounded (num den : Nat) : Nat :=
  let q := num / den
  let twice := 2 * (num % den)
  if den < twice then q + 1
  else if twice = den then q + q % 2
  else q

def second : Nat := 1000000000

def nanoseconds (x : Float) : Nat :=
  let b := Decimal.Binary.ofBits x.toBits.toNat
  if 0 ≤ b.exponent then b.significand * Nat.pow 2 b.exponent.toNat * second
  else rounded (b.significand * second) (Nat.pow 2 (-b.exponent).toNat)

def maxPeriod : Nat := 0xFFFFFFFFFFFFFFFF

/-- The nanoseconds between two requests at a rate, if the rate can be kept. -/
def period? (rate : Float) : Option Nat :=
  if rate.isFinite && rate > 0 && (1 / rate).isFinite then
    (some (nanoseconds (1 / rate))).filter fun n => decide (0 < n ∧ n ≤ maxPeriod)
  else none

theorem period?_bounds {rate : Float} {n : Nat} (h : period? rate = some n) :
    0 < n ∧ n ≤ maxPeriod := by
  unfold period? at h
  split at h
  · exact of_decide_eq_true (Option.filter_eq_some_iff.1 h).2
  · simp at h

end Gatehouse.Limit
