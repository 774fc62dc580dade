import Gatehouse.Text.Ascii

/-!
# Decimal digits

The digits that a number is written with are read back as that number, and only zero is written with
a leading zero.
-/

namespace Gatehouse.Text

theorem digit?_of_isDigit {c : Char} (h : c.isDigit = true) :
    digit? c = some (c.toNat - '0'.toNat) := by
  simp only [Char.isDigit, Bool.and_eq_true, decide_eq_true_eq] at h
  rw [digit?, if_pos]
  exact ⟨Char.le_def.mpr h.1, Char.le_def.mpr h.2⟩

theorem foldl_digits {l : List Char} (h : ∀ c ∈ l, c.isDigit = true) (n : Nat) :
    l.foldl (fun acc c => do return (← acc) * 10 + (← digit? c)) (some n)
      = some (Nat.ofDigitChars 10 l n) := by
  induction l generalizing n with
  | nil => simp
  | cons c rest ih =>
    rw [List.foldl_cons, digit?_of_isDigit (h c List.mem_cons_self), Nat.ofDigitChars_cons,
      Nat.mul_comm 10 n, ← ih fun d hd => h d (List.mem_cons_of_mem _ hd)]
    rfl

theorem isDigit_of_mem_toDigits {n : Nat} {c : Char} (h : c ∈ Nat.toDigits 10 n) :
    c.isDigit = true :=
  Nat.isDigit_of_mem_toDigits (by decide) (by decide) h

theorem toDigits_starts (n : Nat) :
    ∃ c rest, Nat.toDigits 10 n = c :: rest ∧ c.isDigit = true := by
  obtain ⟨c, rest, hcons⟩ := List.exists_cons_of_ne_nil (Nat.toDigits_ne_nil (n := n) (b := 10))
  exact ⟨c, rest, hcons, isDigit_of_mem_toDigits (hcons ▸ List.mem_cons_self)⟩

/-- Digits are read back as the number they were written for. -/
theorem decimal?_toDigits (n : Nat) : decimal? (Nat.toDigits 10 n) = some n := by
  have hdigits : ∀ c ∈ Nat.toDigits 10 n, c.isDigit = true := fun c => isDigit_of_mem_toDigits
  have hread := foldl_digits hdigits 0
  rw [Nat.ofDigitChars_ten_toDigits] at hread
  obtain ⟨c, rest, hcons, -⟩ := toDigits_starts n
  rw [hcons] at hread ⊢
  exact hread

theorem toDigits_injective {m n : Nat} (h : Nat.toDigits 10 m = Nat.toDigits 10 n) : m = n := by
  have hread := decimal?_toDigits m
  rw [h, decimal?_toDigits] at hread
  exact (Option.some.inj hread).symm

theorem toString_int_ne_empty (n : Int) : toString n ≠ "" := by
  rw [Int.toString_eq_repr, Int.repr_eq_if]
  split
  · exact Nat.repr_ne_empty
  · simp

theorem toString_int_injective {m n : Int} (h : toString m = toString n) : m = n := by
  have hnumber {a b : Nat} (h : a.repr = b.repr) : a = b := by
    refine toDigits_injective ?_
    rw [← Nat.toList_repr, h, Nat.toList_repr]
  have hsign {a b : Nat} : a.repr ≠ "-" ++ b.repr := by
    intro h
    have hmem : '-' ∈ Nat.toDigits 10 a := by
      rw [← Nat.toList_repr, h, String.toList_append]
      exact List.mem_cons_self
    exact absurd (isDigit_of_mem_toDigits hmem) (by decide)
  rw [Int.toString_eq_repr, Int.toString_eq_repr, Int.repr_eq_if, Int.repr_eq_if] at h
  split at h
  · split at h
    · have hsame := hnumber h
      omega
    · exact absurd h hsign
  · split at h
    · exact absurd h.symm hsign
    · have hsame := hnumber ((String.append_right_inj "-").mp h)
      omega

theorem digitChar_ne_zero {n : Nat} (h : n < 10) (hpos : 0 < n) : n.digitChar ≠ '0' := by
  revert n
  decide

theorem head?_toDigits_ne_zero {n : Nat} (h : 0 < n) :
    (Nat.toDigits 10 n).head? ≠ some '0' := by
  induction n using Nat.strongRecOn with
  | ind n ih =>
    by_cases hlt : n < 10
    · rw [Nat.toDigits_of_lt_base hlt, List.head?_cons]
      exact fun heq => digitChar_ne_zero hlt h (Option.some.inj heq)
    · have hfront := ih (n / 10) (by omega) (by omega)
      obtain ⟨c, l, hcons, -⟩ := toDigits_starts (n / 10)
      rw [hcons] at hfront
      rw [Nat.toDigits_of_base_le (by decide) (Nat.le_of_not_lt hlt), hcons]
      exact hfront

end Gatehouse.Text
