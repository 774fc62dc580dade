import Gatehouse.Proofs.Json.Leaves
import Gatehouse.Proofs.Text.Letters

/-!
# The edges of written values

A value that is no text is written without a blank at either end: words and numbers hold no blank at
all, lists and objects stand in brackets. So the written form of a value that serves as a name needs
no trimming.
-/

namespace Gatehouse

/-! ### Numbers -/

namespace Text

/-- The characters of numbers, and of the words that stand where a number is not finite. -/
def inNumber (c : Char) : Bool :=
  c.isDigit || "+-.eNaNinfnull".toList.contains c

/-- A text that is not empty and holds nothing but characters of numbers. -/
structure Numeral (s : String) : Prop where
  ne_nil : s.toList ≠ []
  inNumber : ∀ c ∈ s.toList, inNumber c = true

theorem Numeral.append {s t : String} (hs : Numeral s)
    (ht : ∀ c ∈ t.toList, Text.inNumber c = true) : Numeral (s ++ t) where
  ne_nil := by simp [hs.ne_nil]
  inNumber := by
    rw [String.toList_append, List.forall_mem_append]
    exact ⟨hs.inNumber, ht⟩

theorem isBlank_of_isDigit {c : Char} (h : c.isDigit = true) : isBlank c = false := by
  simp only [Char.isDigit, Bool.and_eq_true, decide_eq_true_eq] at h
  have hlow : 48 ≤ c.toNat := h.1
  have hhigh : c.toNat ≤ 57 := h.2
  exact isBlank_of_visible (by omega) (by omega)

theorem inNumber_of_mem_toDigits (n : Nat) : ∀ c ∈ Nat.toDigits 10 n, inNumber c = true := by
  intro c hc
  rw [inNumber, isDigit_of_mem_toDigits hc, Bool.true_or]

theorem isBlank_of_inNumber {c : Char} (h : inNumber c = true) : isBlank c = false := by
  rw [inNumber, Bool.or_eq_true] at h
  rcases h with hdigit | hmark
  · exact isBlank_of_isDigit hdigit
  · exact not_blank_of_all (by decide) c (List.contains_iff_mem.mp hmark)

end Text

namespace Decimal

open Text (Numeral inNumber_of_mem_toDigits)

theorem inNumber_of_mem_zeros (n : Nat) : ∀ c ∈ zeros n, Text.inNumber c = true := by
  intro c hc
  rw [List.eq_of_mem_replicate hc]
  decide

theorem numeral_pointed (n k : Nat) :
    Numeral (String.ofList ((Nat.toDigits 10 n).take k ++ '.' :: (Nat.toDigits 10 n).drop k)) where
  ne_nil := by simp
  inNumber := by
    rw [String.toList_ofList, List.forall_mem_append, List.forall_mem_cons]
    refine ⟨fun c hc => ?_, by decide, fun c hc => ?_⟩
    · exact inNumber_of_mem_toDigits n c (List.mem_of_mem_take hc)
    · exact inNumber_of_mem_toDigits n c (List.mem_of_mem_drop hc)

theorem numeral_positional (d : Digits) {mark : String}
    (hmark : ∀ c ∈ mark.toList, Text.inNumber c = true) : Numeral (d.positional mark) := by
  have hdigits := inNumber_of_mem_toDigits d.digits
  rw [Digits.positional]
  split
  · refine Numeral.append ⟨by simp [Nat.toDigits_ne_nil], ?_⟩ hmark
    rw [String.toList_ofList, List.forall_mem_append]
    exact ⟨hdigits, inNumber_of_mem_zeros _⟩
  · split
    · exact numeral_pointed d.digits _
    · refine ⟨by simp, ?_⟩
      rw [String.toList_ofList, List.forall_mem_append, List.forall_mem_cons, List.forall_mem_cons]
      exact ⟨⟨by decide, by decide, inNumber_of_mem_zeros _⟩, hdigits⟩

theorem numeral_scientific (d : Digits) : Numeral d.scientific := by
  have hpoint : Numeral (String.ofList (if (Nat.toDigits 10 d.digits).length = 1
      then Nat.toDigits 10 d.digits
      else (Nat.toDigits 10 d.digits).take 1 ++ '.' :: (Nat.toDigits 10 d.digits).drop 1)) := by
    split
    · refine ⟨by simp [Nat.toDigits_ne_nil], ?_⟩
      rw [String.toList_ofList]
      exact inNumber_of_mem_toDigits d.digits
    · exact numeral_pointed d.digits 1
  have hmarked := hpoint.append (t := "e") (List.all_eq_true.mp (by decide))
  rw [Digits.scientific]
  refine (hmarked.append ?_).append ?_
  · split <;> exact List.all_eq_true.mp (by decide)
  · rw [Nat.toString_eq_repr, Nat.toList_repr]
    exact inNumber_of_mem_toDigits _

theorem numeral_signed {s : String} (h : Numeral s) (negative : Bool) :
    Numeral (if negative then "-" ++ s else s) := by
  have hminus : Numeral "-" := ⟨by decide, List.all_eq_true.mp (by decide)⟩
  cases negative with
  | false => exact h
  | true => exact hminus.append h.inNumber

/-- What a layout adds to a whole number is all that it can add to the characters of numbers. -/
theorem numeral_write {l : Layout} (hmark : ∀ c ∈ l.wholeMark.toList, Text.inNumber c = true)
    (x : Float) : Numeral (l.write x) := by
  have hbody : Numeral (if x.isInf then "inf"
      else if (ofFloat x).digits = 0 then "0" ++ l.wholeMark
      else if l.positional (digitCount (ofFloat x).digits + (ofFloat x).exponent) then
        (ofFloat x).positional l.wholeMark
      else (ofFloat x).scientific) := by
    split
    · exact ⟨by decide, List.all_eq_true.mp (by decide)⟩
    · split
      · exact Numeral.append ⟨by decide, List.all_eq_true.mp (by decide)⟩ hmark
      · split
        · exact numeral_positional _ hmark
        · exact numeral_scientific _
  rw [Layout.write]
  split
  · exact ⟨by decide, List.all_eq_true.mp (by decide)⟩
  · exact numeral_signed hbody (isNegative x)

end Decimal

/-! ### Values -/

namespace Json

theorem numeral_write (n : Number) : Text.Numeral n.write := by
  cases n with
  | integer i =>
    rw [Number.write]
    refine ⟨?_, ?_⟩
    · rw [toList_toString]
      split <;> simp [Nat.toDigits_ne_nil]
    · rw [toList_toString]
      split
      · rw [List.forall_mem_cons]
        exact ⟨by decide, Text.inNumber_of_mem_toDigits _⟩
      · exact Text.inNumber_of_mem_toDigits _
  | real x =>
    rw [Number.write]
    split
    · exact ⟨by decide, List.all_eq_true.mp (by decide)⟩
    · exact Decimal.numeral_write (List.all_eq_true.mp (by decide)) x

theorem nonBlank?_of_numeral {s : String} (h : Text.Numeral s) : Text.nonBlank? s = some s := by
  refine Text.nonBlank?_of_forall ?_ fun c hc => Text.isBlank_of_inNumber (h.inNumber c hc)
  rintro rfl
  exact h.ne_nil rfl

theorem nonBlank?_bracketed {first last : Char} (hfirst : Text.isBlank first = false)
    (hlast : Text.isBlank last = false) (l : List Char) :
    Text.nonBlank? (String.ofList (first :: l ++ [last]))
      = some (String.ofList (first :: l ++ [last])) := by
  have htrim : Text.trimChars (first :: l ++ [last]) = first :: l ++ [last] :=
    Text.trimChars_between (a := [first]) (b := [last]) (by simp [hfirst]) (by simp [hlast]) l
  refine Text.nonBlank?_eq_some_iff.mpr ⟨?_, ?_⟩
  · rw [Text.trim, String.toList_ofList, htrim]
  · intro hempty
    have hchars := congrArg String.toList hempty
    rw [String.toList_ofList] at hchars
    cases hchars

/-- The written form of a value that is no text has no blanks around it. -/
theorem nonBlank?_write {v : Json} (h : ∀ s, v ≠ .text s) :
    Text.nonBlank? v.write = some v.write := by
  cases v with
  | null => decide
  | bool b => cases b <;> decide
  | number n =>
    rw [write, chars, String.ofList_toList]
    exact nonBlank?_of_numeral (numeral_write n)
  | text s => exact absurd rfl (h s)
  | list items =>
    rw [write, chars]
    exact nonBlank?_bracketed (by decide) (by decide) _
  | object members =>
    rw [write, chars]
    exact nonBlank?_bracketed (by decide) (by decide) _

end Json

end Gatehouse
