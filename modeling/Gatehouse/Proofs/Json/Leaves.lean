import Gatehouse.Json.Reading
import Gatehouse.Json.Writing
import Gatehouse.Proofs.Text.Digits

/-!
# Strings and whole numbers of JSON

What is written for a string or a whole number is read back, whatever follows it. A string comes back
element by element: a character that was escaped with four digits as the code they stand for, every
other one as itself.
-/

namespace Gatehouse.Json

/-! ### Strings -/

def unit (c : Char) : Unit16 :=
  if c.toNat < 0x20 ∧ c ∉ ['\x08', '\t', '\n', '\x0c', '\r'] then .code c.toNat else .char c

def units (s : String) : List Unit16 :=
  s.toList.map unit

theorem number?_hexChar {n : Nat} (h : n < 0x20) :
    Text.number? 16 Text.hexDigit? ['0', '0', Text.hexChar (n / 16), Text.hexChar (n % 16)]
      = some n := by
  revert n
  decide

theorem string?_escape (c : Char) (acc : List Unit16) (rest : List Char) :
    string? acc (escape c ++ rest) = string? (unit c :: acc) rest := by
  by_cases hshort : c ∈ ['"', '\\', '\x08', '\t', '\n', '\x0c', '\r']
  · simp only [List.mem_cons, List.not_mem_nil, or_false] at hshort
    rcases hshort with rfl | rfl | rfl | rfl | rfl | rfl | rfl
    all_goals simp [escape, string?, shortEscape?, unit]
  · simp only [List.mem_cons, List.not_mem_nil, or_false, not_or] at hshort
    obtain ⟨hquote, hbackslash, hb, ht, hn, hf, hr⟩ := hshort
    rw [escape, if_neg hquote, if_neg hbackslash, if_neg hb, if_neg ht, if_neg hn, if_neg hf,
      if_neg hr]
    by_cases hlow : c.toNat < 0x20
    · have hunit : unit c = .code c.toNat := by simp [unit, hlow, hb, ht, hn, hf, hr]
      rw [if_pos hlow, hunit]
      simp only [List.cons_append, List.nil_append, string?, number?_hexChar hlow]
    · have hunit : unit c = .char c := by simp [unit, hlow]
      rw [if_neg hlow, hunit, List.singleton_append, string?, if_neg hlow]
      all_goals simp_all

theorem string?_flatMap_escape (l : List Char) (acc : List Unit16) (rest : List Char) :
    string? acc (l.flatMap escape ++ '"' :: rest) = some (acc.reverse ++ l.map unit, rest) := by
  induction l generalizing acc with
  | nil => simp [string?]
  | cons c l ih =>
    rw [List.flatMap_cons, List.append_assoc, string?_escape, ih]
    simp

theorem string?_quote (s : String) (rest : List Char) :
    string? [] (s.toList.flatMap escape ++ '"' :: rest) = some (units s, rest) :=
  string?_flatMap_escape s.toList [] rest

theorem chars?_code {n : Nat} (h : n < 0xD800) (l : List Unit16) :
    chars? (.code n :: l) = (chars? l).map (Char.ofNat n :: ·) := by
  have hhigh : ¬(0xD800 ≤ n ∧ n < 0xE000) := by omega
  cases l with
  | nil => simp [chars?, hhigh]
  | cons u l =>
    cases u with
    | char c => simp only [chars?, if_neg hhigh]
    | code m =>
      rw [chars?, if_neg (by omega), if_neg (by omega)]

theorem chars?_map_unit (l : List Char) : chars? (l.map unit) = some l := by
  induction l with
  | nil => simp [chars?]
  | cons c l ih =>
    rw [List.map_cons, unit]
    split
    · next hlow =>
      rw [chars?_code (by omega), ih, Option.map_some, Char.ofNat_toNat]
    · rw [chars?, ih, Option.map_some]

@[simp] theorem unitsText?_units (s : String) : unitsText? (units s) = some s := by
  rw [unitsText?, units, chars?_map_unit, Option.map_some, String.ofList_toList]

/-! ### Whole numbers -/

def Numeral.ofInt (n : Int) : Numeral :=
  ⟨decide (n < 0), Nat.toDigits 10 n.natAbs, none, none⟩

/-- What can follow a number: nothing, or a character that would not lengthen it. -/
def IsEnd (rest : List Char) : Prop :=
  ∀ c, rest.head? = some c → c.isDigit = false ∧ c ∉ ['.', 'e', 'E']

theorem toList_toString (n : Int) :
    (toString n).toList
      = if n < 0 then '-' :: Nat.toDigits 10 n.natAbs else Nat.toDigits 10 n.natAbs := by
  rw [Int.toString_eq_repr, Int.repr_eq_if]
  by_cases h : n < 0
  · rw [if_neg (by omega), if_pos h, String.toList_append, Nat.toList_repr,
      show (-n).toNat = n.natAbs by omega]
    rfl
  · rw [if_pos (by omega), if_neg h, Nat.toList_repr, show n.toNat = n.natAbs by omega]

theorem digits_toDigits {rest : List Char} (hrest : IsEnd rest) (n : Nat) :
    digits (Nat.toDigits 10 n ++ rest) = (Nat.toDigits 10 n, rest) := by
  have hdigits : ∀ c ∈ Nat.toDigits 10 n, c.isDigit = true := fun c => Text.isDigit_of_mem_toDigits
  rw [digits, List.takeWhile_append_of_pos hdigits, List.dropWhile_append_of_pos hdigits]
  cases rest with
  | nil => simp
  | cons c rest =>
    have hc := (hrest c rfl).1
    rw [List.takeWhile_cons_of_neg (by simp [hc]), List.dropWhile_cons_of_neg (by simp [hc]),
      List.append_nil]

theorem fraction?_of_isEnd {rest : List Char} (h : IsEnd rest) :
    fraction? rest = some (none, rest) := by
  rw [fraction?.eq_def]
  split
  · exact absurd (by simp) (h '.' rfl).2
  · rfl

theorem exponent?_of_isEnd {rest : List Char} (h : IsEnd rest) :
    exponent? rest = some (none, rest) := by
  rw [exponent?.eq_def]
  split
  · exact absurd (by simp) (h 'e' rfl).2
  · exact absurd (by simp) (h 'E' rfl).2
  · rfl

theorem not_leading_zero (n : Nat) :
    ¬(Nat.toDigits 10 n = [] ∨
      ((Nat.toDigits 10 n).head? = some '0' ∧ (Nat.toDigits 10 n).length ≠ 1)) := by
  rintro (hnil | ⟨hzero, hlength⟩)
  · exact Nat.toDigits_ne_nil hnil
  · rcases Nat.eq_zero_or_pos n with rfl | hpos
    · exact hlength rfl
    · exact Text.head?_toDigits_ne_zero hpos hzero

theorem numeral?_toString (n : Int) {rest : List Char} (h : IsEnd rest) :
    numeral? ((toString n).toList ++ rest) = some (.ofInt n, rest) := by
  have hdigits := digits_toDigits h n.natAbs
  by_cases hneg : n < 0
  · rw [toList_toString, if_pos hneg, List.cons_append, numeral?]
    simp only [hdigits, if_neg (not_leading_zero n.natAbs), fraction?_of_isEnd h,
      exponent?_of_isEnd h, Numeral.ofInt, hneg, decide_true]
  · rw [toList_toString, if_neg hneg, numeral?.eq_def]
    have hhead : ∀ tail, Nat.toDigits 10 n.natAbs ++ rest ≠ '-' :: tail := by
      intro tail heq
      obtain ⟨c, l, hcons, hc⟩ := Text.toDigits_starts n.natAbs
      rw [hcons, List.cons_append] at heq
      rw [(List.cons.inj heq).1] at hc
      exact absurd hc (by decide)
    split
    · next tail heq => exact absurd heq (hhead tail)
    · simp only [hdigits, if_neg (not_leading_zero n.natAbs), fraction?_of_isEnd h,
        exponent?_of_isEnd h, Numeral.ofInt, hneg, decide_false]

/-- The numeral of a whole number stands for it, as long as it fits 64 bits, signed or not. -/
theorem number?_ofInt {n : Int} (hlow : -0x8000000000000000 ≤ n) (hhigh : n ≤ maxUnsigned) :
    (Numeral.ofInt n).number? = some (.integer n) := by
  rw [Numeral.number?, Numeral.ofInt]
  simp only [Text.decimal?_toDigits]
  by_cases hneg : n < 0
  · rw [if_pos (by simpa using hneg), if_pos (by omega)]
    congr 2
    omega
  · rw [if_neg (by simpa using hneg), if_pos (by omega)]
    congr 2
    omega

end Gatehouse.Json
