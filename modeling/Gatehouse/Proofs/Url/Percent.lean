import Gatehouse.Proofs.Text.Utf8
import Gatehouse.Url.Percent

/-!
# What percent encoding keeps

Encoding works character by character, so it respects concatenation, leaves a text alone that holds
nothing to encode, and never shortens one. What it adds are percent signs and capital hexadecimal
digits, none of which is encoded in a path, so encoding a path twice is encoding it once.
-/

namespace Gatehouse.Percent

@[simp] theorem encode_nil (set : Char → Bool) : encode set [] = [] := rfl

@[simp] theorem encode_cons (set : Char → Bool) (c : Char) (l : List Char) :
    encode set (c :: l) = encodeChar set c ++ encode set l := rfl

@[simp] theorem encode_append (set : Char → Bool) (a b : List Char) :
    encode set (a ++ b) = encode set a ++ encode set b :=
  List.flatMap_append

theorem encodeChar_of_not {set : Char → Bool} {c : Char} (h : set c = false) :
    encodeChar set c = [c] := by
  simp [encodeChar, h]

theorem encode_eq_self {set : Char → Bool} {l : List Char} (h : ∀ c ∈ l, set c = false) :
    encode set l = l := by
  induction l with
  | nil => rfl
  | cons c rest ih =>
    rw [encode_cons, encodeChar_of_not (h c (by simp)), ih fun d hd => h d (by simp [hd])]
    rfl

theorem mem_encode_of_mem {set : Char → Bool} {c : Char} {l : List Char} (hc : c ∈ l)
    (h : set c = false) : c ∈ encode set l :=
  List.mem_flatMap.mpr ⟨c, hc, by simp [encodeChar_of_not h]⟩

/-! ### What encoding adds -/

/-- The percent sign and the capital hexadecimal digits. -/
def marks : List Char :=
  "%0123456789ABCDEF".toList

theorem hexCapital_mem_marks {n : Nat} (h : n < 16) : Text.hexCapital n ∈ marks := by
  revert n
  decide

theorem mem_marks_of_mem_encodeByte {c : Char} {b : UInt8} (h : c ∈ encodeByte b) :
    c ∈ marks := by
  have hb : b.toNat < 256 := b.toNat_lt
  simp only [encodeByte, List.mem_cons, List.not_mem_nil, or_false] at h
  rcases h with rfl | rfl | rfl
  · decide
  · exact hexCapital_mem_marks (by omega)
  · exact hexCapital_mem_marks (by omega)

/-- A character of an encoded text is one of the text that needs no encoding, or a mark. -/
theorem mem_encode {set : Char → Bool} {c : Char} {l : List Char} (h : c ∈ encode set l) :
    (c ∈ l ∧ set c = false) ∨ c ∈ marks := by
  obtain ⟨d, hd, hc⟩ := List.mem_flatMap.mp h
  by_cases hset : set d = true
  · rw [encodeChar, if_pos hset] at hc
    obtain ⟨b, -, hb⟩ := List.mem_flatMap.mp hc
    exact .inr (mem_marks_of_mem_encodeByte hb)
  · rw [Bool.not_eq_true] at hset
    rw [encodeChar_of_not hset, List.mem_singleton] at hc
    exact .inl ⟨hc ▸ hd, hc ▸ hset⟩

theorem inPath_of_mem_marks {c : Char} (h : c ∈ marks) : inPath c = false := by
  have hall : (marks.all fun c => !inPath c) = true := by decide
  simpa using List.all_eq_true.mp hall c h

theorem inPath_of_mem_encode {c : Char} {l : List Char} (h : c ∈ encode inPath l) :
    inPath c = false := by
  rcases mem_encode h with ⟨-, hc⟩ | hc
  · exact hc
  · exact inPath_of_mem_marks hc

/-! ### Where encoding starts -/

/-- What is encoded starts with a byte: the character itself if it is one, else one beyond ASCII. -/
theorem encodeChar_of_mem {set : Char → Bool} {c : Char} (h : set c = true) :
    ∃ b rest, encodeChar set c = encodeByte b ++ rest ∧ (b.toNat = c.toNat ∨ 0x80 ≤ b.toNat) := by
  obtain ⟨b, bytes, hbytes, hb⟩ := Utf8.encodeChar_eq_cons c
  rw [encodeChar, if_pos h, hbytes, List.flatMap_cons]
  exact ⟨b, _, rfl, hb⟩

/-- Any character but the percent sign that an encoded text starts with stands for itself. -/
theorem encode_eq_cons {set : Char → Bool} {c : Char} {l rest : List Char} (hc : c ≠ '%')
    (h : encode set l = c :: rest) : ∃ tail, l = c :: tail ∧ encode set tail = rest := by
  cases l with
  | nil => cases h
  | cons d tail =>
    rw [encode_cons] at h
    by_cases hset : set d = true
    · obtain ⟨b, more, hmore, -⟩ := encodeChar_of_mem hset
      rw [hmore] at h
      exact absurd (List.cons.inj h).1.symm hc
    · rw [encodeChar_of_not (Bool.not_eq_true _ ▸ hset)] at h
      obtain ⟨rfl, hrest⟩ := List.cons.inj h
      exact ⟨tail, rfl, hrest⟩

/-! ### Length -/

theorem length_encodeChar_pos (set : Char → Bool) (c : Char) : 0 < (encodeChar set c).length := by
  by_cases h : set c = true
  · obtain ⟨b, rest, hrest, -⟩ := encodeChar_of_mem h
    simp [hrest, encodeByte]
  · simp [encodeChar, h]

theorem length_encode_filter_le (set keep : Char → Bool) (l : List Char) :
    (encode set (l.filter keep)).length ≤ (encode set l).length := by
  induction l with
  | nil => simp
  | cons c rest ih =>
    rw [List.filter_cons]
    split
    · simpa using ih
    · simp only [encode_cons, List.length_append]
      omega

/-- Dropping a character shortens what the rest is encoded as. -/
theorem length_encode_filter_lt {set keep : Char → Bool} {c : Char} {l : List Char} (hc : c ∈ l)
    (hkeep : keep c = false) :
    (encode set (l.filter keep)).length < (encode set l).length := by
  obtain ⟨a, b, rfl⟩ := List.append_of_mem hc
  have ha := length_encode_filter_le set keep a
  have hb := length_encode_filter_le set keep b
  have hpos := length_encodeChar_pos set c
  rw [List.filter_append, List.filter_cons_of_neg (by simp [hkeep])]
  simp only [encode_append, encode_cons, List.length_append]
  omega

end Gatehouse.Percent
