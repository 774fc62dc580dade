import Gatehouse.Http.Header
import Gatehouse.Proofs.Text.Blank
import Gatehouse.Proofs.Text.Utf8

/-!
# Values that are read

A text of visible ASCII, spaces and tabs is sent as one byte a character and read as it was sent. Of
a value with any other byte nothing is read, so a text that was read is always of this kind, and what
the relay makes of it may be sent on.
-/

namespace Gatehouse

namespace Header

/-- A text of visible ASCII, spaces and tabs. -/
def Legible (s : String) : Prop :=
  ∀ c ∈ s.toList, c.toNat = 0x09 ∨ 0x20 ≤ c.toNat ∧ c.toNat ≤ 0x7E

instance (s : String) : Decidable (Legible s) :=
  List.decidableBAll (fun c : Char => c.toNat = 0x09 ∨ 0x20 ≤ c.toNat ∧ c.toNat ≤ 0x7E) s.toList

/-! ### Bytes -/

theorem isReadable_iff (b : UInt8) :
    isReadable b = true ↔ b.toNat = 0x09 ∨ 0x20 ≤ b.toNat ∧ b.toNat ≤ 0x7E := by
  rw [isReadable, Bool.or_eq_true, beq_iff_eq, Bool.and_eq_true, decide_eq_true_eq,
    decide_eq_true_eq, ← UInt8.toNat_inj, UInt8.le_iff_toNat_le, UInt8.le_iff_toNat_le]
  rfl

theorem isLegal_of_isReadable {b : UInt8} (h : isReadable b = true) : isLegal b = true := by
  have hb := (isReadable_iff b).mp h
  rw [isLegal, Bool.or_eq_true, beq_iff_eq, Bool.and_eq_true, decide_eq_true_eq, bne_iff_ne, ne_eq,
    ← UInt8.toNat_inj, ← UInt8.toNat_inj, UInt8.le_iff_toNat_le]
  simp only [UInt8.reduceToNat]
  omega

/-! ### Texts -/

namespace Legible

variable {s : String}

theorem encode_eq (h : Legible s) :
    Utf8.encode s = s.toList.map fun c => UInt8.ofNat c.toNat := by
  apply Utf8.encodeChars_of_ascii
  intro c hc
  have hlegible := h c hc
  omega

theorem all_isReadable (h : Legible s) : (Utf8.encode s).all isReadable = true := by
  rw [h.encode_eq, List.all_map, List.all_eq_true]
  intro c hc
  have hlegible := h c hc
  have hbyte : (UInt8.ofNat c.toNat).toNat = c.toNat := Utf8.toNat_ofNat_of_lt (by omega)
  rw [Function.comp_apply, isReadable_iff, hbyte]
  exact hlegible

/-- A legible text is read as it was sent. -/
theorem text?_encode (h : Legible s) : text? (Utf8.encode s) = some s := by
  have hchars : (Utf8.encode s).map (fun b => Char.ofNat b.toNat) = s.toList := by
    rw [h.encode_eq, List.map_map]
    refine (List.map_congr_left ?_).trans (List.map_id s.toList)
    intro c hc
    have hlegible := h c hc
    have hbyte : (UInt8.ofNat c.toNat).toNat = c.toNat := Utf8.toNat_ofNat_of_lt (by omega)
    rw [Function.comp_apply, hbyte, Char.ofNat_toNat, id]
  rw [text?, if_pos h.all_isReadable, hchars, String.ofList_toList]

theorem value?_eq (h : Legible s) : value? s = some (Utf8.encode s) := by
  have hlegal : (Utf8.encode s).all isLegal = true := by
    rw [List.all_eq_true]
    intro b hb
    exact isLegal_of_isReadable (List.all_eq_true.mp h.all_isReadable b hb)
  rw [value?, if_pos hlegal]

theorem trim (h : Legible s) : Legible (Text.trim s) := by
  intro c hc
  rw [Text.trim, String.toList_ofList, Text.trimChars] at hc
  exact h c ((List.dropWhile_sublist _).subset (Text.mem_of_mem_dropEnd hc))

end Legible

theorem legible_of_text? {value : Bytes} {s : String} (h : text? value = some s) : Legible s := by
  rw [text?] at h
  split at h
  · next hall =>
    rw [← Option.some.inj h]
    intro c hc
    rw [String.toList_ofList] at hc
    obtain ⟨b, hb, rfl⟩ := List.mem_map.mp hc
    rw [Utf8.toNat_ofNat_byte, ← isReadable_iff]
    exact List.all_eq_true.mp hall b hb
  · cases h

theorem legible_of_all_isReadable {s : String} (h : (Utf8.encode s).all isReadable = true) :
    Legible s := by
  intro c hc
  obtain ⟨b, rest, hchar, hb⟩ := Utf8.encodeChar_eq_cons c
  have hmem : b ∈ Utf8.encode s := by
    refine List.mem_flatMap.mpr ⟨c, hc, ?_⟩
    rw [hchar]
    exact List.mem_cons_self
  have hreadable := (isReadable_iff b).mp (List.all_eq_true.mp h b hmem)
  omega

/-- A text that is sent is read if it is legible, and otherwise lost. -/
theorem text?_encode (s : String) :
    text? (Utf8.encode s) = (some s).filter fun t => decide (Legible t) := by
  by_cases hs : Legible s
  · rw [hs.text?_encode, Option.filter_some, if_pos (decide_eq_true hs)]
  · rw [text?, if_neg (mt legible_of_all_isReadable hs), Option.filter_some,
      if_neg (by simpa using hs)]

end Header

namespace Headers

variable {name other s : String} {h : Headers}

theorem legible_of_trimmed? (hs : h.trimmed? name = some s) : Header.Legible s := by
  obtain ⟨raw, hraw, hblank⟩ := Option.bind_eq_some_iff.mp hs
  obtain ⟨value, -, hvalue⟩ := Option.bind_eq_some_iff.mp hraw
  rw [← (Text.nonBlank?_eq_some_iff.mp hblank).1]
  exact (Header.legible_of_text? hvalue).trim

theorem first?_cons (name n : String) (v : Bytes) (h : Headers) :
    first? name ((n, v) :: h) = if n = name then some v else first? name h := rfl

/-- A field that is put in leaves those of other names in sight. -/
theorem first?_set_of_ne (hne : other ≠ name) (value : Bytes) (h : Headers) :
    first? other (set name value h) = first? other h := by
  have hlast : first? other [(name, value)] = none := by
    rw [first?_cons, if_neg hne.symm, first?_nil]
  rw [set, first?_append, hlast, Option.or_none]
  induction h with
  | nil => rfl
  | cons f h ih =>
    obtain ⟨n, v⟩ := f
    by_cases hn : n = name
    · subst hn
      rw [List.filter_cons_of_neg (by simp), first?_cons, if_neg hne.symm, ih]
    · rw [List.filter_cons_of_pos (by simpa using hn), first?_cons, first?_cons, ih]

theorem text?_set_self (name : String) (value : Bytes) (h : Headers) :
    text? name (set name value h) = Header.text? value := by
  rw [text?, first?_set, Option.bind_some]

theorem text?_set_of_ne (hne : other ≠ name) (value : Bytes) (h : Headers) :
    text? other (set name value h) = text? other h := by
  rw [text?, first?_set_of_ne hne, text?]

/-! ### Fields of one name -/

def values (name : String) (h : Headers) : List Bytes :=
  (h.filter fun f => f.1 == name).map Prod.snd

theorem values_set_self (name : String) (value : Bytes) (h : Headers) :
    values name (set name value h) = [value] := by
  have hnone : (h.filter fun f => f.1 != name).filter (fun f => f.1 == name) = [] := by
    rw [List.filter_eq_nil_iff]
    intro f hf
    simpa using (List.mem_filter.mp hf).2
  rw [values, set, List.filter_append, hnone]
  simp

theorem values_set_of_ne (hne : other ≠ name) (value : Bytes) (h : Headers) :
    values other (set name value h) = values other h := by
  have hsame : (h.filter fun f => f.1 != name).filter (fun f => f.1 == other)
      = h.filter fun f => f.1 == other := by
    rw [List.filter_filter]
    refine List.filter_congr fun f _ => ?_
    by_cases hf : f.1 = other
    · simp [hf, hne]
    · simp [hf]
  rw [values, set, List.filter_append, hsame]
  simp [values, hne.symm]

end Headers

end Gatehouse
