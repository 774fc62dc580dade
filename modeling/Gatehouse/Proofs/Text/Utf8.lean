import Gatehouse.Proofs.Text.Items
import Gatehouse.Text.Utf8

/-!
# Decoding undoes encoding

The bytes of a character are read back as this character, whatever follows them, so the bytes of a
text are read back as the text. There are four cases, by the number of bytes; in each of them the
first byte promises the bytes that follow, and the ranges of the second byte are exactly what keeps
a character from being written longer than need be.
-/

namespace Gatehouse

namespace Utf8

theorem toNat_ofNat_of_lt {n : Nat} (h : n < 256) : (UInt8.ofNat n).toNat = n := by
  rw [UInt8.toNat_ofNat', Nat.mod_eq_of_lt h]

theorem toNat_lt_max (c : Char) : c.toNat < 0x110000 := by
  rcases c.valid with h | h
  · exact Nat.lt_trans h (by decide)
  · exact h.2

theorem toNat_not_surrogate (c : Char) : c.toNat < 0xD800 ∨ 0xDFFF < c.toNat := by
  rcases c.valid with h | h
  · exact .inl h
  · exact .inr h.1

/-! ### The first byte -/

/-- The first byte of a character is the character itself in ASCII, and beyond ASCII otherwise. -/
theorem encodeChar_eq_cons (c : Char) :
    ∃ b rest, encodeChar c = b :: rest ∧ (b.toNat = c.toNat ∨ 0x80 ≤ b.toNat) := by
  have hmax := toNat_lt_max c
  simp only [encodeChar]
  split
  · exact ⟨_, _, rfl, .inl (toNat_ofNat_of_lt (by omega))⟩
  · split
    · exact ⟨_, _, rfl, .inr (by rw [toNat_ofNat_of_lt (by omega)]; omega)⟩
    · split
      · exact ⟨_, _, rfl, .inr (by rw [toNat_ofNat_of_lt (by omega)]; omega)⟩
      · exact ⟨_, _, rfl, .inr (by rw [toNat_ofNat_of_lt (by omega)]; omega)⟩

theorem lead?_one {b : UInt8} (h : b.toNat < 0x80) : lead? b = some ⟨0, 0, 0, b.toNat⟩ := by
  simp [lead?, UInt8.lt_iff_toNat_lt, h]

theorem lead?_two {b : UInt8} (hlow : 0xC2 ≤ b.toNat) (hhigh : b.toNat ≤ 0xDF) :
    lead? b = some ⟨1, 0x80, 0xBF, b.toNat - 0xC0⟩ := by
  have hascii : ¬ b.toNat < 128 := by omega
  simp [lead?, UInt8.lt_iff_toNat_lt, UInt8.le_iff_toNat_le, hascii, hlow, hhigh]

theorem lead?_three {b : UInt8} (hlow : 0xE0 ≤ b.toNat) (hhigh : b.toNat ≤ 0xEF) :
    lead? b = some ⟨2, if b.toNat = 0xE0 then 0xA0 else 0x80,
      if b.toNat = 0xED then 0x9F else 0xBF, b.toNat - 0xE0⟩ := by
  have hascii : ¬ b.toNat < 128 := by omega
  have htwo : ¬ b.toNat ≤ 223 := by omega
  simp only [lead?, UInt8.lt_iff_toNat_lt, UInt8.le_iff_toNat_le, ← UInt8.toNat_inj, beq_iff_eq,
    Bool.and_eq_true, decide_eq_true_eq, UInt8.reduceToNat]
  grind

theorem lead?_four {b : UInt8} (hlow : 0xF0 ≤ b.toNat) (hhigh : b.toNat ≤ 0xF4) :
    lead? b = some ⟨3, if b.toNat = 0xF0 then 0x90 else 0x80,
      if b.toNat = 0xF4 then 0x8F else 0xBF, b.toNat - 0xF0⟩ := by
  simp only [lead?, UInt8.lt_iff_toNat_lt, UInt8.le_iff_toNat_le, ← UInt8.toNat_inj, beq_iff_eq,
    Bool.and_eq_true, decide_eq_true_eq, UInt8.reduceToNat]
  grind

/-! ### The bytes that follow -/

theorem follow_tail {n m bits : Nat} {low high : UInt8} {rest : Bytes}
    (hlow : low.toNat ≤ 0x80 + m % 64) (hhigh : 0x80 + m % 64 ≤ high.toNat) :
    follow (n + 1) low high bits (UInt8.ofNat (0x80 + m % 64) :: rest)
      = follow n 0x80 0xBF (bits * 64 + m % 64) rest := by
  have hb : (UInt8.ofNat (0x80 + m % 64)).toNat = 0x80 + m % 64 := toNat_ofNat_of_lt (by omega)
  have hrange : (low ≤ UInt8.ofNat (0x80 + m % 64) && UInt8.ofNat (0x80 + m % 64) ≤ high) = true := by
    simp only [UInt8.le_iff_toNat_le, hb, Bool.and_eq_true, decide_eq_true_eq]
    exact ⟨hlow, hhigh⟩
  rw [follow, if_pos hrange, hb, Nat.add_sub_cancel_left]

theorem follow_last (low high : UInt8) {bits : Nat} {c : Char} (h : bits = c.toNat) (rest : Bytes) :
    follow 0 low high bits rest = (some c, rest) := by
  rw [follow, h, Char.ofNat_toNat]

theorem characters_cons {b low high : UInt8} {n bits : Nat} {c : Char} {rest rest' : Bytes}
    (hlead : lead? b = some ⟨n, low, high, bits⟩)
    (hfollow : follow n low high bits rest = (some c, rest')) :
    characters (b :: rest) = some c :: characters rest' := by
  rw [characters, hlead]
  simp [hfollow]

/-- The bytes of a character are read back as the character, whatever follows them. -/
theorem characters_encodeChar_append (c : Char) (rest : Bytes) :
    characters (encodeChar c ++ rest) = some c :: characters rest := by
  have hmax := toNat_lt_max c
  have hsurrogate := toNat_not_surrogate c
  simp only [encodeChar, show Nat.pow 64 0 = 1 from rfl, show Nat.pow 64 1 = 64 from rfl,
    show Nat.pow 64 2 = 4096 from rfl, Nat.div_one]
  split
  · have hlead : (UInt8.ofNat c.toNat).toNat = c.toNat := toNat_ofNat_of_lt (by omega)
    exact characters_cons (lead?_one (by omega)) (follow_last _ _ hlead rest)
  · split
    · have hlead : (UInt8.ofNat (0xC0 + c.toNat / 64)).toNat = 0xC0 + c.toNat / 64 :=
        toNat_ofNat_of_lt (by omega)
      refine characters_cons (lead?_two (by omega) (by omega)) ?_
      refine (follow_tail ?_ ?_).trans (follow_last _ _ ?_ rest)
      · simp
      · simp only [UInt8.reduceToNat]
        omega
      · omega
    · split
      · have hlead : (UInt8.ofNat (0xE0 + c.toNat / 0x1000)).toNat = 0xE0 + c.toNat / 0x1000 :=
          toNat_ofNat_of_lt (by omega)
        refine characters_cons (lead?_three (by omega) (by omega)) ?_
        refine (follow_tail ?_ ?_).trans ((follow_tail ?_ ?_).trans (follow_last _ _ ?_ rest))
        · split <;> simp only [UInt8.reduceToNat] <;> omega
        · split <;> simp only [UInt8.reduceToNat] <;> omega
        · simp
        · simp only [UInt8.reduceToNat]
          omega
        · omega
      · have hlead : (UInt8.ofNat (0xF0 + c.toNat / 0x40000)).toNat = 0xF0 + c.toNat / 0x40000 :=
          toNat_ofNat_of_lt (by omega)
        refine characters_cons (lead?_four (by omega) (by omega)) ?_
        refine (follow_tail ?_ ?_).trans
          ((follow_tail ?_ ?_).trans ((follow_tail ?_ ?_).trans (follow_last _ _ ?_ rest)))
        · split <;> simp only [UInt8.reduceToNat] <;> omega
        · split <;> simp only [UInt8.reduceToNat] <;> omega
        · simp
        · simp only [UInt8.reduceToNat]
          omega
        · simp
        · simp only [UInt8.reduceToNat]
          omega
        · omega

/-! ### Texts -/

theorem characters_encodeChars (l : List Char) : characters (encodeChars l) = l.map some := by
  induction l with
  | nil => rw [encodeChars, List.flatMap_nil, characters, List.map_nil]
  | cons c rest ih =>
    rw [encodeChars, List.flatMap_cons, characters_encodeChar_append, List.map_cons]
    exact congrArg _ ih

theorem decode?_encode (s : String) : decode? (encode s) = some s := by
  have hall : (s.toList.map some).mapM id = some s.toList := mapM_map_eq_some fun _ _ => rfl
  rw [decode?, encode, characters_encodeChars, hall, Option.map_some, String.ofList_toList]

theorem characters_of_decode? {bytes : Bytes} {s : String} (h : decode? bytes = some s) :
    characters bytes = s.toList.map some := by
  obtain ⟨l, hl, rfl⟩ := Option.map_eq_some_iff.mp h
  have hkept (o : Option Char) (c : Char) (hc : id o = some c) : True ∧ some c = o :=
    ⟨trivial, hc.symm⟩
  rw [String.toList_ofList]
  exact (of_mapM_eq_some hkept hl).2.symm

/-! ### ASCII -/

theorem encodeChars_of_ascii {l : List Char} (h : ∀ c ∈ l, c.toNat < 0x80) :
    encodeChars l = l.map fun c => UInt8.ofNat c.toNat := by
  induction l with
  | nil => rfl
  | cons c rest ih =>
    have hrest := ih fun d hd => h d (List.mem_cons_of_mem _ hd)
    have hc : c.toNat < 0x80 := h c List.mem_cons_self
    rw [encodeChars] at hrest ⊢
    rw [List.flatMap_cons, hrest, encodeChar]
    simp [hc]

theorem toNat_ofNat_byte (b : UInt8) : (Char.ofNat b.toNat).toNat = b.toNat := by
  have hb := b.toNat_lt
  have hvalid : b.toNat.isValidChar := .inl (by omega)
  rw [Char.ofNat, dif_pos hvalid]
  rfl

theorem decode?_of_ascii {bytes : Bytes} (h : ∀ b ∈ bytes, b.toNat < 0x80) :
    decode? bytes = some (String.ofList (bytes.map fun b => Char.ofNat b.toNat)) := by
  have hencode : encode (String.ofList (bytes.map fun b => Char.ofNat b.toNat)) = bytes := by
    rw [encode, String.toList_ofList, encodeChars_of_ascii, List.map_map]
    · simp [Function.comp_def, toNat_ofNat_byte]
    · intro c hc
      obtain ⟨b, hb, rfl⟩ := List.mem_map.mp hc
      rw [toNat_ofNat_byte]
      exact h b hb
  have hdecode := decode?_encode (String.ofList (bytes.map fun b => Char.ofNat b.toNat))
  rwa [hencode] at hdecode

end Utf8

end Gatehouse
