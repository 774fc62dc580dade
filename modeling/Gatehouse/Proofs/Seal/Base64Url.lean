import Gatehouse.Proofs.Text.Utf8
import Gatehouse.Seal.Base64Url

/-!
# Base64 has one written form

Encoding is two steps, six-bit values and then their letters, and decoding takes back one after the
other. A short last group leaves bits over, which are zero, as the decoder insists; therefore encoding
takes back decoding as well, and no two texts stand for the same bytes. The letters are no dots and
no blanks, so an encoded part of a token is found whole.
-/

namespace Gatehouse.Base64Url

def values : Bytes → List Nat
  | [] => []
  | [a] => [a.toNat / 4, a.toNat % 4 * 16]
  | [a, b] => [a.toNat / 4, a.toNat % 4 * 16 + b.toNat / 16, b.toNat % 16 * 4]
  | a :: b :: c :: rest =>
    a.toNat / 4 :: (a.toNat % 4 * 16 + b.toNat / 16) :: (b.toNat % 16 * 4 + c.toNat / 64) ::
      c.toNat % 64 :: values rest

theorem encodeChars_eq_map (bytes : Bytes) : encodeChars bytes = (values bytes).map letter := by
  induction bytes using values.induct with
  | case1 => rfl
  | case2 a => rfl
  | case3 a b => rfl
  | case4 a b c rest ih => rw [encodeChars, values, ih]; rfl

theorem lt_of_mem_values {bytes : Bytes} {n : Nat} (h : n ∈ values bytes) : n < 64 := by
  induction bytes using values.induct with
  | case1 => cases h
  | case2 a =>
    have ha := a.toNat_lt
    simp only [values, List.mem_cons, List.not_mem_nil, or_false] at h
    omega
  | case3 a b =>
    have ha := a.toNat_lt
    have hb := b.toNat_lt
    simp only [values, List.mem_cons, List.not_mem_nil, or_false] at h
    omega
  | case4 a b c rest ih =>
    have ha := a.toNat_lt
    have hb := b.toNat_lt
    have hc := c.toNat_lt
    simp only [values, List.mem_cons] at h
    rcases h with h | h | h | h | h
    · omega
    · omega
    · omega
    · omega
    · exact ih h

theorem ofNat_eq {a : UInt8} {n : Nat} (h : n = a.toNat) : UInt8.ofNat n = a := by
  rw [h, UInt8.ofNat_toNat]

theorem ofValues?_values (bytes : Bytes) : ofValues? (values bytes) = some bytes := by
  induction bytes using values.induct with
  | case1 => rfl
  | case2 a =>
    have ha : UInt8.ofNat (a.toNat / 4 * 4 + a.toNat % 4 * 16 / 16) = a := ofNat_eq (by omega)
    have hspare : a.toNat % 4 * 16 % 16 = 0 := by omega
    rw [values, ofValues?, if_pos hspare, ha]
  | case3 a b =>
    have hbound := b.toNat_lt
    have ha : UInt8.ofNat (a.toNat / 4 * 4 + (a.toNat % 4 * 16 + b.toNat / 16) / 16) = a :=
      ofNat_eq (by omega)
    have hb : UInt8.ofNat ((a.toNat % 4 * 16 + b.toNat / 16) % 16 * 16 + b.toNat % 16 * 4 / 4) = b :=
      ofNat_eq (by omega)
    have hspare : b.toNat % 16 * 4 % 4 = 0 := by omega
    rw [values, ofValues?, if_pos hspare, ha, hb]
  | case4 a b c rest ih =>
    have hbound := b.toNat_lt
    have hbound' := c.toNat_lt
    have ha : UInt8.ofNat (a.toNat / 4 * 4 + (a.toNat % 4 * 16 + b.toNat / 16) / 16) = a :=
      ofNat_eq (by omega)
    have hb : UInt8.ofNat ((a.toNat % 4 * 16 + b.toNat / 16) % 16 * 16
        + (b.toNat % 16 * 4 + c.toNat / 64) / 4) = b := ofNat_eq (by omega)
    have hc : UInt8.ofNat ((b.toNat % 16 * 4 + c.toNat / 64) % 4 * 64 + c.toNat % 64) = c :=
      ofNat_eq (by omega)
    rw [values, ofValues?, ih, Option.map_some, ha, hb, hc]

theorem value?_letter {n : Nat} (h : n < 64) : value? (letter n) = some n := by
  revert n
  decide

theorem decode?_encode (bytes : Bytes) : decode? (encode bytes) = some bytes := by
  have hvalues : ((values bytes).map letter).mapM value? = some (values bytes) :=
    mapM_map_eq_some fun n hn => value?_letter (lt_of_mem_values hn)
  rw [decode?, encode, String.toList_ofList, encodeChars_eq_map, hvalues, Option.bind_some,
    ofValues?_values]

theorem encode_ne_empty {bytes : Bytes} (h : bytes ≠ []) : encode bytes ≠ "" := by
  intro hempty
  have hdecode := decode?_encode bytes
  rw [hempty] at hdecode
  exact h (Option.some.inj hdecode).symm

theorem mem_encode {bytes : Bytes} {c : Char} (h : c ∈ (encode bytes).toList) :
    ∃ n < 64, c = letter n := by
  rw [encode, String.toList_ofList, encodeChars_eq_map] at h
  obtain ⟨n, hn, rfl⟩ := List.mem_map.mp h
  exact ⟨n, lt_of_mem_values hn, rfl⟩

/-! ### Encoding undoes decoding -/

/-- The letter of a value, found in one of the five ranges of the alphabet. -/
theorem of_value? {c : Char} {n : Nat} (h : value? c = some n) : n < 64 ∧ letter n = c := by
  have hbounds {a b : Char} (hin : a ≤ c ∧ c ≤ b) : a.toNat ≤ c.toNat ∧ c.toNat ≤ b.toNat := hin
  have hletter {m : Nat} (hm : m = c.toNat) : Char.ofNat m = c := by rw [hm, Char.ofNat_toNat]
  rw [value?] at h
  split at h
  · next hin =>
    have hcode : 65 ≤ c.toNat ∧ c.toNat ≤ 90 := hbounds hin
    have hn : c.toNat - 65 = n := Option.some.inj h
    refine ⟨by omega, ?_⟩
    rw [letter, if_pos (by omega)]
    exact hletter (show n + 65 = c.toNat by omega)
  · split at h
    · next hin =>
      have hcode : 97 ≤ c.toNat ∧ c.toNat ≤ 122 := hbounds hin
      have hn : c.toNat - 97 + 26 = n := Option.some.inj h
      refine ⟨by omega, ?_⟩
      rw [letter, if_neg (by omega), if_pos (by omega)]
      exact hletter (show n - 26 + 97 = c.toNat by omega)
    · split at h
      · next hin =>
        have hcode : 48 ≤ c.toNat ∧ c.toNat ≤ 57 := hbounds hin
        have hn : c.toNat - 48 + 52 = n := Option.some.inj h
        refine ⟨by omega, ?_⟩
        rw [letter, if_neg (by omega), if_neg (by omega), if_pos (by omega)]
        exact hletter (show n - 52 + 48 = c.toNat by omega)
      · split at h
        · next hdash =>
          rw [← Option.some.inj h, hdash]
          decide
        · split at h
          · next hline =>
            rw [← Option.some.inj h, hline]
            decide
          · cases h

/-- Each group of values is the one that its bytes are written as; the bits over are zero. -/
theorem values_of_ofValues? {ns : List Nat} {bytes : Bytes} (hns : ∀ n ∈ ns, n < 64)
    (h : ofValues? ns = some bytes) : values bytes = ns := by
  have hbyte {n : Nat} (hn : n < 256) : (UInt8.ofNat n).toNat = n := Utf8.toNat_ofNat_of_lt hn
  fun_induction ofValues? ns generalizing bytes with
  | case1 =>
    rw [← Option.some.inj h]
    rfl
  | case2 a => cases h
  | case3 a b hspare =>
    simp only [List.forall_mem_cons] at hns
    rw [← Option.some.inj h, values, hbyte (by omega)]
    simp only [List.cons.injEq, and_true]
    omega
  | case4 a b hspare => cases h
  | case5 a b c hspare =>
    simp only [List.forall_mem_cons] at hns
    rw [← Option.some.inj h, values, hbyte (by omega), hbyte (by omega)]
    simp only [List.cons.injEq, and_true]
    omega
  | case6 a b c hspare => cases h
  | case7 a b c d rest ih =>
    obtain ⟨tail, htail, hbytes⟩ := Option.map_eq_some_iff.mp h
    simp only [List.forall_mem_cons] at hns
    obtain ⟨ha, hb, hc, hd, hrest⟩ := hns
    rw [← hbytes, values, ih hrest htail, hbyte (by omega), hbyte (by omega), hbyte (by omega)]
    simp only [List.cons.injEq, and_true]
    omega

/-- A text that is decoded is the one form in which its bytes are written. -/
theorem encode_of_decode? {s : String} {bytes : Bytes} (h : decode? s = some bytes) :
    encode bytes = s := by
  obtain ⟨ns, hvalues, hbytes⟩ := Option.bind_eq_some_iff.mp h
  obtain ⟨hlt, hletters⟩ := of_mapM_eq_some (fun c n hn => of_value? hn) hvalues
  rw [encode, encodeChars_eq_map, values_of_ofValues? hlt hbytes, hletters, String.ofList_toList]

end Gatehouse.Base64Url
