import Gatehouse.Proofs.Url.Below

/-!
# How a scheme is spelt

The scheme of a URL is what stands before its first colon, with small letters, once the text is rid
of blanks, control characters and line ends. A start that has none of these is kept as it stands, so
there the text itself tells the scheme.
-/

namespace Gatehouse.Url

/-! ### Before the colon -/

theorem isAlpha_of_letter {c : Char}
    (h : 65 ≤ c.toNat ∧ c.toNat ≤ 90 ∨ 97 ≤ c.toNat ∧ c.toNat ≤ 122) : c.isAlpha = true := by
  show (decide (65 ≤ c.val ∧ c.val ≤ 90) || decide (97 ≤ c.val) && decide (c.val ≤ 122)) = true
  simp only [Bool.or_eq_true, Bool.and_eq_true, decide_eq_true_eq]
  exact h

theorem isAlpha_toLower (c : Char) : c.toLower.isAlpha = c.isAlpha := by
  rcases toLower_cases c with hsame | ⟨hlow, hhigh, hval⟩
  · rw [hsame]
  · rw [isAlpha_of_letter (.inl ⟨hlow, hhigh⟩), isAlpha_of_letter (.inr (by omega))]

theorem isSchemeChar_toLower (c : Char) : isSchemeChar c.toLower = isSchemeChar c := by
  rcases toLower_cases c with hsame | ⟨hlow, hhigh, hval⟩
  · rw [hsame]
  · have hcapital := isAlpha_of_letter (.inl ⟨hlow, hhigh⟩)
    have hsmall := (isAlpha_toLower c).trans hcapital
    simp [isSchemeChar, Char.isAlphanum, hcapital, hsmall]

theorem lt_of_isSchemeChar {c : Char} (h : isSchemeChar c = true) : 0x20 < c.toNat := by
  have hlow : ∀ n < 0x21, isSchemeChar (Char.ofNat n) = false := by decide
  by_contra hle
  have hnot := hlow c.toNat (by omega)
  rw [Char.ofNat_toNat, h] at hnot
  cases hnot

/-- The scheme of a text is what stands before the first colon, if that may be a scheme. -/
theorem scheme?_eq_some_iff {l rest : List Char} {scheme : String} :
    scheme? l = some (scheme, rest) ↔
      ∃ spelling, l = spelling ++ ':' :: rest ∧ (∀ c ∈ spelling, isSchemeChar c = true) ∧
        (∃ c, spelling.head? = some c ∧ c.isAlpha = true) ∧
        Text.lower (String.ofList spelling) = scheme := by
  constructor
  · intro h
    have hsplit : l.takeWhile isSchemeChar ++ l.drop (l.takeWhile isSchemeChar).length = l :=
      List.prefix_iff_eq_append.mp (List.takeWhile_prefix isSchemeChar)
    simp only [scheme?] at h
    split at h
    · next c tail behind hspelling hbehind =>
      split at h
      · next halpha =>
        obtain ⟨rfl, rfl⟩ := Prod.mk.inj (Option.some.inj h)
        refine ⟨l.takeWhile isSchemeChar, ?_, fun c hc => List.mem_takeWhile_imp hc,
          ⟨c, by rw [hspelling]; rfl, halpha⟩, rfl⟩
        rw [← hbehind, hsplit]
      · cases h
    · cases h
  · rintro ⟨spelling, rfl, hallowed, ⟨c, hhead, halpha⟩, rfl⟩
    have hcolon : isSchemeChar ':' = false := rfl
    have hspelling : (spelling ++ ':' :: rest).takeWhile isSchemeChar = spelling := by
      rw [List.takeWhile_append_of_pos hallowed, List.takeWhile_cons_of_neg (by simp [hcolon]),
        List.append_nil]
    obtain ⟨tail, rfl⟩ := List.head?_eq_some_iff.mp hhead
    simp only [scheme?, hspelling, List.drop_left]
    exact if_pos halpha

theorem eq_file_of_schemeKind {scheme : String} (h : schemeKind scheme = .file) :
    scheme = "file" := by
  rw [schemeKind.eq_def] at h
  split at h
  all_goals first | rfl | cases h

theorem scheme?_of_ofText? [CharTables] {s : String} {u : Url} (h : ofText? s = .ok u) :
    ∃ rest, scheme? (cleaned s.toList) = some (u.scheme, rest) := by
  rw [ofText?] at h
  split at h
  · cases h
  · next scheme rest hread =>
    suffices hsame : u.scheme = scheme from ⟨rest, hsame ▸ hread⟩
    split at h
    · exact (scheme_and_path_of_withAuthority? h).1
    · next hfile => rw [scheme_of_ofFile? h, eq_file_of_schemeKind hfile]
    · split at h
      · exact (scheme_and_path_of_withAuthority? h).1
      · cases h
        rfl
      · cases h
        rfl

/-! ### Starts that are kept -/

/-- Reading keeps a start in which nothing is dropped. -/
theorem cleaned_append {start : List Char} (h : ∀ c ∈ start, 0x20 < c.toNat) (hne : start ≠ [])
    (l : List Char) : ∃ rest, cleaned (start ++ l) = start ++ rest := by
  have hfront : (start ++ l).dropWhile (fun c => decide (c.toNat ≤ 0x20)) = start ++ l := by
    obtain ⟨c, tail, rfl⟩ := List.exists_cons_of_ne_nil hne
    have hc := h c List.mem_cons_self
    exact List.dropWhile_cons_of_neg (by simpa using hc)
  have hback : Text.dropEnd (fun c : Char => decide (c.toNat ≤ 0x20)) start = start := by
    obtain ⟨early, c, rfl⟩ := (List.eq_nil_or_concat start).resolve_left hne
    have hc := h c (by simp)
    rw [List.concat_eq_append]
    exact Text.dropEnd_concat_of_neg (by simpa using hc) early
  have hlines : joinedLines start = start := by
    refine List.filter_eq_self.mpr fun c hc => ?_
    have hlarge := h c hc
    have hother {d : Char} (hd : d.toNat ≤ 0x20) : c ≠ d := by
      rintro rfl
      omega
    simp [hother (show '\t'.toNat ≤ 0x20 by decide), hother (show '\n'.toNat ≤ 0x20 by decide),
      hother (show '\r'.toNat ≤ 0x20 by decide)]
  refine ⟨joinedLines (Text.dropEnd (fun c => decide (c.toNat ≤ 0x20)) l), ?_⟩
  rw [cleaned, hfront, Text.dropEnd_append_of_fixed hback, joinedLines, List.filter_append]
  exact congrArg (· ++ _) hlines

end Gatehouse.Url
