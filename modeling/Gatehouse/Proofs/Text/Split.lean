import Gatehouse.Text.Split

/-!
# Pieces of text

What the rest of the theory knows of cutting text: `splitChars` undoes joining pieces that do not
hold the separator, `cutChars` finds the first separator, `afterChars` takes a start away. No proof
elsewhere opens these functions.
-/

namespace Gatehouse.Text

/-! ### Splitting -/

theorem splitChars_ne_nil (sep : Char) (l : List Char) : splitChars sep l ≠ [] := by
  cases l with
  | nil => simp [splitChars]
  | cons c rest =>
    unfold splitChars
    split
    · simp
    · split <;> simp

theorem splitChars_cons_sep (sep : Char) (l : List Char) :
    splitChars sep (sep :: l) = [] :: splitChars sep l := by
  obtain ⟨piece, pieces, hl⟩ := List.exists_cons_of_ne_nil (splitChars_ne_nil sep l)
  simp [splitChars, hl]

theorem splitChars_cons_of_ne {sep c : Char} (hc : c ≠ sep) (l : List Char) :
    ∃ piece pieces, splitChars sep l = piece :: pieces ∧
      splitChars sep (c :: l) = (c :: piece) :: pieces := by
  obtain ⟨piece, pieces, hl⟩ := List.exists_cons_of_ne_nil (splitChars_ne_nil sep l)
  exact ⟨piece, pieces, hl, by simp [splitChars, hl, hc]⟩

theorem splitChars_of_not_mem {sep : Char} {l : List Char} (h : sep ∉ l) :
    splitChars sep l = [l] := by
  induction l with
  | nil => rfl
  | cons c rest ih =>
    simp only [List.mem_cons, not_or] at h
    simp [splitChars, ih h.2, Ne.symm h.1]

/-- Splitting goes piece by piece: what stands before a separator is split on its own. -/
theorem splitChars_append_sep (sep : Char) (a b : List Char) :
    splitChars sep (a ++ sep :: b) = splitChars sep a ++ splitChars sep b := by
  induction a with
  | nil => simp [splitChars_cons_sep, splitChars]
  | cons c rest ih =>
    by_cases hc : c = sep
    · subst hc
      rw [List.cons_append, splitChars_cons_sep, ih, splitChars_cons_sep, List.cons_append]
    · obtain ⟨piece, pieces, hrest, hcons⟩ := splitChars_cons_of_ne hc rest
      obtain ⟨piece', pieces', hall, hcons'⟩ := splitChars_cons_of_ne hc (rest ++ sep :: b)
      rw [ih, hrest, List.cons_append, List.cons.injEq] at hall
      rw [List.cons_append, hcons', hcons, ← hall.1, ← hall.2, List.cons_append]

theorem not_mem_of_mem_splitChars {sep : Char} {l piece : List Char}
    (h : piece ∈ splitChars sep l) : sep ∉ piece := by
  induction l generalizing piece with
  | nil => simp_all [splitChars]
  | cons c rest ih =>
    by_cases hc : c = sep
    · subst hc
      rw [splitChars_cons_sep, List.mem_cons] at h
      rcases h with rfl | h
      · simp
      · exact ih h
    · obtain ⟨first, pieces, hrest, hcons⟩ := splitChars_cons_of_ne hc rest
      rw [hcons, List.mem_cons] at h
      rcases h with rfl | h
      · have hfirst : sep ∉ first := ih (by simp [hrest])
        simp [hfirst, Ne.symm hc]
      · exact ih (by simp [hrest, h])

theorem flatMap_splitChars (sep : Char) (l : List Char) :
    (splitChars sep l).flatMap (fun piece => sep :: piece) = sep :: l := by
  induction l with
  | nil => rfl
  | cons c rest ih =>
    by_cases hc : c = sep
    · subst hc
      rw [splitChars_cons_sep, List.flatMap_cons, ih, List.cons_append, List.nil_append]
    · obtain ⟨piece, pieces, hrest, hcons⟩ := splitChars_cons_of_ne hc rest
      rw [hrest, List.flatMap_cons, List.cons_append, List.cons.injEq] at ih
      rw [hcons, List.flatMap_cons, List.cons_append, List.cons_append, ih.2]

theorem mem_of_mem_splitChars {sep c : Char} {l piece : List Char} (h : piece ∈ splitChars sep l)
    (hc : c ∈ piece) : c ∈ l := by
  have hne : c ≠ sep := fun he => not_mem_of_mem_splitChars h (he ▸ hc)
  have hall : c ∈ sep :: l := by
    rw [← flatMap_splitChars sep l, List.mem_flatMap]
    exact ⟨piece, h, List.mem_cons_of_mem _ hc⟩
  exact (List.mem_cons.mp hall).resolve_left hne

theorem mem_splitChars_of_mem (sep : Char) {c : Char} {l : List Char} (h : c ∈ l) (hc : c ≠ sep) :
    ∃ piece ∈ splitChars sep l, c ∈ piece := by
  have hall : c ∈ (splitChars sep l).flatMap (fun piece => sep :: piece) := by
    rw [flatMap_splitChars]
    exact List.mem_cons_of_mem _ h
  obtain ⟨piece, hpiece, hmem⟩ := List.mem_flatMap.mp hall
  exact ⟨piece, hpiece, (List.mem_cons.mp hmem).resolve_left hc⟩

theorem splitChars_append_of_not_mem {sep : Char} {a l piece : List Char}
    {pieces : List (List Char)} (ha : sep ∉ a) (hl : splitChars sep l = piece :: pieces) :
    splitChars sep (a ++ l) = (a ++ piece) :: pieces := by
  induction a with
  | nil => exact hl
  | cons c rest ih =>
    simp only [List.mem_cons, not_or] at ha
    simp [splitChars, ih ha.2, Ne.symm ha.1]

/-- Splitting undoes joining: pieces with a separator before each are found again. -/
theorem splitChars_pieces {sep : Char} {pieces : List (List Char)}
    (hfree : ∀ piece ∈ pieces, sep ∉ piece) :
    splitChars sep (pieces.flatMap fun piece => sep :: piece) = [] :: pieces := by
  induction pieces with
  | nil => rfl
  | cons piece pieces ih =>
    have hrest := ih fun p hp => hfree p (List.mem_cons_of_mem _ hp)
    rw [List.flatMap_cons, List.cons_append, splitChars_cons_sep,
      splitChars_append_of_not_mem (hfree piece (by simp)) hrest, List.append_nil]

theorem splitChars_flatMap {sep : Char} {pieces : List (List Char)}
    (hfree : ∀ piece ∈ pieces, sep ∉ piece) (l : List Char) :
    splitChars sep (pieces.flatMap (fun piece => sep :: piece) ++ sep :: l)
      = [] :: (pieces ++ splitChars sep l) := by
  rw [splitChars_append_sep, splitChars_pieces hfree, List.cons_append]

theorem flatMap_split (sep : Char) (s : String) :
    (split sep s).flatMap (fun piece => sep :: piece.toList) = sep :: s.toList := by
  rw [split, List.flatMap_map]
  simp only [String.toList_ofList, flatMap_splitChars]

theorem split_of_not_mem {sep : Char} {s : String} (h : sep ∉ s.toList) : split sep s = [s] := by
  rw [split, splitChars_of_not_mem h, List.map_singleton, String.ofList_toList]

theorem split_of_toList_eq {sep : Char} {s a b : String}
    (h : s.toList = a.toList ++ sep :: b.toList) : split sep s = split sep a ++ split sep b := by
  rw [split, h, splitChars_append_sep, List.map_append, split, split]

/-! ### Starts -/

theorem afterChars_eq_some_iff {start l rest : List Char} :
    afterChars start l = some rest ↔ l = start ++ rest := by
  induction start generalizing l with
  | nil => simp [afterChars]
  | cons p ps ih =>
    cases l with
    | nil => simp [afterChars]
    | cons c cs =>
      by_cases hpc : p = c
      · subst hpc
        simp [afterChars, ih]
      · simp [afterChars, hpc, Ne.symm hpc]

theorem after?_eq_some_iff {start s rest : String} :
    after? start s = some rest ↔ s = start ++ rest := by
  constructor
  · intro h
    obtain ⟨l, hl, rfl⟩ := Option.map_eq_some_iff.mp h
    rw [afterChars_eq_some_iff] at hl
    rw [← String.toList_inj, hl]
    simp
  · rintro rfl
    simp [after?, afterChars_eq_some_iff.mpr]

theorem after?_append (start rest : String) : after? start (start ++ rest) = some rest :=
  after?_eq_some_iff.mpr rfl

/-- Of two lists neither of which starts with the other, neither starts what the other goes on to. -/
theorem afterChars_append_eq_none {start l : List Char} (hstart : ¬start <+: l) (hl : ¬l <+: start)
    (tail : List Char) : afterChars start (l ++ tail) = none := by
  cases hafter : afterChars start (l ++ tail) with
  | none => rfl
  | some rest =>
    have hboth : start <+: l ++ tail := ⟨rest, (afterChars_eq_some_iff.mp hafter).symm⟩
    rcases List.prefix_or_prefix_of_prefix hboth (List.prefix_append l tail) with h | h
    · exact absurd h hstart
    · exact absurd h hl

theorem after?_append_eq_none {start s : String} (hstart : ¬start.toList <+: s.toList)
    (hs : ¬s.toList <+: start.toList) (tail : String) : after? start (s ++ tail) = none := by
  rw [after?, String.toList_append, afterChars_append_eq_none hstart hs, Option.map_none]

theorem endsWith_append (s ending : String) : endsWith ending (s ++ ending) = true := by
  rw [endsWith, String.toList_append, List.reverse_append, afterChars_eq_some_iff.mpr rfl]
  rfl

theorem endsWith_append_eq_false {ending t : String}
    (hending : ¬ending.toList.reverse <+: t.toList.reverse)
    (ht : ¬t.toList.reverse <+: ending.toList.reverse) (s : String) :
    endsWith ending (s ++ t) = false := by
  rw [endsWith, String.toList_append, List.reverse_append, afterChars_append_eq_none hending ht]
  rfl

theorem isSome_afterChars_append_sep {sep : Char} {start : List Char} (hfree : sep ∉ start)
    (l tail : List Char) :
    (afterChars start (l ++ sep :: tail)).isSome = (afterChars start l).isSome := by
  induction start generalizing l with
  | nil => rfl
  | cons p ps ih =>
    simp only [List.mem_cons, not_or] at hfree
    cases l with
    | nil => simp [afterChars, Ne.symm hfree.1]
    | cons c cs =>
      rw [List.cons_append, afterChars, afterChars]
      split
      · exact ih hfree.2 cs
      · rfl

/-! ### Parts -/

theorem containsChars_append_sep {sep : Char} {part : List Char} (hfree : sep ∉ part)
    (hpart : part ≠ []) (a b : List Char) :
    containsChars part (a ++ sep :: b) = (containsChars part a || containsChars part b) := by
  have hcons (c : Char) (cs : List Char) : containsChars part (c :: cs)
      = ((afterChars part (c :: cs)).isSome || containsChars part cs) := rfl
  induction a with
  | nil =>
    have hstart : (afterChars part (sep :: b)).isSome = (afterChars part []).isSome :=
      isSome_afterChars_append_sep hfree [] b
    rw [List.nil_append, hcons, hstart]
    cases part with
    | nil => exact absurd rfl hpart
    | cons p ps => rfl
  | cons c cs ih =>
    have hstart : (afterChars part (c :: (cs ++ sep :: b))).isSome
        = (afterChars part (c :: cs)).isSome :=
      isSome_afterChars_append_sep hfree (c :: cs) b
    rw [List.cons_append, hcons, hstart, ih, hcons, Bool.or_assoc]

theorem exists_of_containsChars {part l : List Char} (h : containsChars part l = true) :
    ∃ a b, l = a ++ (part ++ b) := by
  induction l with
  | nil =>
    rw [containsChars, List.isEmpty_iff] at h
    exact ⟨[], [], by rw [h]; rfl⟩
  | cons c cs ih =>
    rw [containsChars, Bool.or_eq_true, Option.isSome_iff_exists] at h
    rcases h with ⟨rest, hstart⟩ | hlater
    · have hcons : c :: cs = part ++ rest := afterChars_eq_some_iff.mp hstart
      exact ⟨[], rest, hcons⟩
    · obtain ⟨a, b, rfl⟩ := ih hlater
      exact ⟨c :: a, b, rfl⟩

/-! ### Cutting -/

theorem cutChars_eq_some_iff {sep : Char} {l a b : List Char} :
    cutChars sep l = some (a, b) ↔ l = a ++ sep :: b ∧ sep ∉ a := by
  induction l generalizing a with
  | nil => simp [cutChars]
  | cons c rest ih =>
    by_cases hc : c = sep
    · subst hc
      cases a with
      | nil => simp [cutChars, eq_comm]
      | cons d ds =>
        simp only [cutChars, if_true, List.mem_cons, not_or]
        grind
    · cases a with
      | nil => simp [cutChars, hc]
      | cons d ds =>
        simp only [cutChars, if_neg hc, Option.map_eq_some_iff, List.cons_append,
          List.cons.injEq, List.mem_cons, not_or]
        constructor
        · rintro ⟨⟨a', b'⟩, hcut, hpair⟩
          simp only [Prod.mk.injEq, List.cons.injEq] at hpair
          obtain ⟨⟨rfl, rfl⟩, rfl⟩ := hpair
          obtain ⟨rfl, hfree⟩ := ih.mp hcut
          exact ⟨⟨rfl, rfl⟩, Ne.symm hc, hfree⟩
        · rintro ⟨⟨rfl, hrest⟩, -, hfree⟩
          exact ⟨(ds, b), ih.mpr ⟨hrest, hfree⟩, rfl⟩

theorem cut_eq_some {sep : Char} {s a b : String} (h : cut sep s = some (a, b)) :
    s.toList = a.toList ++ sep :: b.toList ∧ sep ∉ a.toList := by
  obtain ⟨⟨a', b'⟩, hcut, hpair⟩ := Option.map_eq_some_iff.mp h
  simp only [Prod.mk.injEq] at hpair
  obtain ⟨rfl, rfl⟩ := hpair
  simpa using cutChars_eq_some_iff.mp hcut

theorem cut_of_toList_eq {sep : Char} {s a b : String} (h : s.toList = a.toList ++ sep :: b.toList)
    (hfree : sep ∉ a.toList) : cut sep s = some (a, b) := by
  rw [cut, cutChars_eq_some_iff.mpr ⟨h, hfree⟩]
  simp

theorem cut_of_not_mem {sep : Char} {s : String} (h : sep ∉ s.toList) : cut sep s = none := by
  cases hcut : cut sep s with
  | none => rfl
  | some parts =>
    obtain ⟨hparts, -⟩ := cut_eq_some hcut
    rw [hparts] at h
    simp at h

end Gatehouse.Text
