import Gatehouse.Proofs.Url.Path
import Gatehouse.Url.Basic

/-!
# Paths below a base

A URL with an `http` scheme has canonical segments, so a path that is put below it is walked from
where the base ends. The path comes out as its own segments, encoded, exactly if it holds none of the
four characters that reading does not keep: a backslash would be read as a slash, and a tab or a line
end would be dropped.
-/

namespace Gatehouse.Url

/-! ### The path of a URL -/

theorem scheme_and_path_of_withAuthority? [CharTables] {scheme : String} {l : List Char} {u : Url}
    (h : withAuthority? scheme l = .ok u) :
    u.scheme = scheme ∧ ∃ p, u.path = hierarchical (schemeKind scheme) p := by
  simp only [withAuthority?, bind, Except.bind, pure, Except.pure] at h
  repeat' split at h
  all_goals
    try cases h
  all_goals exact ⟨rfl, _, rfl⟩

theorem scheme_of_ofFile? [CharTables] {l : List Char} {u : Url} (h : ofFile? l = .ok u) :
    u.scheme = "file" := by
  simp only [ofFile?, bind, Except.bind, pure, Except.pure] at h
  repeat' split at h
  all_goals
    try cases h
  all_goals rfl

/-- The path of an `http` URL and its like is a list of segments that were read as such. -/
theorem path_of_ofText? [CharTables] {s : String} {u : Url} {n : Nat} (h : ofText? s = .ok u)
    (hscheme : schemeKind u.scheme = .special n) :
    ∃ l, u.path = .segments (segments true l) := by
  rw [ofText?] at h
  split at h
  · cases h
  · next scheme rest _ =>
    split at h
    · next m hm =>
      obtain ⟨-, p, hp⟩ := scheme_and_path_of_withAuthority? h
      exact ⟨p, by simp [hp, hm, hierarchical, SchemeKind.isSpecial]⟩
    · rw [scheme_of_ofFile? h] at hscheme
      cases hscheme
    · next hother =>
      have hsame : u.scheme = scheme := by
        split at h
        · exact (scheme_and_path_of_withAuthority? h).1
        · cases h
          rfl
        · cases h
          rfl
      rw [hsame, hother] at hscheme
      cases hscheme

@[simp] theorem path_withQuery (u : Url) (query : Option String) :
    (u.withQuery query).path = u.path := rfl

theorem path_withPath {u : Url} {n : Nat} (h : schemeKind u.scheme = .special n) (path : String) :
    (u.withPath path).path = .segments (segments true (joinedLines path.toList)) := by
  rw [withPath, h]
  rfl

/-! ### What reading does not keep -/

/-- The characters that reading a path drops, and the one that it takes for a slash. -/
def isRewritten (c : Char) : Bool :=
  c == '\\' || c == '\t' || c == '\n' || c == '\r'

theorem joinedLines_of_not_isRewritten {l : List Char} (h : ∀ c ∈ l, isRewritten c = false) :
    joinedLines l = l := by
  refine List.filter_eq_self.mpr fun c hc => ?_
  have := h c hc
  simp_all [isRewritten]

theorem isRewritten_of_inPath {c : Char} (h : Percent.inPath c = false) (hc : c ≠ '\\') :
    isRewritten c = false := by
  rw [Bool.eq_false_iff]
  intro hrewritten
  simp only [isRewritten, Bool.or_eq_true, beq_iff_eq] at hrewritten
  rcases hrewritten with ((rfl | rfl) | rfl) | rfl
  · exact hc rfl
  all_goals exact absurd h (by decide)

theorem IsCanonical.not_isRewritten {s : List Char} (h : IsCanonical s) :
    ∀ c ∈ s, isRewritten c = false := by
  intro c hc
  refine isRewritten_of_inPath (h.encoded c hc) ?_
  rintro rfl
  exact h.backslash hc

/-- The text of segments below a base that is read as it stands. -/
theorem segments_below {base : List (List Char)} (hbase : ∀ s ∈ base, IsCanonical s)
    (rest : List Char) :
    segments true (joinedLines (base.flatMap (fun s => '/' :: s) ++ '/' :: rest))
      = (walk base.reverse (Text.splitChars '/' (slashed (joinedLines rest)))).map
          String.ofList := by
  have hkept : ∀ c ∈ base.flatMap (fun s => '/' :: s), isRewritten c = false := by
    intro c hc
    obtain ⟨s, hs, hc⟩ := List.mem_flatMap.mp hc
    rcases List.mem_cons.mp hc with rfl | hc
    · rfl
    · exact (hbase s hs).not_isRewritten c hc
  have hjoined : joinedLines (base.flatMap (fun s => '/' :: s) ++ '/' :: rest)
      = base.flatMap (fun s => '/' :: s) ++ '/' :: joinedLines rest := by
    rw [joinedLines, List.filter_append]
    exact congrArg (· ++ _) (joinedLines_of_not_isRewritten hkept)
  have hslashed : slashed (base.flatMap (fun s => '/' :: s) ++ '/' :: joinedLines rest)
      = base.flatMap (fun s => '/' :: s) ++ '/' :: slashed (joinedLines rest) := by
    rw [slashed_append, slashed_of_not_mem fun hmem => absurd (hkept _ hmem) (by decide)]
    rfl
  have hsplit := Text.splitChars_flatMap (fun s hs => (hbase s hs).slash)
    (slashed (joinedLines rest))
  have hwalk := walk_append_of_isCanonical []
    (Text.splitChars_ne_nil '/' (slashed (joinedLines rest))) hbase
  rw [List.append_nil] at hwalk
  rw [← hwalk, segments, hjoined, if_pos rfl, hslashed]
  -- The text starts with a slash, whether or not the base has segments.
  obtain ⟨t, ht⟩ : ∃ t, base.flatMap (fun s => '/' :: s) ++ '/' :: slashed (joinedLines rest)
      = '/' :: t := by
    cases base <;> exact ⟨_, rfl⟩
  rw [ht, Text.splitChars_cons_sep, List.cons.injEq] at hsplit
  rw [ht, ← hsplit.2]
  rfl

/-- A path of segments that all name something comes out below a base as these segments, encoded,
exactly if it holds nothing that reading does not keep. -/
theorem walk_below_iff {base : List (List Char)} {rest : List Char}
    (hbase : ∀ s ∈ base, IsCanonical s)
    (hrest : ∀ piece ∈ Text.splitChars '/' rest, IsNaming piece) :
    walk base.reverse (Text.splitChars '/' (slashed (joinedLines rest)))
        = base ++ (Text.splitChars '/' rest).map (Percent.encode Percent.inPath)
      ↔ ∀ c ∈ rest, isRewritten c = false := by
  constructor
  · intro hwalk c hc
    rw [Bool.eq_false_iff]
    intro hrewritten
    by_cases hbackslash : c = '\\'
    · -- Encoding keeps a backslash, and a walk leaves none.
      subst hbackslash
      obtain ⟨piece, hpiece, hmem⟩ := Text.mem_splitChars_of_mem '/' hc (by decide)
      have hout : Percent.encode Percent.inPath piece
          ∈ walk base.reverse (Text.splitChars '/' (slashed (joinedLines rest))) := by
        rw [hwalk]
        exact List.mem_append_right _ (List.mem_map_of_mem hpiece)
      refine (isCanonical_of_mem_walk ?_ ?_ _ hout).backslash ?_
      · exact fun s hs => hbase s (List.mem_reverse.mp hs)
      · exact fun s => unslashed_of_mem_splitChars (backslash_not_mem_slashed _)
      · exact Percent.mem_encode_of_mem hmem (by decide)
    · -- A dropped character leaves less text than there would have to be.
      have hle := extent_walk_le base.reverse (Text.splitChars '/' (slashed (joinedLines rest)))
      rw [hwalk, extent_append, extent_reverse, extent_encode_splitChars,
        extent_encode_splitChars, length_encode_slashed] at hle
      have hlt : (Percent.encode Percent.inPath (joinedLines rest)).length
          < (Percent.encode Percent.inPath rest).length := by
        refine Percent.length_encode_filter_lt hc ?_
        simp only [isRewritten, Bool.or_eq_true, beq_iff_eq, hbackslash, false_or] at hrewritten
        rcases hrewritten with (rfl | rfl) | rfl <;> decide
      omega
  · intro hkept
    have hslashed : slashed rest = rest :=
      slashed_of_not_mem fun hmem => absurd (hkept _ hmem) (by decide)
    rw [joinedLines_of_not_isRewritten hkept, hslashed, walk_of_isNaming hrest,
      List.reverse_reverse]

end Gatehouse.Url
