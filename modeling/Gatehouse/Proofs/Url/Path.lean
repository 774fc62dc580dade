import Gatehouse.Proofs.Access.Route
import Gatehouse.Proofs.Text.Blank
import Gatehouse.Proofs.Url.Dots
import Mathlib.Data.List.Induction

/-!
# Segments of a path

Walking a path keeps each piece that is no step up or down, so a path without such pieces, without
backslashes and without line ends is read as its own pieces, encoded. What the walk leaves is
canonical: reading it again changes nothing. Where pieces are steps the walk only loses characters,
which is why a path that loses one to cleaning cannot come out as long as it went in.
-/

namespace Gatehouse.Url

/-! ### Walking keeps pieces -/

/-- A segment that a path can hold: nothing in it is left to encode, it ends nowhere inside, and it
is no step. -/
structure IsCanonical (s : List Char) : Prop where
  encoded : ∀ c ∈ s, Percent.inPath c = false
  slash : '/' ∉ s
  backslash : '\\' ∉ s
  dot : isDot s = false
  doubleDot : isDoubleDot s = false

namespace IsCanonical

theorem nil : IsCanonical [] :=
  ⟨by simp, by simp, by simp, rfl, rfl⟩

theorem encode_eq {s : List Char} (h : IsCanonical s) : Percent.encode Percent.inPath s = s :=
  Percent.encode_eq_self h.encoded

theorem of_encode {s : List Char} (hslash : '/' ∉ s) (hbackslash : '\\' ∉ s)
    (hdot : isDot (Percent.encode Percent.inPath s) = false)
    (hdots : isDoubleDot (Percent.encode Percent.inPath s) = false) :
    IsCanonical (Percent.encode Percent.inPath s) where
  encoded _ hc := Percent.inPath_of_mem_encode hc
  slash hc := by
    rcases Percent.mem_encode hc with ⟨hs, -⟩ | hmark
    · exact hslash hs
    · exact absurd hmark (by decide)
  backslash hc := by
    rcases Percent.mem_encode hc with ⟨hs, -⟩ | hmark
    · exact hbackslash hs
    · exact absurd hmark (by decide)
  dot := hdot
  doubleDot := hdots

end IsCanonical

/-- A segment that names something is no step, not even once encoded. -/
theorem isDot_encode_of_isNaming {s : List Char} (h : IsNaming s) :
    isDot (Percent.encode Percent.inPath s) = false := by
  rw [Bool.eq_false_iff]
  exact fun hdot => h.2.1 (foldDots_of_encode (by simp) (foldDots_of_isDot hdot))

theorem isDoubleDot_encode_of_isNaming {s : List Char} (h : IsNaming s) :
    isDoubleDot (Percent.encode Percent.inPath s) = false := by
  rw [Bool.eq_false_iff]
  exact fun hdots => h.2.2 (foldDots_of_encode (by simp) (foldDots_of_isDoubleDot hdots))

theorem walk_cons {s : List Char} {above rest : List (List Char)} (hrest : rest ≠ [])
    (hdot : isDot (Percent.encode Percent.inPath s) = false)
    (hdots : isDoubleDot (Percent.encode Percent.inPath s) = false) :
    walk above (s :: rest) = walk (Percent.encode Percent.inPath s :: above) rest := by
  cases rest with
  | nil => exact absurd rfl hrest
  | cons _ _ => simp [walk, hdot, hdots]

/-- Pieces that name something are kept, in order, each encoded. -/
theorem walk_of_isNaming {above pieces : List (List Char)} (h : ∀ piece ∈ pieces, IsNaming piece) :
    walk above pieces = above.reverse ++ pieces.map (Percent.encode Percent.inPath) := by
  induction pieces generalizing above with
  | nil => simp [walk]
  | cons s rest ih =>
    have hdot := isDot_encode_of_isNaming (h s (by simp))
    have hdots := isDoubleDot_encode_of_isNaming (h s (by simp))
    cases rest with
    | nil => simp [walk, hdot, hdots]
    | cons _ _ =>
      rw [walk_cons (by simp) hdot hdots, ih fun piece hp => h piece (List.mem_cons_of_mem _ hp)]
      simp

theorem walk_append_of_isCanonical (above : List (List Char)) {base pieces : List (List Char)}
    (hpieces : pieces ≠ []) (hbase : ∀ s ∈ base, IsCanonical s) :
    walk above (base ++ pieces) = walk (base.reverse ++ above) pieces := by
  induction base generalizing above with
  | nil => rfl
  | cons s rest ih =>
    have hs := hbase s (by simp)
    have hencode := hs.encode_eq
    rw [List.cons_append, walk_cons (by simp [hpieces]) (by rw [hencode]; exact hs.dot)
      (by rw [hencode]; exact hs.doubleDot), hencode, ih _ fun t ht => hbase t (by simp [ht])]
    simp

/-! ### What the walk leaves -/

theorem mem_stepUp {s : List Char} {above : List (List Char)} (h : s ∈ stepUp above) :
    s ∈ above := by
  cases above with
  | nil => simp [stepUp] at h
  | cons t above =>
    rw [stepUp] at h
    split at h
    · exact h
    · exact List.mem_cons_of_mem _ h

theorem isCanonical_of_mem_walk {above pieces : List (List Char)}
    (habove : ∀ s ∈ above, IsCanonical s)
    (hpieces : ∀ s ∈ pieces, '/' ∉ s ∧ '\\' ∉ s) :
    ∀ s ∈ walk above pieces, IsCanonical s := by
  have hup {above : List (List Char)} (h : ∀ s ∈ above, IsCanonical s) :
      ∀ s ∈ stepUp above, IsCanonical s := fun s hs => h s (mem_stepUp hs)
  have hput {above : List (List Char)} {t : List Char} (ht : IsCanonical t)
      (h : ∀ s ∈ above, IsCanonical s) : ∀ s ∈ t :: above, IsCanonical s := by
    simpa using ⟨ht, h⟩
  have hreverse {above : List (List Char)} (h : ∀ s ∈ above, IsCanonical s) :
      ∀ s ∈ above.reverse, IsCanonical s := fun s hs => h s (List.mem_reverse.mp hs)
  fun_induction walk above pieces with
  | case1 above => exact hreverse habove
  | case2 above s last hdots => exact hreverse (hput .nil (hup habove))
  | case3 above s last hdots hdot => exact hreverse (hput .nil habove)
  | case4 above s last hdots hdot =>
    obtain ⟨hslash, hbackslash⟩ := hpieces s (by simp)
    exact hreverse (hput (.of_encode hslash hbackslash (by simpa using hdot) (by simpa using hdots))
      habove)
  | case5 above s rest hrest e hdots ih =>
    exact ih (hup habove) fun t ht => hpieces t (List.mem_cons_of_mem _ ht)
  | case6 above s rest hrest e hdots hdot ih =>
    exact ih habove fun t ht => hpieces t (List.mem_cons_of_mem _ ht)
  | case7 above s rest hrest e hdots hdot ih =>
    obtain ⟨hslash, hbackslash⟩ := hpieces s (by simp)
    exact ih (hput (.of_encode hslash hbackslash (by simpa using hdot) (by simpa using hdots))
      habove) fun t ht => hpieces t (List.mem_cons_of_mem _ ht)

/-- The length of the text of segments, each with its slash. -/
def extent : List (List Char) → Nat
  | [] => 0
  | s :: segments => s.length + 1 + extent segments

@[simp] theorem extent_nil : extent [] = 0 := rfl

@[simp] theorem extent_cons (s : List Char) (l : List (List Char)) :
    extent (s :: l) = s.length + 1 + extent l := rfl

@[simp] theorem extent_append (a b : List (List Char)) :
    extent (a ++ b) = extent a + extent b := by
  induction a with
  | nil => simp
  | cons s a ih =>
    rw [List.cons_append, extent_cons, extent_cons, ih]
    omega

@[simp] theorem extent_reverse (l : List (List Char)) : extent l.reverse = extent l := by
  induction l with
  | nil => rfl
  | cons s l ih =>
    rw [List.reverse_cons, extent_append, ih]
    simp only [extent_cons, extent_nil]
    omega

theorem extent_stepUp_le (above : List (List Char)) : extent (stepUp above) ≤ extent above := by
  cases above with
  | nil => exact Nat.le_refl _
  | cons s above =>
    rw [stepUp]
    split <;> simp

/-- Steps only lose text: a walk leaves no more of it than there was. -/
theorem extent_walk_le (above pieces : List (List Char)) :
    extent (walk above pieces)
      ≤ extent above + extent (pieces.map (Percent.encode Percent.inPath)) := by
  fun_induction walk above pieces with
  | case1 above => simp
  | case2 above s last hdots =>
    have := extent_stepUp_le above
    simp only [extent_reverse, extent_cons, List.map_cons, List.map_nil, extent_nil,
      List.length_nil]
    omega
  | case3 above s last hdots hdot =>
    simp only [extent_reverse, extent_cons, List.map_cons, List.map_nil, extent_nil,
      List.length_nil]
    omega
  | case4 above s last hdots hdot =>
    change extent (last :: above).reverse ≤ extent above + extent [last]
    simp only [extent_reverse, extent_cons, extent_nil]
    omega
  | case5 above s rest hrest e hdots ih =>
    have := extent_stepUp_le above
    rw [List.map_cons, extent_cons]
    omega
  | case6 above s rest hrest e hdots hdot ih =>
    rw [List.map_cons, extent_cons]
    omega
  | case7 above s rest hrest e hdots hdot ih =>
    change extent (walk (e :: above) rest) ≤ extent above + extent (e :: rest.map _)
    simp only [extent_cons] at ih ⊢
    omega

/-! ### Text of segments -/

theorem slashed_of_not_mem {l : List Char} (h : '\\' ∉ l) : slashed l = l := by
  conv => rhs; rw [← List.map_id l]
  refine List.map_congr_left fun c hc => if_neg ?_
  rintro rfl
  exact h hc

theorem backslash_not_mem_slashed (l : List Char) : '\\' ∉ slashed l := by
  intro h
  obtain ⟨c, -, hc⟩ := List.mem_map.mp h
  split at hc
  · exact absurd hc (by decide)
  · contradiction

theorem slashed_append (a b : List Char) : slashed (a ++ b) = slashed a ++ slashed b :=
  List.map_append

theorem encodeChar_slashed (c : Char) :
    (Percent.encodeChar Percent.inPath (if c = '\\' then '/' else c)).length
      = (Percent.encodeChar Percent.inPath c).length := by
  split
  · next hc => rw [hc]; rfl
  · rfl

theorem length_encode_slashed (l : List Char) :
    (Percent.encode Percent.inPath (slashed l)).length
      = (Percent.encode Percent.inPath l).length := by
  simp [Percent.encode, slashed, List.length_flatMap, Function.comp_def, encodeChar_slashed]

theorem unslashed_of_mem_splitChars {l s : List Char} (hl : '\\' ∉ l)
    (h : s ∈ Text.splitChars '/' l) : '/' ∉ s ∧ '\\' ∉ s :=
  ⟨Text.not_mem_of_mem_splitChars h, fun hmem => hl (Text.mem_of_mem_splitChars h hmem)⟩

theorem isCanonical_of_mem_segments {l : List Char} {s : String} (h : s ∈ segments true l) :
    IsCanonical s.toList := by
  obtain ⟨t, ht, rfl⟩ := List.mem_map.mp h
  rw [String.toList_ofList]
  refine isCanonical_of_mem_walk (by simp) (fun piece => unslashed_of_mem_splitChars ?_) t ht
  intro hmem
  refine backslash_not_mem_slashed l ?_
  rw [if_pos rfl] at hmem
  split at hmem
  · next heq =>
    rw [heq]
    exact List.mem_cons_of_mem _ hmem
  · exact hmem

/-- The text of segments without slashes at its end is the text of the segments without empty ones
at their end. -/
theorem dropEnd_slash_flatMap {base : List (List Char)} (h : ∀ s ∈ base, '/' ∉ s) :
    Text.dropEnd (· == '/') (base.flatMap fun s => '/' :: s)
      = (Text.dropEnd (· == []) base).flatMap fun s => '/' :: s := by
  induction base using List.reverseRecOn with
  | nil => rfl
  | append_singleton base s ih =>
    have hbase : ∀ t ∈ base, '/' ∉ t := fun t ht => h t (by simp [ht])
    rw [List.flatMap_append, List.flatMap_cons, List.flatMap_nil, List.append_nil]
    rcases List.eq_nil_or_concat s with rfl | ⟨front, c, rfl⟩
    · rw [Text.dropEnd_concat_of_pos rfl, Text.dropEnd_concat_of_pos rfl, ih hbase]
    · rw [List.concat_eq_append] at h ⊢
      have hc : c ≠ '/' := fun he => h (front ++ [c]) (by simp) (by simp [he])
      rw [← List.cons_append, ← List.append_assoc,
        Text.dropEnd_concat_of_neg (p := (· == '/')) (beq_eq_false_iff_ne.mpr hc),
        Text.dropEnd_concat_of_neg (p := (· == [])) (beq_eq_false_iff_ne.mpr (by simp))]
      simp

theorem extent_encode_splitChars (l : List Char) :
    extent ((Text.splitChars '/' l).map (Percent.encode Percent.inPath))
      = (Percent.encode Percent.inPath l).length + 1 := by
  induction l with
  | nil => rfl
  | cons c rest ih =>
    by_cases hc : c = '/'
    · subst hc
      rw [Text.splitChars_cons_sep, List.map_cons, extent_cons, ih, Percent.encode_cons,
        Percent.encodeChar_of_not (by decide), List.length_append]
      rw [Percent.encode_nil, List.length_nil, List.length_singleton]
      omega
    · obtain ⟨piece, pieces, hrest, hcons⟩ := Text.splitChars_cons_of_ne hc rest
      rw [hrest, List.map_cons, extent_cons] at ih
      rw [hcons, List.map_cons, extent_cons, Percent.encode_cons, List.length_append,
        Percent.encode_cons, List.length_append]
      omega

end Gatehouse.Url
