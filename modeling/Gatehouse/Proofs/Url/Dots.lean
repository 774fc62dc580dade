import Gatehouse.Access.Route
import Gatehouse.Proofs.Text.Letters
import Gatehouse.Proofs.Url.Percent
import Gatehouse.Url.Path

/-!
# Segments of dots

The grammar of routes and the walk of a path both ask whether a segment is made of dots, the one
before the segment is encoded and the other after it. They agree, since encoding makes no dots: a
text that spells one in any way once it is encoded spelled the same one before.
-/

namespace Gatehouse.Url

theorem eq_of_toLower_eq {c d : Char} (h : c.toLower = d) (hd : d.toNat < 97 ∨ 122 < d.toNat) :
    c = d := by
  rcases toLower_cases c with hsame | ⟨hlow, hhigh, hval⟩
  · exact hsame.symm.trans h
  · rw [h] at hval
    omega

theorem toLower_eq_percent {c : Char} (h : c.toLower = '%') : c = '%' :=
  eq_of_toLower_eq h (by decide)

theorem toLower_eq_two {c : Char} (h : c.toLower = '2') : c = '2' :=
  eq_of_toLower_eq h (by decide)

theorem foldDots_encoded {e : Char} (he : e.toLower = 'e') (l : List Char) :
    foldDots ('%' :: '2' :: e :: l) = '.' :: foldDots l := by
  simp [foldDots, he]

theorem foldDots_cons {c : Char} {l : List Char}
    (h : ∀ e rest, c = '%' → l = '2' :: e :: rest → e.toLower ≠ 'e') :
    foldDots (c :: l) = c.toLower :: foldDots l := by
  rw [foldDots.eq_def]
  split
  · next e rest hshape =>
    obtain ⟨rfl, rfl⟩ := List.cons.inj hshape
    rw [if_neg (h e rest rfl rfl)]
    simp [foldDots]
  · next hshape =>
    obtain ⟨rfl, rfl⟩ := List.cons.inj hshape
    rfl
  · next hshape => cases hshape

theorem foldDots_map_toLower (l : List Char) : foldDots (l.map Char.toLower) = foldDots l := by
  fun_induction foldDots l with
  | case1 e rest he ih =>
    rw [List.map_cons, List.map_cons, List.map_cons, he]
    exact (foldDots_encoded rfl _).trans (congrArg _ ih)
  | case2 e rest he ih =>
    have hfold : foldDots ('%' :: '2' :: e :: rest) = '%' :: '2' :: foldDots (e :: rest) := by
      simp [foldDots, he]
    rw [List.map_cons, List.map_cons, foldDots_cons, foldDots_cons, ih]
    · rfl
    · intro _ _ hpercent
      exact absurd hpercent (by decide)
    · rintro _ _ - hrest
      obtain ⟨-, hrest⟩ := List.cons.inj hrest
      rw [List.map_cons] at hrest
      rw [← (List.cons.inj hrest).1, toLower_toLower]
      exact he
  | case3 c rest hshape ih =>
    rw [List.map_cons, foldDots_cons, toLower_toLower, ih]
    intro e tail hpercent hrest
    obtain ⟨two, l, rfl, htwo, hrest⟩ := List.map_eq_cons_iff.mp hrest
    obtain ⟨e', l, rfl, he', hrest⟩ := List.map_eq_cons_iff.mp hrest
    exact absurd (by rw [toLower_eq_two htwo]) (hshape e' l (toLower_eq_percent hpercent))
  | case4 => rfl

theorem foldDots_of_isDot {l : List Char} (h : isDot l = true) : foldDots l = ['.'] := by
  simp only [isDot, Bool.or_eq_true, beq_iff_eq] at h
  rcases h with h | h
  · rw [h]
    rfl
  · rw [← foldDots_map_toLower, h]
    rfl

theorem foldDots_of_isDoubleDot {l : List Char} (h : isDoubleDot l = true) :
    foldDots l = ['.', '.'] := by
  simp only [isDoubleDot, Bool.or_eq_true, beq_iff_eq] at h
  rcases h with ((h | h) | h) | h
  all_goals
    rw [← foldDots_map_toLower, h]
    rfl

theorem foldDots_percent {l : List Char}
    (h : ∀ e rest, l = '2' :: e :: rest → e.toLower ≠ 'e') :
    foldDots ('%' :: l) = '%' :: foldDots l :=
  foldDots_cons fun e rest _ => h e rest

theorem eq_two_of_hexCapital {n : Nat} (hn : n < 16) (h : Text.hexCapital n = '2') : n = 2 := by
  revert n
  decide

theorem eq_fourteen_of_hexCapital {n : Nat} (hn : n < 16)
    (h : (Text.hexCapital n).toLower = 'e') : n = 14 := by
  revert n
  decide

/-- The bytes of a character that needs encoding never spell a dot. -/
theorem foldDots_encodeChar_of_inPath {c : Char} (hc : Percent.inPath c = true) (l : List Char) :
    ∃ rest, foldDots (Percent.encodeChar Percent.inPath c ++ l) = '%' :: rest := by
  obtain ⟨b, rest, henc, hb⟩ := Percent.encodeChar_of_mem hc
  have hlt : b.toNat < 256 := b.toNat_lt
  have hdot : b.toNat ≠ 0x2E := by
    intro hb'
    have hcdot : c = '.' := Char.toNat_inj.mp (by change c.toNat = 0x2E; omega)
    rw [hcdot] at hc
    exact absurd hc (by decide)
  rw [henc, Percent.encodeByte, List.append_assoc, List.cons_append, foldDots_percent]
  · exact ⟨_, rfl⟩
  · intro e tail heq he
    obtain ⟨htwo, heq⟩ := List.cons.inj heq
    rw [← (List.cons.inj heq).1] at he
    have := eq_two_of_hexCapital (by omega) htwo
    have := eq_fourteen_of_hexCapital (by omega) he
    omega

theorem inPath_of_toLower_eq {e : Char} (he : e.toLower = 'e') : Percent.inPath e = false := by
  rcases toLower_cases e with hsame | ⟨_, _, hval⟩
  · rw [← hsame, he]
    decide
  · rw [he] at hval
    have hcapital : e = 'E' := Char.toNat_inj.mp (Nat.add_right_cancel hval.symm)
    rw [hcapital]
    decide

/-- Encoding makes no dots: a text that reads as dots once encoded reads as the same dots before. -/
theorem foldDots_of_encode {l dots : List Char} (hdots : ∀ c ∈ dots, c = '.')
    (h : foldDots (Percent.encode Percent.inPath l) = dots) : foldDots l = dots := by
  -- What starts with a percent sign that stays is no dot, whatever follows.
  have hpercent {rest dots : List Char} (hdots : ∀ c ∈ dots, c = '.') (heq : '%' :: rest = dots) :
      False :=
    absurd (hdots '%' (by simp [← heq])) (by decide)
  fun_induction foldDots l generalizing dots with
  | case1 e rest he ih =>
    have hencoded : Percent.encode Percent.inPath ('%' :: '2' :: e :: rest)
        = '%' :: '2' :: e :: Percent.encode Percent.inPath rest := by
      rw [Percent.encode_cons, Percent.encode_cons, Percent.encode_cons,
        Percent.encodeChar_of_not (by decide), Percent.encodeChar_of_not (by decide),
        Percent.encodeChar_of_not (inPath_of_toLower_eq he)]
      rfl
    rw [hencoded, foldDots_encoded he] at h
    subst h
    rw [ih (fun c hc => hdots c (List.mem_cons_of_mem _ hc)) rfl]
  | case2 e rest he ih =>
    have hencoded : Percent.encode Percent.inPath ('%' :: '2' :: e :: rest)
        = '%' :: '2' :: Percent.encode Percent.inPath (e :: rest) := by
      rw [Percent.encode_cons, Percent.encode_cons, Percent.encodeChar_of_not (by decide),
        Percent.encodeChar_of_not (by decide)]
      rfl
    rw [hencoded, foldDots_percent] at h
    · exact absurd h (hpercent hdots)
    · intro x tail heq hx
      have hne : x ≠ '%' := by
        rintro rfl
        exact absurd hx (by decide)
      obtain ⟨tail', heq', -⟩ := Percent.encode_eq_cons hne (List.cons.inj heq).2
      exact he ((List.cons.inj heq').1 ▸ hx)
  | case3 c rest hshape ih =>
    rw [Percent.encode_cons] at h
    by_cases hc : Percent.inPath c = true
    · obtain ⟨tail, htail⟩ := foldDots_encodeChar_of_inPath hc (Percent.encode Percent.inPath rest)
      exact (hpercent hdots (htail ▸ h)).elim
    · rw [Percent.encodeChar_of_not (Bool.not_eq_true _ ▸ hc), List.singleton_append,
        foldDots_cons] at h
      · subst h
        rw [ih (fun d hd => hdots d (List.mem_cons_of_mem _ hd)) rfl]
      · intro e tail hpercent heq he
        obtain ⟨tail', rfl, htail⟩ := Percent.encode_eq_cons (by decide) heq
        have hne : e ≠ '%' := by
          rintro rfl
          exact absurd he (by decide)
        obtain ⟨tail'', rfl, -⟩ := Percent.encode_eq_cons hne htail
        exact hshape e tail'' hpercent rfl
  | case4 => exact h

end Gatehouse.Url
