import Gatehouse.Proofs.Text.Digits
import Gatehouse.Proofs.Text.Items
import Gatehouse.Proofs.Text.Split
import Gatehouse.Proofs.Url.Dots
import Gatehouse.Url.Basic

/-!
# Where a host ends

The end of a host is found by its colons and brackets. No domain holds any of them, and an address
has them only as it should: one bracket at each end, and its colons between the two. So a host that
was read can be told from whatever is put behind it. Each way to read a host gets its own lemma; that
of a domain holds whatever tables it is mapped by, since what it comes to is looked at once more.
-/

namespace Gatehouse

/-- The characters by which the end of a host is found. -/
def isMark (c : Char) : Bool :=
  c == ':' || c == '[' || c == ']'

theorem isMark_eq_false_iff {c : Char} :
    isMark c = false ↔ c ≠ ':' ∧ c ≠ '[' ∧ c ≠ ']' := by
  simp only [isMark, Bool.or_eq_false_iff, beq_eq_false_iff_ne, and_assoc]

theorem isMark_toLower (c : Char) : isMark c.toLower = isMark c := by
  have hsame {d : Char} (hd : d.toNat < 97 ∨ 122 < d.toNat) (hlower : d.toLower = d) :
      c.toLower = d ↔ c = d := by
    constructor
    · intro h
      exact Url.eq_of_toLower_eq h hd
    · rintro rfl
      exact hlower
  apply Bool.eq_iff_iff.mpr
  simp only [isMark, Bool.or_eq_true, beq_iff_eq]
  rw [hsame (by decide) (by decide), hsame (by decide) (by decide), hsame (by decide) (by decide)]

theorem isMark_of_isDigit {c : Char} (h : c.isDigit = true) : isMark c = false := by
  rw [isMark_eq_false_iff]
  refine ⟨?_, ?_, ?_⟩
  all_goals
    rintro rfl
    exact absurd h (by decide)

/-- Whether no character of a list is one by which the end of a host is found. -/
def Unmarked (l : List Char) : Prop :=
  ∀ c ∈ l, isMark c = false

theorem Unmarked.append {a b : List Char} (ha : Unmarked a) (hb : Unmarked b) :
    Unmarked (a ++ b) := by
  intro c hc
  rcases List.mem_append.mp hc with h | h
  · exact ha c h
  · exact hb c h

theorem Unmarked.mono {a b : List Char} (hb : Unmarked b) (h : ∀ c ∈ a, c ∈ b) : Unmarked a :=
  fun c hc => hb c (h c hc)

theorem unmarked_of_all {l : List Char} (h : (l.all fun c => !isMark c) = true) : Unmarked l := by
  intro c hc
  exact Bool.not_eq_true' _ ▸ List.all_eq_true.mp h c hc

/-- Characters that are refused wherever the marks are refused. -/
theorem unmarked_of_not_any {p : Char → Bool} (hcolon : p ':' = true) (hopen : p '[' = true)
    (hclose : p ']' = true) {l : List Char} (h : ¬l.any p = true) : Unmarked l := by
  intro c hc
  have hfree : ¬p c = true := fun hp => h (List.any_eq_true.mpr ⟨c, hc, hp⟩)
  apply isMark_eq_false_iff.mpr
  refine ⟨?_, ?_, ?_⟩
  · rintro rfl
    exact hfree hcolon
  · rintro rfl
    exact hfree hopen
  · rintro rfl
    exact hfree hclose

/-! ### Texts put together -/

namespace Text

theorem mem_joined {sep : String} {pieces : List String} {c : Char}
    (h : c ∈ (joined sep pieces).toList) :
    c ∈ sep.toList ∨ ∃ piece ∈ pieces, c ∈ piece.toList := by
  induction pieces with
  | nil => cases h
  | cons piece rest ih =>
    cases rest with
    | nil => exact .inr ⟨piece, List.mem_singleton_self piece, h⟩
    | cons next rest =>
      rw [joined, String.toList_append, String.toList_append, List.mem_append, List.mem_append] at h
      · rcases h with (hpiece | hsep) | hrest
        · exact .inr ⟨piece, List.mem_cons_self, hpiece⟩
        · exact .inl hsep
        · rcases ih hrest with hsep | ⟨other, hother, hc⟩
          · exact .inl hsep
          · exact .inr ⟨other, List.mem_cons_of_mem _ hother, hc⟩
      · exact List.cons_ne_nil next rest

theorem exists_of_mem_toDigits {n : Nat} {c : Char} (h : c ∈ Nat.toDigits 16 n) :
    ∃ k < 16, c = Nat.digitChar k := by
  induction n using Nat.strongRecOn with
  | ind n ih =>
    by_cases hlt : n < 16
    · rw [Nat.toDigits_of_lt_base hlt] at h
      exact ⟨n, hlt, List.mem_singleton.mp h⟩
    · rw [Nat.toDigits_of_base_le (by decide) (Nat.le_of_not_lt hlt)] at h
      rcases List.mem_append.mp h with hfront | hlast
      · exact ih (n / 16) (by omega) hfront
      · exact ⟨n % 16, Nat.mod_lt n (by decide), List.mem_singleton.mp hlast⟩

theorem isMark_hexDigit {k : Nat} (h : k < 16) : isMark (Nat.digitChar k).toLower = false := by
  revert k
  decide

theorem unmarked_hexText (n : Nat) : Unmarked (hexText n).toList := by
  intro c hc
  rw [hexText, String.toList_ofList] at hc
  obtain ⟨d, hd, rfl⟩ := List.mem_map.mp hc
  obtain ⟨k, hk, rfl⟩ := exists_of_mem_toDigits hd
  exact isMark_hexDigit hk

theorem unmarked_toString (n : Nat) : Unmarked (toString n).toList := by
  intro c hc
  rw [Nat.toString_eq_repr, Nat.toList_repr] at hc
  exact isMark_of_isDigit (isDigit_of_mem_toDigits hc)

end Text

/-! ### Addresses -/

namespace Address

theorem unmarked_quadText (n : Nat) : Unmarked (quadText n).toList := by
  intro c hc
  rcases Text.mem_joined hc with hdot | ⟨piece, hpiece, hc⟩
  · rw [List.mem_singleton.mp hdot]
    rfl
  · obtain ⟨i, -, rfl⟩ := List.mem_map.mp hpiece
    exact Text.unmarked_toString _ c hc

/-- The groups of an address hold colons, but no bracket. -/
theorem not_bracket_of_mem_groupsText {n : Nat} {c : Char} (h : c ∈ (groupsText n).toList) :
    c ≠ '[' ∧ c ≠ ']' := by
  have hmark : c = ':' ∨ isMark c = false → c ≠ '[' ∧ c ≠ ']' := by
    rintro (rfl | hfalse)
    · decide
    · exact (isMark_eq_false_iff.mp hfalse).2
  have hhex (l : List Nat) (hc : c ∈ (Text.joined ":" (l.map Text.hexText)).toList) :
      c = ':' ∨ isMark c = false := by
    rcases Text.mem_joined hc with hcolon | ⟨piece, hpiece, hc⟩
    · exact .inl (List.mem_singleton.mp hcolon)
    · obtain ⟨g, -, rfl⟩ := List.mem_map.mp hpiece
      exact .inr (Text.unmarked_hexText g c hc)
  apply hmark
  rw [groupsText] at h
  dsimp only at h
  split at h
  · exact hhex _ h
  · rw [String.toList_append, String.toList_append, List.mem_append, List.mem_append] at h
    rcases h with (hfront | hcolons) | hback
    · exact hhex _ hfront
    · left
      simpa using hcolons
    · exact hhex _ hback

end Address

/-! ### Hosts -/

namespace Host

/-- Whether the end of a host can be found: none of its characters marks it, or brackets stand around
it and not inside. -/
def Ends (l : List Char) : Prop :=
  Unmarked l ∨ ∃ inner, l = '[' :: (inner ++ [']']) ∧ ∀ c ∈ inner, c ≠ '[' ∧ c ≠ ']'

theorem Ends.map_toLower {l : List Char} (h : Ends l) : Ends (l.map Char.toLower) := by
  rcases h with hfree | ⟨inner, rfl, hinner⟩
  · left
    intro c hc
    obtain ⟨d, hd, rfl⟩ := List.mem_map.mp hc
    rw [isMark_toLower]
    exact hfree d hd
  · right
    refine ⟨inner.map Char.toLower, by simp, fun c hc => ?_⟩
    obtain ⟨d, hd, rfl⟩ := List.mem_map.mp hc
    obtain ⟨hopen, hclose⟩ := hinner d hd
    refine ⟨fun heq => hopen ?_, fun heq => hclose ?_⟩
    · exact Url.eq_of_toLower_eq heq (by decide)
    · exact Url.eq_of_toLower_eq heq (by decide)

theorem ends_address (a : Address) : Ends (text (.address a)).toList := by
  cases a with
  | v4 n => exact .inl (Address.unmarked_quadText n)
  | v6 n =>
    refine .inr ⟨(Address.groupsText n).toList, ?_, fun c hc =>
      Address.not_bracket_of_mem_groupsText hc⟩
    rw [text, String.toList_append, String.toList_append]
    rfl

theorem unmarked_domain [CharTables] {l name : List Char} (h : domain? l = some name) :
    Unmarked name := by
  obtain ⟨-, hallowed⟩ := Option.filter_eq_some_iff.mp h
  refine unmarked_of_not_any (by decide) (by decide) (by decide) (p := isForbidden) ?_
  simpa using hallowed

theorem v4?_eq_ok {l : List Char} {h : Host} (hread : v4? l = .ok h) : ∃ a, h = .address a := by
  rw [v4?] at hread
  split at hread
  · cases hread
  · split at hread
    · cases hread
    · exact ⟨_, (Except.ok.inj hread).symm⟩

theorem v6?_eq_ok {l : List Char} {h : Host} (hread : v6? l = .ok h) : ∃ a, h = .address a := by
  rw [v6?] at hread
  split at hread
  · exact ⟨_, (Except.ok.inj hread).symm⟩
  · cases hread

theorem ends_of_ofSpecial? [CharTables] {l : List Char} {h : Host} (hread : ofSpecial? l = .ok h) :
    Ends h.text.toList := by
  rw [ofSpecial?] at hread
  split at hread
  · split at hread
    · obtain ⟨a, rfl⟩ := v6?_eq_ok hread
      exact ends_address a
    · cases hread
  · split at hread
    · cases hread
    · next name hname =>
      split at hread
      · cases hread
      · split at hread
        · obtain ⟨a, rfl⟩ := v4?_eq_ok hread
          exact ends_address a
        · obtain ⟨s, -, hdomain⟩ := Option.bind_eq_some_iff.mp hname
          obtain rfl := Except.ok.inj hread
          left
          rw [text, String.toList_ofList]
          exact unmarked_domain hdomain

theorem ends_of_ofOther? {l : List Char} {h : Host} (hread : ofOther? l = .ok (some h)) :
    Ends h.text.toList := by
  rw [ofOther?] at hread
  split at hread
  · split at hread
    · next inside _ =>
      cases hv6 : v6? inside with
      | error e =>
        rw [hv6] at hread
        cases hread
      | ok other =>
        rw [hv6] at hread
        obtain ⟨a, rfl⟩ := v6?_eq_ok hv6
        obtain rfl := Option.some.inj (Except.ok.inj hread)
        exact ends_address a
    · cases hread
  · split at hread
    · cases hread
    · next hallowed =>
      split at hread
      · cases hread
      · obtain rfl := Option.some.inj (Except.ok.inj hread)
        left
        rw [text, String.toList_ofList]
        intro c hc
        rcases Percent.mem_encode hc with ⟨hmem, -⟩ | hmark
        · exact unmarked_of_not_any (by decide) (by decide) (by decide) hallowed c hmem
        · have hmarks : Unmarked Percent.marks := unmarked_of_all rfl
          exact hmarks c hmark

end Host

/-! ### What stands behind a host -/

namespace Url

theorem hostChars_cons {c : Char} (h : isMark c = false) (inside : Bool) (l : List Char) :
    hostChars inside (c :: l) = c :: hostChars inside l := by
  obtain ⟨hcolon, hopen, hclose⟩ := isMark_eq_false_iff.mp h
  exact hostChars.eq_5 inside c l hcolon hopen hclose

theorem hostChars_append_of_unmarked {l : List Char} (h : Unmarked l) (rest : List Char) :
    hostChars false (l ++ rest) = l ++ hostChars false rest := by
  induction l with
  | nil => rfl
  | cons c l ih =>
    rw [List.cons_append, hostChars_cons (h c List.mem_cons_self), List.cons_append,
      ih fun d hd => h d (List.mem_cons_of_mem _ hd)]

/-- Between brackets a colon ends no host. -/
theorem hostChars_bracketed {inner : List Char} (h : ∀ c ∈ inner, c ≠ '[' ∧ c ≠ ']')
    (rest : List Char) :
    hostChars true (inner ++ ']' :: rest) = inner ++ ']' :: hostChars false rest := by
  induction inner with
  | nil => rfl
  | cons c inner ih =>
    have hrest := ih fun d hd => h d (List.mem_cons_of_mem _ hd)
    by_cases hcolon : c = ':'
    · subst hcolon
      rw [List.cons_append, hostChars, if_pos rfl, hrest, List.cons_append]
    · obtain ⟨hopen, hclose⟩ := h c List.mem_cons_self
      have hmark : isMark c = false := isMark_eq_false_iff.mpr ⟨hcolon, hopen, hclose⟩
      rw [List.cons_append, hostChars_cons hmark, hrest, List.cons_append]

/-- A host whose end can be found is told from what stands behind it. -/
theorem hostChars_append_of_ends {l : List Char} (h : Host.Ends l) (rest : List Char) :
    hostChars false (l ++ rest) = l ++ hostChars false rest := by
  rcases h with hfree | ⟨inner, rfl, hinner⟩
  · exact hostChars_append_of_unmarked hfree rest
  · rw [List.cons_append, List.append_assoc, List.singleton_append, hostChars,
      hostChars_bracketed hinner, List.cons_append, List.append_assoc, List.singleton_append]

end Url

end Gatehouse
