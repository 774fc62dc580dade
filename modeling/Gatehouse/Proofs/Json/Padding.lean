import Gatehouse.Proofs.Json.Records
import Gatehouse.Proofs.Json.Steps

/-!
# White space around JSON

A value begins and ends with a character that is no blank, and the reader skips white space on
either side of it. So a text that holds a value holds the same value once it is trimmed.
-/

namespace Gatehouse.Json

/-! ### White space behind a value -/

section Behind

/-- A further `c` at the end is left behind. -/
def Leaves {α : Type} (c : Char) (read : Reads α) : Prop :=
  ∀ l, read (l ++ [c]) = (read l).map fun p => (p.1, p.2 ++ [c])

/-- The characters that `skip` drops. -/
def white : List Char :=
  [' ', '\t', '\n', '\r']

variable {c : Char}

theorem white_cases (hc : c ∈ white) : c = ' ' ∨ c = '\t' ∨ c = '\n' ∨ c = '\r' := by
  simpa [white] using hc

theorem ne_of_white (hc : c ∈ white) {d : Char} (hd : d ∉ white) : c ≠ d := by
  rintro rfl
  exact hd hc

theorem isDigit_of_white (hc : c ∈ white) : c.isDigit = false := by
  rcases white_cases hc with rfl | rfl | rfl | rfl <;> rfl

theorem shortEscape?_white (hc : c ∈ white) : shortEscape? c = none := by
  rcases white_cases hc with rfl | rfl | rfl | rfl <;> rfl

theorem string?_plain {d : Char} (hquote : d ≠ '"') (hslash : d ≠ '\\') (acc : List Unit16)
    (l : List Char) :
    string? acc (d :: l) = if d.toNat < 0x20 then none else string? (.char d :: acc) l := by
  rw [string?]
  · exact hquote
  · intro a b c e rest h
    exact absurd h hslash
  · intro e rest h
    exact absurd h hslash

theorem string?_short {e : Char} (he : e ≠ 'u') (acc : List Unit16) (l : List Char) :
    string? acc ('\\' :: e :: l)
      = (shortEscape? e).bind fun d => string? (.char d :: acc) l := by
  rw [string?]
  · cases shortEscape? e <;> rfl
  · intro a b c d rest h
    exact absurd h he

theorem string?_code_white (hc : c ∈ white) {acc : List Unit16} {l : List Char}
    (hl : ∀ a b d e rest, l ≠ a :: b :: d :: e :: rest) :
    string? acc ('\\' :: 'u' :: (l ++ [c])) = none := by
  have hdigit : Text.hexDigit? c = none := by
    rcases white_cases hc with rfl | rfl | rfl | rfl <;> rfl
  rcases l with _ | ⟨a, _ | ⟨b, _ | ⟨d, _ | ⟨e, rest⟩⟩⟩⟩
  · rfl
  · rfl
  · rfl
  · have hnumber : Text.number? 16 Text.hexDigit? [a, b, d, c] = none := by
      simp [Text.number?, hdigit]
    rw [List.cons_append, List.cons_append, List.cons_append, List.nil_append, string?, hnumber]
  · exact absurd rfl (hl a b d e rest)

theorem leaves_string? (hc : c ∈ white) (acc : List Unit16) : Leaves c (string? acc) := by
  intro l
  induction acc, l using string?.induct with
  | case1 acc =>
    have hquote : c ≠ '"' := ne_of_white hc (by decide)
    have hslash : c ≠ '\\' := ne_of_white hc (by decide)
    rw [List.nil_append, string?_plain hquote hslash]
    split <;> rfl
  | case2 acc tail => simp [string?]
  | case3 acc a b d e tail n hn ih => simp only [List.cons_append, string?, hn, ih]
  | case4 acc a b d e tail hn => simp only [List.cons_append, string?, hn, Option.map_none]
  | case5 acc e tail hu d hd ih =>
    have he : e ≠ 'u' := by
      rintro rfl
      cases hd
    rw [List.cons_append, List.cons_append, string?_short he, string?_short he, hd,
      Option.bind_some, Option.bind_some, ih]
  | case6 acc e tail hu hd =>
    by_cases he : e = 'u'
    · subst he
      have hnone : string? acc ('\\' :: 'u' :: tail) = none := by
        rw [string?, hd]
        exact hu
      rw [List.cons_append, List.cons_append, hnone,
        string?_code_white hc fun a b d e rest => hu a b d e rest rfl, Option.map_none]
    · rw [List.cons_append, List.cons_append, string?_short he, string?_short he, hd]
      rfl
  | case7 acc d tail hquote hu hb hlow =>
    have hslash : d ≠ '\\' := by
      rintro rfl
      exact absurd hlow (by decide)
    rw [List.cons_append, string?_plain hquote hslash, string?_plain hquote hslash, if_pos hlow,
      if_pos hlow, Option.map_none]
  | case8 acc d tail hquote hu hb hlow ih =>
    by_cases hslash : d = '\\'
    · subst hslash
      have hnil : tail = [] := by
        cases tail with
        | nil => rfl
        | cons e rest => exact absurd rfl (hb e rest rfl)
      rw [hnil, List.singleton_append, string?_short (ne_of_white hc (by decide)),
        shortEscape?_white hc]
      rfl
    · rw [List.cons_append, string?_plain hquote hslash, string?_plain hquote hslash,
        if_neg hlow, if_neg hlow, ih]

theorem word?_append {word : List Char} (hc : c ∉ word) (l : List Char) :
    word? word (l ++ [c]) = (word? word l).map (· ++ [c]) := by
  induction word generalizing l with
  | nil => rfl
  | cons d word ih =>
    simp only [List.mem_cons, not_or] at hc
    rcases l with _ | ⟨e, l⟩
    · rw [List.nil_append, word?, if_neg (Ne.symm hc.1)]
      rfl
    · rw [List.cons_append, word?, word?]
      split
      · exact ih hc.2 l
      · rfl

theorem digits_append (hc : c ∈ white) (l : List Char) :
    digits (l ++ [c]) = ((digits l).1, (digits l).2 ++ [c]) := by
  induction l with
  | nil => simp [digits, isDigit_of_white hc]
  | cons d l ih =>
    rw [digits, digits, Prod.mk.injEq] at ih
    by_cases hd : d.isDigit = true
    · simp [digits, hd, ih]
    · simp [digits, hd]

/-- White space at the end does not change how a list starts. -/
theorem append_ne_cons (hc : c ∈ white) {d : Char} (hd : d ∉ white) {l : List Char}
    (h : ∀ rest, l = d :: rest → False) (rest : List Char) : l ++ [c] = d :: rest → False := by
  intro heq
  cases l with
  | nil => exact ne_of_white hc hd (List.cons.inj heq).1
  | cons e l => exact h l (congrArg (· :: l) (List.cons.inj heq).1)

theorem leaves_fraction? (hc : c ∈ white) : Leaves c fraction? := by
  intro l
  fun_cases fraction? l with
  | case1 rest hdigits =>
    rw [List.cons_append, fraction?, digits_append hc, if_pos hdigits, Option.map_none]
  | case2 rest hdigits =>
    rw [List.cons_append, fraction?, digits_append hc, if_neg hdigits, Option.map_some]
  | case3 l hpoint =>
    rw [fraction?, Option.map_some]
    exact append_ne_cons hc (by decide) hpoint

theorem exponentSign_append (hc : c ∈ white) (l : List Char) :
    exponentSign (l ++ [c]) = ((exponentSign l).1, (exponentSign l).2 ++ [c]) := by
  fun_cases exponentSign l with
  | case1 rest => rfl
  | case2 rest => rfl
  | case3 l hminus hplus =>
    rw [exponentSign]
    · exact append_ne_cons hc (by decide) hminus
    · exact append_ne_cons hc (by decide) hplus

theorem leaves_exponentDigits? (hc : c ∈ white) : Leaves c exponentDigits? := by
  intro l
  rw [exponentDigits?_eq, exponentDigits?_eq, exponentSign_append hc]
  dsimp only
  rw [digits_append hc]
  split <;> rfl

theorem leaves_exponent? (hc : c ∈ white) : Leaves c exponent? := by
  intro l
  fun_cases exponent? l with
  | case1 rest => exact leaves_exponentDigits? hc rest
  | case2 rest => exact leaves_exponentDigits? hc rest
  | case3 l he hE =>
    rw [exponent?, Option.map_some]
    · exact append_ne_cons hc (by decide) he
    · exact append_ne_cons hc (by decide) hE

theorem sign_append (hc : c ∈ white) (l : List Char) :
    sign (l ++ [c]) = ((sign l).1, (sign l).2 ++ [c]) := by
  fun_cases sign l with
  | case1 rest => rfl
  | case2 l hminus =>
    rw [sign]
    exact append_ne_cons hc (by decide) hminus

theorem leaves_numeral? (hc : c ∈ white) : Leaves c numeral? := by
  intro l
  rw [numeral?_eq, numeral?_eq, sign_append hc]
  dsimp only
  rw [digits_append hc]
  split
  · rfl
  · rw [behindWhole, behindWhole, leaves_fraction? hc]
    rcases fraction? (digits (sign l).2).2 with _ | ⟨fraction, rest⟩
    · rfl
    · dsimp only [Option.map_some, Option.bind_some]
      rw [leaves_exponent? hc]
      rcases exponent? rest with _ | ⟨exponent, rest'⟩
      · rfl
      · rfl

theorem skip_append_of_nil (hc : c ∈ white) {l : List Char} (hl : skip l = []) :
    skip (l ++ [c]) = [] := by
  have hone : skip [c] = [] := by
    rcases white_cases hc with rfl | rfl | rfl | rfl <;> rfl
  rw [skip] at hl hone ⊢
  rw [List.dropWhile_append, hl, hone]
  rfl

theorem skip_append_of_cons {d : Char} {l rest : List Char} (hl : skip l = d :: rest) :
    skip (l ++ [c]) = d :: rest ++ [c] := by
  rw [skip] at hl ⊢
  rw [List.dropWhile_append, hl]
  rfl

/-- What leaves white space behind a list does so behind what is skipped as well. -/
theorem Leaves.skip {α : Type} {read : Reads α} (hread : Leaves c read) (hc : c ∈ white)
    (hnil : read [] = none) (l : List Char) :
    read (skip (l ++ [c])) = (read (skip l)).map fun p => (p.1, p.2 ++ [c]) := by
  cases hl : Json.skip l with
  | nil => rw [skip_append_of_nil hc hl, hnil, Option.map_none]
  | cons d rest => rw [skip_append_of_cons hl, hread]

theorem afterColon?_append (hc : c ∈ white) (l : List Char) :
    afterColon? (l ++ [c]) = (afterColon? l).map (· ++ [c]) := by
  fun_cases afterColon? l with
  | case1 rest => rfl
  | case2 l hcolon =>
    rw [afterColon?, Option.map_none]
    exact append_ne_cons hc (by decide) hcolon

theorem leaves_key? (hc : c ∈ white) : Leaves c key? := by
  intro l
  fun_cases key? l with
  | case1 rest =>
    rw [List.cons_append, key?, leaves_string? hc]
    rcases string? [] rest with _ | ⟨key, afterKey⟩
    · rfl
    · dsimp only [Option.map_some, Option.bind_some]
      have hcolon : afterColon? (skip (afterKey ++ [c]))
          = (afterColon? (skip afterKey)).map (· ++ [c]) := by
        cases hskip : skip afterKey with
        | nil => rw [skip_append_of_nil hc hskip]; rfl
        | cons d after => rw [skip_append_of_cons hskip, afterColon?_append hc]
      rw [hcolon, Option.map_map, Option.map_map]
      rfl
  | case2 l hquote =>
    rw [key?, Option.map_none]
    exact append_ne_cons hc (by decide) hquote

theorem leaves_opened (hc : c ∈ white) {close : Char} (hclose : close ∉ white) (empty : Written)
    {more : Reads Written} (hmore : Leaves c more) : Leaves c (opened close empty more) := by
  intro l
  rcases l with _ | ⟨d, l⟩
  · change (if c = close then some (empty, []) else more [c]) = (more []).map _
    rw [if_neg (ne_of_white hc hclose)]
    exact hmore []
  · rw [List.cons_append, opened, opened]
    split
    · rfl
    · exact hmore (d :: l)

theorem leaves_behind (hc : c ∈ white) {close : Char} (hclose : close ∉ white) (all : Written)
    {more : Reads Written} (hmore : Leaves c more) : Leaves c (behind close all more) := by
  intro l
  rcases l with _ | ⟨d, l⟩
  · change (if c = ',' then more [] else if c = close then some (all, []) else none) = none
    rw [if_neg (ne_of_white hc (by decide)), if_neg (ne_of_white hc hclose)]
  · rw [List.cons_append, behind, behind]
    split
    · exact hmore l
    · split
      · rfl
      · rfl

theorem leaves_valueBy (hc : c ∈ white) {items members : Reads Written} (hitems : Leaves c items)
    (hmembers : Leaves c members) (hitemsNil : items [] = none) (hmembersNil : members [] = none) :
    Leaves c (valueBy items members) := by
  intro l
  have hword (w : Written) {word : List Char} (hword : (white.all fun d => d ∉ word) = true)
      (rest : List Char) :
      (word? word (rest ++ [c])).map (fun rest => (w, rest))
        = ((word? word rest).map fun rest => (w, rest)).map fun p => (p.1, p.2 ++ [c]) := by
    have hfree : c ∉ word := of_decide_eq_true (List.all_eq_true.mp hword c hc)
    rw [word?_append hfree, Option.map_map, Option.map_map]
    rfl
  fun_cases valueBy items members l with
  | case1 rest =>
    rw [List.cons_append, valueBy]
    exact (leaves_opened hc (by decide) _ hmembers).skip hc hmembersNil rest
  | case2 rest =>
    rw [List.cons_append, valueBy]
    exact (leaves_opened hc (by decide) _ hitems).skip hc hitemsNil rest
  | case3 rest =>
    rw [List.cons_append, valueBy, leaves_string? hc, Option.map_map, Option.map_map]
    rfl
  | case4 rest => exact hword .null (by decide) rest
  | case5 rest => exact hword (.bool true) (by decide) rest
  | case6 rest => exact hword (.bool false) (by decide) rest
  | case7 l hbrace hbracket hquote hn ht hf =>
    rw [valueBy, leaves_numeral? hc, Option.map_map, Option.map_map]
    · rfl
    · exact append_ne_cons hc (by decide) hbrace
    · exact append_ne_cons hc (by decide) hbracket
    · exact append_ne_cons hc (by decide) hquote
    · exact append_ne_cons hc (by decide) hn
    · exact append_ne_cons hc (by decide) ht
    · exact append_ne_cons hc (by decide) hf

theorem written?_nil (fuel : Nat) : written? fuel [] = none :=
  written?_of_blank (by simp) fuel

theorem items?_nil (fuel : Nat) (acc : List Written) : items? fuel acc [] = none := by
  cases fuel with
  | zero => rfl
  | succ fuel => rw [items?_succ, written?_nil, Option.bind_none]

theorem members?_nil (fuel : Nat) (acc : List (List Unit16 × Written)) :
    members? fuel acc [] = none := by
  cases fuel with
  | zero => rfl
  | succ fuel => rfl

/-- White space behind a value is left behind it. -/
theorem leaves_read (hc : c ∈ white) (fuel : Nat) :
    Leaves c (written? fuel) ∧ (∀ acc, Leaves c (items? fuel acc)) ∧
    ∀ acc, Leaves c (members? fuel acc) := by
  induction fuel with
  | zero => exact ⟨fun _ => rfl, fun _ _ => rfl, fun _ _ => rfl⟩
  | succ fuel ih =>
    obtain ⟨hwritten, hitems, hmembers⟩ := ih
    refine ⟨fun l => ?_, fun acc l => ?_, fun acc l => ?_⟩
    · rw [written?_succ, written?_succ]
      have hvalue := leaves_valueBy hc (hitems []) (hmembers []) (items?_nil fuel [])
        (members?_nil fuel [])
      exact hvalue.skip hc rfl l
    · rw [items?_succ, items?_succ, hwritten]
      rcases written? fuel l with _ | ⟨item, rest⟩
      · rfl
      · have hclose : ']' ∉ white := by decide
        have hbehind := leaves_behind hc hclose (.list (item :: acc).reverse) (hitems (item :: acc))
        exact hbehind.skip hc rfl rest
    · rw [members?_succ, members?_succ, (leaves_key? hc).skip hc rfl]
      rcases key? (skip l) with _ | ⟨key, afterKey⟩
      · rfl
      · dsimp only [Option.map_some, Option.bind_some]
        rw [hwritten]
        rcases written? fuel afterKey with _ | ⟨value, rest⟩
        · rfl
        · have hclose : '\x7d' ∉ white := by decide
          have hbehind := leaves_behind hc hclose (.object ((key, value) :: acc).reverse)
            (hmembers ((key, value) :: acc))
          exact hbehind.skip hc rfl rest

end Behind

/-! ### Trimming -/

theorem isBlank_of_white {c : Char} (hc : c ∈ white) : Text.isBlank c = true := by
  rcases white_cases hc with rfl | rfl | rfl | rfl <;> decide

theorem forall_white_of_skip {l : List Char} (h : skip l = []) : ∀ c ∈ l, c ∈ white := by
  intro c hc
  have hone := List.dropWhile_eq_nil_iff.mp h c hc
  simpa [white, or_assoc] using hone

theorem written?_drop {fuel : Nat} {l rest : List Char} {w : Written}
    (hrest : ∀ c ∈ rest, c ∈ white) (h : written? fuel (l ++ rest) = some (w, rest)) :
    written? fuel l = some (w, []) := by
  induction rest using List.reverseRecOn with
  | nil => rwa [List.append_nil] at h
  | append_singleton rest c ih =>
    rw [← List.append_assoc, (leaves_read (hrest c (by simp)) fuel).1] at h
    obtain ⟨⟨w', rest'⟩, hread, hpair⟩ := Option.map_eq_some_iff.mp h
    have hw : w' = w := congrArg Prod.fst hpair
    have hrest' : rest' = rest := List.append_cancel_right (congrArg Prod.snd hpair)
    refine ih (fun d hd => hrest d (List.mem_append_left _ hd)) ?_
    rw [hread, hw, hrest']

theorem numeral?_starts {l rest : List Char} {n : Numeral} (h : numeral? l = some (n, rest)) :
    ∃ c tail, l = c :: tail ∧ Text.isBlank c = false := by
  rw [numeral?_eq] at h
  split at h
  · cases h
  · next hwhole =>
    rcases l with _ | ⟨c, tail⟩
    · exact absurd (.inl rfl) hwhole
    · refine ⟨c, tail, rfl, ?_⟩
      by_cases hminus : c = '-'
      · rw [hminus]
        decide
      · refine Text.isBlank_of_isDigit ?_
        by_contra hdigit
        refine hwhole (.inl ?_)
        have hsign : sign (c :: tail) = (false, c :: tail) := by
          rw [sign]
          exact fun rest heq => hminus (List.cons.inj heq).1
        simp [hsign, digits, hdigit]

theorem valueBy_starts {items members : Reads Written} {l : List Char} {p : Written × List Char}
    (h : valueBy items members l = some p) : ∃ c tail, l = c :: tail ∧ Text.isBlank c = false := by
  unfold valueBy at h
  split at h
  case h_7 =>
    obtain ⟨⟨n, rest⟩, hnumeral, -⟩ := Option.map_eq_some_iff.mp h
    exact numeral?_starts hnumeral
  all_goals exact ⟨_, _, rfl, by decide⟩

/-- Skipping and trimming agree on what stands before a value. -/
theorem dropWhile_isBlank_eq_skip {l tail : List Char} {c : Char} (hskip : skip l = c :: tail)
    (hc : Text.isBlank c = false) : l.dropWhile Text.isBlank = skip l := by
  have hsplit :
      l.takeWhile (fun c => c == ' ' || c == '\t' || c == '\n' || c == '\r') ++ skip l = l :=
    List.takeWhile_append_dropWhile
  have hblank : ∀ d ∈ l.takeWhile (fun c => c == ' ' || c == '\t' || c == '\n' || c == '\r'),
      Text.isBlank d = true := by
    intro d hd
    have hone := List.mem_takeWhile_imp hd
    exact isBlank_of_white (by simpa [white, or_assoc] using hone)
  rw [hskip] at hsplit ⊢
  rw [← hsplit, List.dropWhile_append_of_pos hblank, List.dropWhile_cons_of_neg (by simp [hc])]

/-- A text that holds a value holds the same value when it is trimmed. -/
theorem Written.ofText?_trim {s : String} {w : Written} (h : ofText? s = some w) :
    ofText? (Text.trim s) = some w := by
  obtain ⟨fuel, rest, hread, hrest⟩ := Written.ofText?_eq_some_iff.mp h
  obtain ⟨fuel, rfl⟩ : ∃ n, fuel = n + 1 := by
    cases fuel with
    | zero => cases hread
    | succ n => exact ⟨n, rfl⟩
  have hvalue := hread
  rw [written?_succ] at hvalue
  obtain ⟨first, tail, hskip, hfirst⟩ := valueBy_starts hvalue
  -- the front: skipping again changes nothing, and blanks there are white space
  have hfront : written? (fuel + 1) (skip s.toList) = some (w, rest) := by
    rw [written?_succ, skip, skip, List.dropWhile_idempotent, ← skip, hvalue]
  -- the end: all that is left is white space, and what stands before it is no blank
  obtain ⟨last, hlast, pre, hpre⟩ := written?_closes hfront
  have hall : ∀ c ∈ rest, c ∈ white := forall_white_of_skip hrest
  have hwhole : skip s.toList = pre ++ [last] ++ rest := by
    rw [← hpre, List.append_assoc, List.singleton_append]
  have htrim : Text.trimChars s.toList = pre ++ [last] := by
    rw [Text.trimChars, dropWhile_isBlank_eq_skip hskip hfirst, hwhole,
      Text.dropEnd_append_of_forall fun c hc => isBlank_of_white (hall c hc),
      Text.dropEnd_concat_of_neg hlast]
  rw [hwhole] at hfront
  refine Written.ofText?_eq_some_iff.mpr ⟨fuel + 1, [], ?_, rfl⟩
  rw [Text.trim, String.toList_ofList, htrim]
  exact written?_drop hall hfront

theorem ofText?_trim {s : String} {v : Json} (h : ofText? s = some v) :
    ofText? (Text.trim s) = some v := by
  obtain ⟨w, hw, hv⟩ := Option.bind_eq_some_iff.mp h
  rw [ofText?, Written.ofText?_trim hw, Option.bind_some, hv]

end Gatehouse.Json
