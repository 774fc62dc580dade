import Gatehouse.Proofs.Json.Edges

/-!
# The reader of JSON, step by step

The reader counts its steps. What it takes of a text ends in a character that is no blank, so every
step makes progress, and two steps for each character that is taken are enough: whether a text is
read as a tree does not depend on the number of steps that are allowed.
-/

namespace Gatehouse.Json

/-! ### What a reader takes -/

/-- `rest` is what is left of `l` behind a character that is no blank. -/
def Closes (l rest : List Char) : Prop :=
  ∃ c, Text.isBlank c = false ∧ c :: rest <:+ l

theorem Closes.suffix {l rest : List Char} (h : Closes l rest) : rest <:+ l := by
  obtain ⟨c, -, hc⟩ := h
  exact (List.suffix_cons c rest).trans hc

theorem Closes.length_lt {l rest : List Char} (h : Closes l rest) : rest.length < l.length := by
  obtain ⟨c, -, hc⟩ := h
  exact hc.length_le

theorem Closes.of_suffix {l l' rest : List Char} (h : Closes l rest) (hl : l <:+ l') :
    Closes l' rest := by
  obtain ⟨c, hblank, hc⟩ := h
  exact ⟨c, hblank, hc.trans hl⟩

theorem closes_cons {c : Char} (hc : Text.isBlank c = false) (rest : List Char) :
    Closes (c :: rest) rest :=
  ⟨c, hc, List.suffix_rfl⟩

theorem skip_suffix (l : List Char) : skip l <:+ l :=
  List.dropWhile_suffix _

theorem string?_closes {acc units : List Unit16} {l rest : List Char}
    (h : string? acc l = some (units, rest)) : Closes l rest := by
  induction acc, l using string?.induct with
  | case1 acc => simp [string?] at h
  | case2 acc tail =>
    rw [string?, Option.some.injEq, Prod.mk.injEq] at h
    exact h.2 ▸ closes_cons (by decide) tail
  | case3 acc a b c d tail n hn ih =>
    rw [string?, hn] at h
    exact (ih h).of_suffix ⟨['\\', 'u', a, b, c, d], rfl⟩
  | case4 acc a b c d tail hn =>
    simp [string?, hn] at h
  | case5 acc e tail hu c hc ih =>
    rw [string?.eq_4 _ _ _ hu, hc] at h
    exact (ih h).of_suffix ⟨['\\', e], rfl⟩
  | case6 acc e tail hu hc =>
    rw [string?.eq_4 _ _ _ hu, hc] at h
    cases h
  | case7 acc c tail hquote hu hb hlow =>
    rw [string?.eq_5 _ _ _ hquote hu hb, if_pos hlow] at h
    cases h
  | case8 acc c tail hquote hu hb hlow ih =>
    rw [string?.eq_5 _ _ _ hquote hu hb, if_neg hlow] at h
    exact (ih h).of_suffix ⟨[c], rfl⟩

theorem word?_closes (word : List Char) {l rest : List Char} {c : Char}
    (hc : Text.isBlank c = false) (h : word? (word ++ [c]) l = some rest) : Closes l rest := by
  induction word generalizing l with
  | nil =>
    cases l with
    | nil => simp [word?] at h
    | cons d l =>
      simp only [List.nil_append, word?] at h
      split at h
      · next hcd =>
        rw [← hcd, ← Option.some.inj h]
        exact closes_cons hc l
      · cases h
  | cons d word ih =>
    cases l with
    | nil => simp [word?] at h
    | cons e l =>
      rw [List.cons_append, word?] at h
      split at h
      · exact (ih h).of_suffix (List.suffix_cons e l)
      · cases h

theorem closes_digits {l : List Char} (h : (digits l).1 ≠ []) : Closes l (digits l).2 := by
  have hall : (digits l).1 ++ (digits l).2 = l := List.takeWhile_append_dropWhile
  have hlast : ((digits l).1.getLast h).isDigit = true :=
    List.mem_takeWhile_imp (List.getLast_mem h)
  refine ⟨(digits l).1.getLast h, Text.isBlank_of_isDigit hlast, (digits l).1.dropLast, ?_⟩
  rw [← List.singleton_append, ← List.append_assoc, List.dropLast_append_getLast, hall]

theorem fraction?_cases {l rest : List Char} {fraction : Option (List Char)}
    (h : fraction? l = some (fraction, rest)) : rest = l ∨ Closes l rest := by
  unfold fraction? at h
  split at h
  · next tail =>
    split at h
    · cases h
    · next hne =>
      rw [Option.some.injEq, Prod.mk.injEq] at h
      rw [← h.2]
      exact .inr ((closes_digits hne).of_suffix (List.suffix_cons _ tail))
  · rw [Option.some.injEq, Prod.mk.injEq] at h
    exact .inl h.2.symm

/-- The sign of an exponent, `true` if it is a minus. -/
def exponentSign : List Char → Bool × List Char
  | '-' :: rest => (true, rest)
  | '+' :: rest => (false, rest)
  | l => (false, l)

theorem exponentDigits?_eq (l : List Char) :
    exponentDigits? l =
      if (digits (exponentSign l).2).1 = [] then none
      else some (some ((exponentSign l).1, (digits (exponentSign l).2).1),
        (digits (exponentSign l).2).2) := by
  unfold exponentDigits?
  split
  · rfl
  · rfl
  · rw [exponentSign]
    all_goals first | rfl | assumption

theorem exponentSign_suffix (l : List Char) : (exponentSign l).2 <:+ l := by
  unfold exponentSign
  split
  · exact List.suffix_cons ..
  · exact List.suffix_cons ..
  · exact List.suffix_rfl

theorem exponentDigits?_closes {l rest : List Char} {exponent : Option (Bool × List Char)}
    (h : exponentDigits? l = some (exponent, rest)) : Closes l rest := by
  rw [exponentDigits?_eq] at h
  split at h
  · cases h
  · next hne =>
    rw [Option.some.injEq, Prod.mk.injEq] at h
    rw [← h.2]
    exact (closes_digits hne).of_suffix (exponentSign_suffix l)

theorem exponent?_cases {l rest : List Char} {exponent : Option (Bool × List Char)}
    (h : exponent? l = some (exponent, rest)) : rest = l ∨ Closes l rest := by
  unfold exponent? at h
  split at h
  · exact .inr ((exponentDigits?_closes h).of_suffix (List.suffix_cons ..))
  · exact .inr ((exponentDigits?_closes h).of_suffix (List.suffix_cons ..))
  · rw [Option.some.injEq, Prod.mk.injEq] at h
    exact .inl h.2.symm

def sign : List Char → Bool × List Char
  | '-' :: rest => (true, rest)
  | l => (false, l)

theorem sign_suffix (l : List Char) : (sign l).2 <:+ l := by
  unfold sign
  split
  · exact List.suffix_cons ..
  · exact List.suffix_rfl

/-- The fraction and the exponent behind the digits of a numeral. -/
def behindWhole (negative : Bool) (whole : List Char) (l : List Char) :
    Option (Numeral × List Char) :=
  (fraction? l).bind fun (fraction, rest) =>
    (exponent? rest).map fun (exponent, rest) => (⟨negative, whole, fraction, exponent⟩, rest)

theorem behindWhole_eq (negative : Bool) (whole l : List Char) :
    behindWhole negative whole l
      = match fraction? l with
        | none => none
        | some (fraction, rest) =>
          match exponent? rest with
          | none => none
          | some (exponent, rest) => some (⟨negative, whole, fraction, exponent⟩, rest) := by
  rw [behindWhole]
  rcases fraction? l with _ | ⟨fraction, rest⟩
  · rfl
  · dsimp only [Option.bind_some]
    rcases exponent? rest with _ | ⟨exponent, rest'⟩
    · rfl
    · rfl

theorem numeral?_eq (l : List Char) :
    numeral? l =
      if (digits (sign l).2).1 = [] ∨
          ((digits (sign l).2).1.head? = some '0' ∧ (digits (sign l).2).1.length ≠ 1) then none
      else behindWhole (sign l).1 (digits (sign l).2).1 (digits (sign l).2).2 := by
  rw [behindWhole_eq]
  unfold numeral?
  split
  · rfl
  · rw [sign]
    all_goals first | rfl | assumption

theorem numeral?_closes {l rest : List Char} {n : Numeral}
    (h : numeral? l = some (n, rest)) : Closes l rest := by
  rw [numeral?_eq] at h
  split at h
  · cases h
  · next hwhole =>
    have hclose : Closes l (digits (sign l).2).2 :=
      (closes_digits fun hnil => hwhole (.inl hnil)).of_suffix (sign_suffix l)
    obtain ⟨⟨fraction, afterFraction⟩, hfraction, hbehind⟩ := Option.bind_eq_some_iff.mp h
    obtain ⟨⟨exponent, afterExponent⟩, hexponent, hpair⟩ := Option.map_eq_some_iff.mp hbehind
    have hclose : Closes l afterFraction := by
      rcases fraction?_cases hfraction with rfl | hfraction
      · exact hclose
      · exact hfraction.of_suffix hclose.suffix
    rw [← (Prod.mk.inj hpair).2]
    rcases exponent?_cases hexponent with rfl | hexponent
    · exact hclose
    · exact hexponent.of_suffix hclose.suffix

/-! ### Steps

The reader again, with what it does between one value and the next in pieces. -/

/-- A function that reads something at the start of a list. -/
abbrev Reads (α : Type) := List Char → Option (α × List Char)

/-- What stands behind an opening bracket: the closing one, or something more. -/
def opened (close : Char) (empty : Written) (more : Reads Written) : Reads Written
  | [] => more []
  | c :: rest => if c = close then some (empty, rest) else more (c :: rest)

/-- What stands behind an item: a comma and something more, or the closing bracket. -/
def behind (close : Char) (all : Written) (more : Reads Written) : Reads Written
  | [] => none
  | c :: rest => if c = ',' then more rest else if c = close then some (all, rest) else none

def afterColon? : List Char → Option (List Char)
  | ':' :: rest => some rest
  | _ => none

/-- A key from its opening quote on, and the colon behind it. -/
def key? : Reads (List Unit16)
  | '"' :: rest => (string? [] rest).bind fun (key, rest) =>
    (afterColon? (skip rest)).map fun rest => (key, rest)
  | _ => none

/-- A value from its first character on, by what is read behind the two opening brackets. -/
def valueBy (items members : Reads Written) : Reads Written
  | '\x7b' :: rest => opened '\x7d' (.object []) members (skip rest)
  | '[' :: rest => opened ']' (.list []) items (skip rest)
  | '"' :: rest => (string? [] rest).map fun (s, rest) => (.text s, rest)
  | 'n' :: rest => (word? ['u', 'l', 'l'] rest).map fun rest => (.null, rest)
  | 't' :: rest => (word? ['r', 'u', 'e'] rest).map fun rest => (.bool true, rest)
  | 'f' :: rest => (word? ['a', 'l', 's', 'e'] rest).map fun rest => (.bool false, rest)
  | l => (numeral? l).map fun (n, rest) => (.number n, rest)

theorem opened_of_ne {close : Char} {l : List Char} (h : ∀ rest, l ≠ close :: rest)
    (empty : Written) (more : Reads Written) : opened close empty more l = more l := by
  cases l with
  | nil => rfl
  | cons c rest =>
    rw [opened, if_neg]
    rintro rfl
    exact h rest rfl

theorem behind_of_ne {close : Char} {l : List Char} (hcomma : ∀ rest, l ≠ ',' :: rest)
    (hclose : ∀ rest, l ≠ close :: rest) (all : Written) (more : Reads Written) :
    behind close all more l = none := by
  cases l with
  | nil => rfl
  | cons c rest =>
    rw [behind, if_neg, if_neg]
    · rintro rfl
      exact hclose rest rfl
    · rintro rfl
      exact hcomma rest rfl

theorem written?_succ (fuel : Nat) (l : List Char) :
    written? (fuel + 1) l = valueBy (items? fuel []) (members? fuel []) (skip l) := by
  rw [written?]
  generalize skip l = l'
  split
  case h_1 rest =>
    change _ = opened '\x7d' (.object []) (members? fuel []) (skip rest)
    split
    · next hskip => rw [hskip]; rfl
    · next hne => rw [opened_of_ne hne]
  case h_2 rest =>
    change _ = opened ']' (.list []) (items? fuel []) (skip rest)
    split
    · next hskip => rw [hskip]; rfl
    · next hne => rw [opened_of_ne hne]
  case h_7 =>
    rw [valueBy]
    all_goals assumption
  all_goals rfl

theorem items?_succ (fuel : Nat) (acc : List Written) (l : List Char) :
    items? (fuel + 1) acc l = (written? fuel l).bind fun (item, rest) =>
      behind ']' (.list (item :: acc).reverse) (items? fuel (item :: acc)) (skip rest) := by
  rw [items?]
  rcases written? fuel l with _ | ⟨item, rest⟩
  · rfl
  · change _ = behind ']' (.list (item :: acc).reverse) (items? fuel (item :: acc)) (skip rest)
    dsimp only
    split
    · next hskip => rw [hskip]; rfl
    · next hskip => rw [hskip]; rfl
    · next hcomma hclose => rw [behind_of_ne hcomma hclose]

theorem members?_succ (fuel : Nat) (acc : List (List Unit16 × Written)) (l : List Char) :
    members? (fuel + 1) acc l = (key? (skip l)).bind fun (key, rest) =>
      (written? fuel rest).bind fun (value, rest) =>
        behind '\x7d' (.object ((key, value) :: acc).reverse)
          (members? fuel ((key, value) :: acc)) (skip rest) := by
  rw [members?]
  generalize skip l = l'
  split
  · next rest =>
    rw [key?]
    rcases string? [] rest with _ | ⟨key, afterKey⟩
    · rfl
    · rw [Option.bind_some]
      dsimp only
      generalize skip afterKey = l'
      split
      · next afterColon =>
        change _ = (written? fuel afterColon).bind fun (value, rest) =>
          behind '\x7d' (.object ((key, value) :: acc).reverse)
            (members? fuel ((key, value) :: acc)) (skip rest)
        rcases written? fuel afterColon with _ | ⟨value, afterValue⟩
        · rfl
        · change _ = behind '\x7d' (.object ((key, value) :: acc).reverse)
            (members? fuel ((key, value) :: acc)) (skip afterValue)
          dsimp only
          split
          · next hskip => rw [hskip]; rfl
          · next hskip => rw [hskip]; rfl
          · next hcomma hclose => rw [behind_of_ne hcomma hclose]
      · next hcolon =>
        rw [afterColon?]
        · rfl
        · exact hcolon
  · next hquote =>
    rw [key?]
    · rfl
    · exact hquote

theorem items?_succ_eq_some_iff {fuel : Nat} {acc : List Written} {l : List Char}
    {p : Written × List Char} :
    items? (fuel + 1) acc l = some p ↔ ∃ item rest, written? fuel l = some (item, rest) ∧
      behind ']' (.list (item :: acc).reverse) (items? fuel (item :: acc)) (skip rest)
        = some p := by
  rw [items?_succ, Option.bind_eq_some_iff, Prod.exists]

theorem members?_succ_eq_some_iff {fuel : Nat} {acc : List (List Unit16 × Written)}
    {l : List Char} {p : Written × List Char} :
    members? (fuel + 1) acc l = some p ↔ ∃ key afterKey value rest,
      key? (skip l) = some (key, afterKey) ∧ written? fuel afterKey = some (value, rest) ∧
      behind '\x7d' (.object ((key, value) :: acc).reverse)
        (members? fuel ((key, value) :: acc)) (skip rest) = some p := by
  simp only [members?_succ, Option.bind_eq_some_iff, Prod.exists, exists_and_left]

/-! ### Progress -/

section Progress

variable {rest : List Char} {w : Written} {close : Char}

theorem opened_closes {empty : Written} {more : Reads Written}
    (hclose : Text.isBlank close = false)
    (hmore : ∀ l, more l = some (w, rest) → Closes l rest) {l : List Char}
    (h : opened close empty more l = some (w, rest)) : Closes l rest := by
  cases l with
  | nil => exact hmore [] h
  | cons c tail =>
    rw [opened] at h
    split at h
    · next hc =>
      rw [Option.some.injEq, Prod.mk.injEq] at h
      rw [hc, ← h.2]
      exact closes_cons hclose tail
    · exact hmore _ h

theorem behind_closes {all : Written} {more : Reads Written}
    (hclose : Text.isBlank close = false)
    (hmore : ∀ l, more l = some (w, rest) → Closes l rest) {l : List Char}
    (h : behind close all more l = some (w, rest)) : Closes l rest := by
  cases l with
  | nil => cases h
  | cons c tail =>
    rw [behind] at h
    split at h
    · exact (hmore tail h).of_suffix (List.suffix_cons c tail)
    · split at h
      · next hc =>
        rw [Option.some.injEq, Prod.mk.injEq] at h
        rw [hc, ← h.2]
        exact closes_cons hclose tail
      · cases h

theorem key?_closes {l : List Char} {key : List Unit16} (h : key? l = some (key, rest)) :
    Closes l rest := by
  unfold key? at h
  split at h
  · next tail =>
    obtain ⟨⟨units, afterKey⟩, hkey, hcolon⟩ := Option.bind_eq_some_iff.mp h
    obtain ⟨afterColon, hafter, hpair⟩ := Option.map_eq_some_iff.mp hcolon
    rw [← (Prod.mk.inj hpair).2]
    have hskip : Closes (skip afterKey) afterColon := by
      unfold afterColon? at hafter
      split at hafter
      · next hstart =>
        rw [hstart, ← Option.some.inj hafter]
        exact closes_cons (by decide) _
      · cases hafter
    have hsuffix : skip afterKey <:+ '"' :: tail :=
      ((skip_suffix afterKey).trans (string?_closes hkey).suffix).trans (List.suffix_cons ..)
    exact hskip.of_suffix hsuffix
  · cases h

theorem valueBy_closes {items members : Reads Written}
    (hitems : ∀ l, items l = some (w, rest) → Closes l rest)
    (hmembers : ∀ l, members l = some (w, rest) → Closes l rest) {l : List Char}
    (h : valueBy items members l = some (w, rest)) : Closes l rest := by
  unfold valueBy at h
  split at h
  · next tail =>
    have hinner := opened_closes (by decide) hmembers h
    exact hinner.of_suffix ((skip_suffix tail).trans (List.suffix_cons ..))
  · next tail =>
    have hinner := opened_closes (by decide) hitems h
    exact hinner.of_suffix ((skip_suffix tail).trans (List.suffix_cons ..))
  · obtain ⟨⟨units, after⟩, htext, hpair⟩ := Option.map_eq_some_iff.mp h
    rw [← (Prod.mk.inj hpair).2]
    exact (string?_closes htext).of_suffix (List.suffix_cons ..)
  · obtain ⟨after, hword, hpair⟩ := Option.map_eq_some_iff.mp h
    rw [← (Prod.mk.inj hpair).2]
    exact (word?_closes ['u', 'l'] (by decide) hword).of_suffix (List.suffix_cons ..)
  · obtain ⟨after, hword, hpair⟩ := Option.map_eq_some_iff.mp h
    rw [← (Prod.mk.inj hpair).2]
    exact (word?_closes ['r', 'u'] (by decide) hword).of_suffix (List.suffix_cons ..)
  · obtain ⟨after, hword, hpair⟩ := Option.map_eq_some_iff.mp h
    rw [← (Prod.mk.inj hpair).2]
    exact (word?_closes ['a', 'l', 's'] (by decide) hword).of_suffix (List.suffix_cons ..)
  · obtain ⟨⟨n, after⟩, hnumeral, hpair⟩ := Option.map_eq_some_iff.mp h
    rw [← (Prod.mk.inj hpair).2]
    exact numeral?_closes hnumeral

theorem closes_of_read (fuel : Nat) :
    (∀ l w rest, written? fuel l = some (w, rest) → Closes l rest) ∧
    (∀ acc l w rest, items? fuel acc l = some (w, rest) → Closes l rest) ∧
    ∀ acc l w rest, members? fuel acc l = some (w, rest) → Closes l rest := by
  induction fuel with
  | zero => simp [written?, items?, members?]
  | succ fuel ih =>
    obtain ⟨hwritten, hitems, hmembers⟩ := ih
    refine ⟨?_, ?_, ?_⟩
    · intro l w rest h
      rw [written?_succ] at h
      have hvalue := valueBy_closes (fun l' => hitems [] l' w rest)
        (fun l' => hmembers [] l' w rest) h
      exact hvalue.of_suffix (skip_suffix l)
    · intro acc l w rest h
      obtain ⟨item, after, hitem, hbehind⟩ := items?_succ_eq_some_iff.mp h
      have hclose := behind_closes (by decide) (fun l' => hitems (item :: acc) l' w rest) hbehind
      exact hclose.of_suffix ((skip_suffix after).trans (hwritten _ _ _ hitem).suffix)
    · intro acc l w rest h
      obtain ⟨key, afterKey, value, after, hkey, hvalue, hbehind⟩ :=
        members?_succ_eq_some_iff.mp h
      have hclose := behind_closes (by decide)
        (fun l' => hmembers ((key, value) :: acc) l' w rest) hbehind
      have hsuffix : after <:+ skip l :=
        (hwritten _ _ _ hvalue).suffix.trans (key?_closes hkey).suffix
      exact hclose.of_suffix (((skip_suffix after).trans hsuffix).trans (skip_suffix l))

theorem written?_closes {fuel : Nat} {l : List Char} (h : written? fuel l = some (w, rest)) :
    Closes l rest :=
  (closes_of_read fuel).1 l w rest h

theorem items?_closes {fuel : Nat} {acc : List Written} {l : List Char}
    (h : items? fuel acc l = some (w, rest)) : Closes l rest :=
  (closes_of_read fuel).2.1 acc l w rest h

theorem members?_closes {fuel : Nat} {acc : List (List Unit16 × Written)} {l : List Char}
    (h : members? fuel acc l = some (w, rest)) : Closes l rest :=
  (closes_of_read fuel).2.2 acc l w rest h

end Progress

/-! ### Enough steps -/

section Enough

variable {rest : List Char} {w : Written} {l : List Char}

theorem opened_congr {close : Char} {empty : Written} {more more' : Reads Written}
    (hmore : ∀ l', l'.length ≤ l.length → more l' = some (w, rest) → more' l' = some (w, rest))
    (h : opened close empty more l = some (w, rest)) :
    opened close empty more' l = some (w, rest) := by
  cases l with
  | nil => exact hmore [] (Nat.le_refl _) h
  | cons c tail =>
    rw [opened] at h ⊢
    split at h
    · next hc => rw [if_pos hc, h]
    · next hc => rw [if_neg hc, hmore _ (Nat.le_refl _) h]

theorem behind_congr {close : Char} {all : Written} {more more' : Reads Written}
    (hmore : ∀ l', l'.length < l.length → more l' = some (w, rest) → more' l' = some (w, rest))
    (h : behind close all more l = some (w, rest)) :
    behind close all more' l = some (w, rest) := by
  cases l with
  | nil => cases h
  | cons c tail =>
    rw [behind] at h ⊢
    split at h
    · next hc => rw [if_pos hc, hmore tail (Nat.lt_succ_self _) h]
    · next hc => rw [if_neg hc, h]

theorem valueBy_congr {items items' members members' : Reads Written}
    (hitems : ∀ l', l'.length < l.length → items l' = some (w, rest) →
      items' l' = some (w, rest))
    (hmembers : ∀ l', l'.length < l.length → members l' = some (w, rest) →
      members' l' = some (w, rest))
    (h : valueBy items members l = some (w, rest)) :
    valueBy items' members' l = some (w, rest) := by
  unfold valueBy at h ⊢
  split at h
  · next tail =>
    refine opened_congr (fun l' hl' => hmembers l' ?_) h
    exact Nat.lt_succ_of_le (Nat.le_trans hl' (skip_suffix tail).length_le)
  · next tail =>
    refine opened_congr (fun l' hl' => hitems l' ?_) h
    exact Nat.lt_succ_of_le (Nat.le_trans hl' (skip_suffix tail).length_le)
  all_goals exact h

/-- Two steps for each character that is taken are enough. -/
def Suffices (read : Nat → Reads Written) (fuel : Nat) : Prop :=
  ∀ l w rest, read fuel l = some (w, rest) → ∀ more, 2 * l.length ≤ more + 2 * rest.length →
    read more l = some (w, rest)

theorem suffices_of_read (fuel : Nat) :
    Suffices written? fuel ∧ (∀ acc, Suffices (fun n => items? n acc) fuel) ∧
    ∀ acc, Suffices (fun n => members? n acc) fuel := by
  induction fuel with
  | zero => simp [Suffices, written?, items?, members?]
  | succ fuel ih =>
    obtain ⟨hwritten, hitems, hmembers⟩ := ih
    refine ⟨?_, ?_, ?_⟩
    · intro l w rest h more hmore
      have hlt := (written?_closes h).length_lt
      have hskip := (skip_suffix l).length_le
      obtain ⟨more, rfl⟩ : ∃ n, more = n + 1 := ⟨more - 1, by omega⟩
      rw [written?_succ] at h ⊢
      refine valueBy_congr (fun l' hl' hl => ?_) (fun l' hl' hl => ?_) h
      · exact hitems [] l' w rest hl more (by omega)
      · exact hmembers [] l' w rest hl more (by omega)
    · intro acc l w rest h more hmore
      have hlt := (items?_closes h).length_lt
      obtain ⟨more, rfl⟩ : ∃ n, more = n + 1 := ⟨more - 1, by omega⟩
      obtain ⟨item, after, hitem, hbehind⟩ := items?_succ_eq_some_iff.mp h
      have hafter := (written?_closes hitem).length_lt
      have hskip := (skip_suffix after).length_le
      have hrest := (behind_closes (by decide) (fun l' => items?_closes) hbehind).length_lt
      refine items?_succ_eq_some_iff.mpr
        ⟨item, after, hwritten l item after hitem more (by omega), ?_⟩
      refine behind_congr (fun l' hl' hl => ?_) hbehind
      exact hitems (item :: acc) l' w rest hl more (by omega)
    · intro acc l w rest h more hmore
      have hlt := (members?_closes h).length_lt
      obtain ⟨more, rfl⟩ : ∃ n, more = n + 1 := ⟨more - 1, by omega⟩
      obtain ⟨key, afterKey, value, after, hkey, hvalue, hbehind⟩ :=
        members?_succ_eq_some_iff.mp h
      have hafterKey := (key?_closes hkey).length_lt
      have hskipKey := (skip_suffix l).length_le
      have hafter := (written?_closes hvalue).length_lt
      have hskip := (skip_suffix after).length_le
      have hrest := (behind_closes (by decide) (fun l' => members?_closes) hbehind).length_lt
      refine members?_succ_eq_some_iff.mpr ⟨key, afterKey, value, after, hkey,
        hwritten afterKey value after hvalue more (by omega), ?_⟩
      refine behind_congr (fun l' hl' hl => ?_) hbehind
      exact hmembers ((key, value) :: acc) l' w rest hl more (by omega)

end Enough

/-- A text is read as a tree just if some number of steps leads to it. -/
theorem Written.ofText?_eq_some_iff {s : String} {w : Written} :
    ofText? s = some w ↔
      ∃ fuel rest, written? fuel s.toList = some (w, rest) ∧ skip rest = [] := by
  constructor
  · intro h
    rw [ofText?] at h
    split at h
    · cases h
    · next w' rest hread =>
      split at h
      · next hskip =>
        rw [← Option.some.inj h]
        exact ⟨_, rest, hread, hskip⟩
      · cases h
  · rintro ⟨fuel, rest, hread, hskip⟩
    have hmore : written? (2 * s.length + 2) s.toList = some (w, rest) :=
      (suffices_of_read fuel).1 _ _ _ hread _ (by rw [String.length_toList]; omega)
    rw [ofText?, hmore]
    exact if_pos hskip

end Gatehouse.Json
