import Gatehouse.Text.Blank
import Mathlib.Data.List.DropRight
import Mathlib.Data.List.Induction

/-!
# Dropping from both ends

Dropping at the end is dropping at the start of the reversed list. Stated from the end, it removes a
last element that satisfies the predicate and stops at the first one that does not, which is also why
trimming a trimmed text changes nothing.
-/

namespace Gatehouse.Text

/-! ### Dropping at the end -/

theorem dropEnd_concat_of_pos {α : Type} {p : α → Bool} {a : α} (ha : p a = true) (l : List α) :
    dropEnd p (l ++ [a]) = dropEnd p l := by
  simp [dropEnd, ha]

theorem dropEnd_concat_of_neg {α : Type} {p : α → Bool} {a : α} (ha : p a = false) (l : List α) :
    dropEnd p (l ++ [a]) = l ++ [a] := by
  simp [dropEnd, ha]

theorem dropEnd_append_of_forall {α : Type} {p : α → Bool} {b : List α}
    (hb : ∀ x ∈ b, p x = true) (a : List α) : dropEnd p (a ++ b) = dropEnd p a := by
  have hreverse : ∀ x ∈ b.reverse, p x = true := fun x hx => hb x (List.mem_reverse.mp hx)
  rw [dropEnd, List.reverse_append, List.dropWhile_append_of_pos hreverse, dropEnd]

/-- Dropping at the end does not reach into a start that has nothing to drop there. -/
theorem dropEnd_append_of_fixed {α : Type} {p : α → Bool} {a : List α} (ha : dropEnd p a = a)
    (b : List α) : dropEnd p (a ++ b) = a ++ dropEnd p b := by
  induction b using List.reverseRecOn with
  | nil => simpa [dropEnd] using ha
  | append_singleton b x ih =>
    rw [← List.append_assoc]
    cases hx : p x with
    | true => rw [dropEnd_concat_of_pos hx, dropEnd_concat_of_pos hx, ih]
    | false => rw [dropEnd_concat_of_neg hx, dropEnd_concat_of_neg hx, List.append_assoc]

theorem dropEnd_map {α β : Type} (p : β → Bool) (f : α → β) (l : List α) :
    dropEnd p (l.map f) = (dropEnd (p ∘ f) l).map f := by
  rw [dropEnd, dropEnd, ← List.map_reverse, List.dropWhile_map, List.map_reverse]

theorem dropEnd_eq_rdropWhile {α : Type} (p : α → Bool) (l : List α) :
    dropEnd p l = l.rdropWhile p := rfl

theorem mem_of_mem_dropEnd {α : Type} {p : α → Bool} {a : α} {l : List α}
    (h : a ∈ dropEnd p l) : a ∈ l := by
  rw [dropEnd, List.mem_reverse] at h
  exact List.mem_reverse.mp ((List.dropWhile_sublist p).subset h)

/-! ### Trimming -/

/-- Dropping at the end leaves nothing to drop at the start where there was nothing. -/
theorem dropWhile_dropEnd {α : Type} {p : α → Bool} {l : List α} (h : l.dropWhile p = l) :
    (dropEnd p l).dropWhile p = dropEnd p l := by
  rw [dropEnd_eq_rdropWhile]
  rw [List.dropWhile_eq_self_iff] at h ⊢
  intro hpos
  have hprefix := List.rdropWhile_prefix p l
  have hhead := hprefix.getElem hpos
  rw [hhead]
  exact h (Nat.lt_of_lt_of_le hpos hprefix.length_le)

theorem trimChars_trimChars (l : List Char) : trimChars (trimChars l) = trimChars l := by
  have hfront : (l.dropWhile isBlank).dropWhile isBlank = l.dropWhile isBlank :=
    List.dropWhile_idempotent isBlank l
  rw [trimChars, trimChars, dropWhile_dropEnd hfront, dropEnd_eq_rdropWhile,
    dropEnd_eq_rdropWhile]
  exact List.rdropWhile_idempotent isBlank _

@[simp] theorem trim_trim (s : String) : trim (trim s) = trim s := by
  rw [trim, trim, String.toList_ofList, trimChars_trimChars]

theorem trimChars_cons {c : Char} (hc : isBlank c = true) (l : List Char) :
    trimChars (c :: l) = trimChars l := by
  rw [trimChars, trimChars, List.dropWhile_cons_of_pos hc]

theorem trimChars_concat {c : Char} (hc : isBlank c = true) (l : List Char) :
    trimChars (l ++ [c]) = trimChars l := by
  rw [trimChars, trimChars, List.dropWhile_append]
  split
  · next hempty =>
    rw [List.isEmpty_iff.mp hempty, List.dropWhile_cons_of_pos hc, List.dropWhile_nil]
  · exact dropEnd_concat_of_pos hc _

theorem trimChars_dropEnd {p : Char → Bool} (hp : ∀ c, p c = true → isBlank c = true)
    (l : List Char) : trimChars (dropEnd p l) = trimChars l := by
  induction l using List.reverseRecOn with
  | nil => rfl
  | append_singleton l c ih =>
    cases hc : p c with
    | true => rw [dropEnd_concat_of_pos hc, ih, trimChars_concat (hp c hc)]
    | false => rw [dropEnd_concat_of_neg hc]

theorem trimChars_eq_self {l : List Char} (hfirst : ∀ c, l.head? = some c → isBlank c = false)
    (hlast : ∀ c, l.getLast? = some c → isBlank c = false) : trimChars l = l := by
  have hfront : l.dropWhile isBlank = l := by
    cases l with
    | nil => rfl
    | cons c l => exact List.dropWhile_cons_of_neg (by simp [hfirst c rfl])
  rw [trimChars, hfront]
  induction l using List.reverseRecOn with
  | nil => rfl
  | append_singleton l c => exact dropEnd_concat_of_neg (hlast c (by simp)) l

theorem trim_of_forall {s : String} (h : ∀ c ∈ s.toList, isBlank c = false) : trim s = s := by
  have htrim : trimChars s.toList = s.toList :=
    trimChars_eq_self (fun c hc => h c (List.mem_of_head? hc))
      fun c hc => h c (List.mem_of_getLast? hc)
  rw [trim, htrim, String.ofList_toList]

/-- There is nothing to trim between two texts that have no blank at the outer end. -/
theorem trimChars_between {a b : List Char} (ha : a.head?.map isBlank = some false)
    (hb : b.getLast?.map isBlank = some false) (l : List Char) :
    trimChars (a ++ l ++ b) = a ++ l ++ b := by
  obtain ⟨first, hfirst, hfree⟩ := Option.map_eq_some_iff.mp ha
  obtain ⟨last, hlast, hfree'⟩ := Option.map_eq_some_iff.mp hb
  refine trimChars_eq_self (fun c hc => ?_) fun c hc => ?_
  · rw [List.append_assoc, List.head?_append, hfirst] at hc
    exact Option.some.inj hc ▸ hfree
  · rw [List.getLast?_append, hlast] at hc
    exact Option.some.inj hc ▸ hfree'

theorem trim_between {a b : String} (ha : a.toList.head?.map isBlank = some false)
    (hb : b.toList.getLast?.map isBlank = some false) (s : String) :
    trim (a ++ s ++ b) = a ++ s ++ b := by
  rw [trim, String.toList_append, String.toList_append, trimChars_between ha hb,
    String.ofList_append, String.ofList_append, String.ofList_toList, String.ofList_toList,
    String.ofList_toList]

theorem getLast?_of_trim {s : String} (h : trim s = s) (hne : s ≠ "") :
    s.toList.getLast?.map isBlank = some false := by
  have hlist : (s.toList.dropWhile isBlank).rdropWhile isBlank = s.toList := by
    rw [← dropEnd_eq_rdropWhile, ← trimChars, ← String.toList_ofList (l := trimChars s.toList)]
    exact congrArg String.toList h
  have hrest : (s.toList.dropWhile isBlank).rdropWhile isBlank ≠ [] := by
    rw [hlist]
    exact fun hnil => hne (String.toList_inj.mp hnil)
  have hlast := List.rdropWhile_last_not isBlank _ hrest
  rw [← hlist, List.getLast?_eq_some_getLast hrest, Option.map_some, Bool.eq_false_iff.mpr hlast]

theorem not_blank_of_all {l : List Char} (h : l.all (fun c => !isBlank c) = true) :
    ∀ c ∈ l, isBlank c = false := by
  intro c hc
  exact Bool.not_eq_true' _ ▸ List.all_eq_true.mp h c hc

theorem trim_eq_empty_iff {s : String} : trim s = "" ↔ ∀ c ∈ s.toList, isBlank c = true := by
  have htwice : (s.toList.dropWhile isBlank).dropWhile isBlank = s.toList.dropWhile isBlank :=
    List.dropWhile_idempotent isBlank s.toList
  rw [trim, ← String.toList_inj, String.toList_ofList, trimChars, dropEnd_eq_rdropWhile,
    String.toList_empty, List.rdropWhile_eq_nil_iff, ← List.dropWhile_eq_nil_iff, htwice,
    List.dropWhile_eq_nil_iff]

theorem nonBlank?_eq_some_iff {s t : String} : nonBlank? s = some t ↔ trim s = t ∧ t ≠ "" := by
  rw [nonBlank?]
  split
  · next h => simp [h, eq_comm]
  · next h =>
    rw [Option.some.injEq]
    refine ⟨fun heq => ⟨heq, heq ▸ h⟩, And.left⟩

theorem nonBlank?_eq_none_iff {s : String} : nonBlank? s = none ↔ trim s = "" := by
  rw [nonBlank?]
  split
  · next h => simp [h]
  · next h => simp [h]

theorem bind_nonBlank?_eq_some_iff {o : Option String} {t : String} :
    o.bind nonBlank? = some t ↔ ∃ s, o = some s ∧ trim s = t ∧ t ≠ "" := by
  rw [Option.bind_eq_some_iff]
  simp only [nonBlank?_eq_some_iff]

theorem bind_nonBlank?_eq_none_iff {o : Option String} :
    o.bind nonBlank? = none ↔ o = none ∨ ∃ s, o = some s ∧ trim s = "" := by
  cases o with
  | none => simp
  | some s => simp [nonBlank?_eq_none_iff]

theorem nonBlank?_of_forall {s : String} (hne : s ≠ "") (h : ∀ c ∈ s.toList, isBlank c = false) :
    nonBlank? s = some s :=
  nonBlank?_eq_some_iff.mpr ⟨trim_of_forall h, hne⟩

theorem nonBlank?_of_nonBlank? {s t : String} (h : nonBlank? s = some t) :
    nonBlank? t = some t := by
  obtain ⟨rfl, hne⟩ := nonBlank?_eq_some_iff.mp h
  exact nonBlank?_eq_some_iff.mpr ⟨trim_trim s, hne⟩

theorem nonBlank?_bind_nonBlank? (o : Option String) :
    (o.bind nonBlank?).bind nonBlank? = o.bind nonBlank? := by
  cases o with
  | none => rfl
  | some s =>
    rw [Option.bind_some]
    cases hs : nonBlank? s with
    | none => rfl
    | some t => rw [Option.bind_some, nonBlank?_of_nonBlank? hs]

theorem or_bind_nonBlank? {o p : Option String} (ho : o.bind nonBlank? = o)
    (hp : p.bind nonBlank? = p) : (o.or p).bind nonBlank? = o.or p := by
  cases o with
  | none => exact hp
  | some s => exact ho

end Gatehouse.Text
