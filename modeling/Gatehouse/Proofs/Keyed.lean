import Gatehouse.Keyed
import Mathlib.Data.List.Induction
import Mathlib.Data.String.Basic

/-!
# The order of keys

Putting a value into a list with increasing keys and dropping entries from it keep the keys
increasing. In such a list a key stands at most once, so looking a key up and membership say the
same, and dropping entries cannot bring another one to light. Of a list made of pairs a key has the
last value that was put under it.
-/

namespace Gatehouse.Keyed

variable {α : Type}

/-! ### Lists made of pairs -/

@[simp] theorem ofPairs_concat (pairs : List (String × α)) (key : String) (value : α) :
    ofPairs (pairs ++ [(key, value)]) = insert key value (ofPairs pairs) := by
  rw [ofPairs, List.foldl_append]
  rfl

theorem get?_ofPairs_append {key : String} {more : List (String × α)} (h : ∀ p ∈ more, p.1 ≠ key)
    (pairs : List (String × α)) : get? key (ofPairs (pairs ++ more)) = get? key (ofPairs pairs) := by
  induction more using List.reverseRecOn with
  | nil => rw [List.append_nil]
  | append_singleton more p ih =>
    rw [← List.append_assoc, ofPairs_concat, get?_insert_of_ne (h p (by simp)).symm]
    exact ih fun q hq => h q (by simp [hq])

/-- Behind the last pair under a key nothing hides it, whatever stands before. -/
theorem get?_ofPairs_of_last {key : String} {late : List (String × α)}
    (h : ∀ p ∈ late, p.1 ≠ key) (early : List (String × α)) (value : α) :
    get? key (ofPairs (early ++ (key, value) :: late)) = some value := by
  rw [← List.singleton_append, ← List.append_assoc, get?_ofPairs_append h, ofPairs_concat]
  exact get?_insert_self key value _

/-- The last pair under a key. -/
def IsLast (pairs : List (String × α)) (key : String) (value : α) : Prop :=
  ∃ early late, pairs = early ++ (key, value) :: late ∧ ∀ p ∈ late, p.1 ≠ key

theorem IsLast.mem {pairs : List (String × α)} {key : String} {value : α}
    (h : IsLast pairs key value) : (key, value) ∈ pairs := by
  obtain ⟨early, late, rfl, -⟩ := h
  exact List.mem_append_right early List.mem_cons_self

theorem get?_ofPairs_eq_some_iff {pairs : List (String × α)} {key : String} {value : α} :
    get? key (ofPairs pairs) = some value ↔ IsLast pairs key value := by
  constructor
  · intro h
    induction pairs using List.reverseRecOn with
    | nil => cases h
    | append_singleton pairs p ih =>
      rw [ofPairs_concat] at h
      by_cases hkey : key = p.1
      · rw [hkey, get?_insert_self] at h
        refine ⟨pairs, [], ?_, List.forall_mem_nil _⟩
        rw [hkey, ← Option.some.inj h]
      · rw [get?_insert_of_ne hkey] at h
        obtain ⟨early, late, rfl, hlate⟩ := ih h
        refine ⟨early, late ++ [p], by simp, ?_⟩
        rw [List.forall_mem_append, List.forall_mem_singleton]
        exact ⟨hlate, Ne.symm hkey⟩
  · rintro ⟨early, late, rfl, hlate⟩
    exact get?_ofPairs_of_last hlate early value

theorem get?_ofPairs_cons {key : String} {pairs : List (String × α)} (h : ∀ p ∈ pairs, p.1 ≠ key)
    (value : α) : get? key (ofPairs ((key, value) :: pairs)) = some value :=
  get?_ofPairs_of_last h [] value

/-! ### Membership -/

theorem mem_insert {key : String} {value : α} {p : String × α} {l : List (String × α)}
    (h : p ∈ insert key value l) : p = (key, value) ∨ p ∈ l := by
  induction l with
  | nil => exact .inl (List.mem_singleton.mp h)
  | cons q l ih =>
    obtain ⟨k, v⟩ := q
    rw [insert] at h
    split at h
    · exact List.mem_cons.mp h
    · split at h
      · rcases List.mem_cons.mp h with hp | hp
        · exact .inl hp
        · exact .inr (List.mem_cons_of_mem _ hp)
      · rcases List.mem_cons.mp h with hp | hp
        · exact .inr (hp ▸ List.mem_cons_self)
        · exact (ih hp).imp_right (List.mem_cons_of_mem _)

theorem mem_of_get? {key : String} {value : α} {l : List (String × α)}
    (h : get? key l = some value) : (key, value) ∈ l := by
  induction l with
  | nil => cases h
  | cons p l ih =>
    obtain ⟨k, v⟩ := p
    rw [get?_cons] at h
    split at h
    · next hk =>
      rw [← Option.some.inj h, ← hk]
      exact List.mem_cons_self
    · exact List.mem_cons_of_mem _ (ih h)

/-! ### Looking up -/

theorem get?_eq_none_iff {key : String} {l : List (String × α)} :
    get? key l = none ↔ key ∉ l.map Prod.fst := by
  induction l with
  | nil => simp
  | cons p l ih =>
    obtain ⟨k, v⟩ := p
    rw [get?_cons, List.map_cons, List.mem_cons, not_or]
    by_cases hk : k = key
    · simp [hk]
    · rw [if_neg hk, ih]
      exact ⟨fun h => ⟨Ne.symm hk, h⟩, And.right⟩

/-- Where no key stands twice, a key has the values that stand under it. -/
theorem get?_eq_some_iff {key : String} {value : α} {l : List (String × α)}
    (h : (l.map Prod.fst).Nodup) : get? key l = some value ↔ (key, value) ∈ l := by
  refine ⟨mem_of_get?, fun hmem => ?_⟩
  induction l with
  | nil => cases hmem
  | cons p l ih =>
    obtain ⟨k, v⟩ := p
    obtain ⟨hapart, hl⟩ := List.nodup_cons.mp h
    rw [get?_cons]
    rcases List.mem_cons.mp hmem with heq | hmem
    · obtain ⟨rfl, rfl⟩ := Prod.mk.inj heq
      exact if_pos rfl
    · have hne : k ≠ key := by
        rintro rfl
        exact hapart (List.mem_map.mpr ⟨(k, value), hmem, rfl⟩)
      rw [if_neg hne]
      exact ih hl hmem

theorem get?_append (key : String) (l m : List (String × α)) :
    get? key (l ++ m) = (get? key l).or (get? key m) := by
  induction l with
  | nil => rfl
  | cons p l ih =>
    obtain ⟨k, v⟩ := p
    rw [List.cons_append, get?_cons, get?_cons]
    by_cases hk : k = key
    · rw [if_pos hk, if_pos hk, Option.some_or]
    · rw [if_neg hk, if_neg hk, ih]

theorem get?_map {β : Type} (f : α → β) (key : String) (l : List (String × α)) :
    get? key (l.map fun p => (p.1, f p.2)) = (get? key l).map f := by
  induction l with
  | nil => rfl
  | cons p l ih =>
    obtain ⟨k, v⟩ := p
    rw [List.map_cons, get?_cons, get?_cons]
    by_cases hk : k = key
    · rw [if_pos hk, if_pos hk, Option.map_some]
    · rw [if_neg hk, if_neg hk, ih]

theorem get?_filter_of_keep {key : String} {value : α} {l : List (String × α)}
    {keep : String × α → Bool} (h : get? key l = some value) (hkeep : keep (key, value)) :
    get? key (l.filter keep) = some value := by
  induction l with
  | nil => cases h
  | cons p l ih =>
    obtain ⟨k, v⟩ := p
    rw [get?_cons] at h
    by_cases hk : k = key
    · rw [if_pos hk] at h
      subst hk
      obtain rfl := Option.some.inj h
      rw [List.filter_cons_of_pos hkeep, get?_cons, if_pos rfl]
    · rw [if_neg hk] at h
      by_cases hfirst : keep (k, v) = true
      · rw [List.filter_cons_of_pos hfirst, get?_cons, if_neg hk]
        exact ih h
      · rw [List.filter_cons_of_neg hfirst]
        exact ih h

theorem insert_of_forall_lt {key : String} {l : List (String × α)} (h : ∀ p ∈ l, p.1 < key)
    (value : α) : insert key value l = l ++ [(key, value)] := by
  induction l with
  | nil => rfl
  | cons p l ih =>
    obtain ⟨k, v⟩ := p
    have hlt : k < key := h (k, v) List.mem_cons_self
    rw [insert, if_neg (lt_asymm hlt), if_neg (ne_of_gt hlt),
      ih fun q hq => h q (List.mem_cons_of_mem _ hq), List.cons_append]

theorem get?_ofPairs {pairs : List (String × α)} (h : (pairs.map Prod.fst).Nodup) (key : String) :
    get? key (ofPairs pairs) = get? key pairs := by
  induction pairs using List.reverseRecOn with
  | nil => rfl
  | append_singleton pairs p ih =>
    obtain ⟨k, v⟩ := p
    rw [List.map_append, List.map_singleton] at h
    obtain ⟨hpairs, -, hapart⟩ := List.nodup_append.mp h
    rw [ofPairs_concat, get?_append]
    by_cases hk : key = k
    · subst hk
      have habsent : get? key pairs = none :=
        get?_eq_none_iff.mpr fun hmem => hapart key hmem key (List.mem_singleton_self key) rfl
      rw [get?_insert_self, habsent, Option.none_or, get?_cons, if_pos rfl]
    · rw [get?_insert_of_ne hk, ih hpairs, get?_cons, if_neg (Ne.symm hk), get?_nil, Option.or_none]

namespace Increasing

variable {l : List (String × α)}

theorem nil : Increasing ([] : List (String × α)) :=
  List.Pairwise.nil

theorem insert (h : Increasing l) (key : String) (value : α) :
    Increasing (insert key value l) := by
  induction l with
  | nil => exact List.pairwise_singleton _ _
  | cons p l ih =>
    obtain ⟨k, v⟩ := p
    obtain ⟨hbelow, hl⟩ := List.pairwise_cons.mp h
    rw [Keyed.insert]
    split
    · next hlt =>
      refine List.pairwise_cons.mpr ⟨fun q hq => ?_, h⟩
      rcases List.mem_cons.mp hq with rfl | hq
      · exact hlt
      · exact lt_trans hlt (hbelow q hq)
    · next hnlt =>
      split
      · next heq =>
        subst heq
        exact List.pairwise_cons.mpr ⟨hbelow, hl⟩
      · next hne =>
        refine List.pairwise_cons.mpr ⟨fun q hq => ?_, ih hl⟩
        rcases mem_insert hq with rfl | hq
        · exact lt_of_le_of_ne (not_lt.mp hnlt) (Ne.symm hne)
        · exact hbelow q hq

theorem filter (h : Increasing l) (keep : String × α → Bool) : Increasing (l.filter keep) :=
  List.Pairwise.filter keep h

theorem ofPairs (pairs : List (String × α)) : Increasing (ofPairs pairs) := by
  induction pairs using List.reverseRecOn with
  | nil => exact .nil
  | append_singleton pairs p ih =>
    rw [ofPairs_concat]
    exact ih.insert p.1 p.2

theorem nodup (h : Increasing l) : (l.map Prod.fst).Nodup :=
  List.pairwise_map.mpr (h.imp ne_of_lt)

theorem get?_eq_some_iff (h : Increasing l) {key : String} {value : α} :
    get? key l = some value ↔ (key, value) ∈ l :=
  Keyed.get?_eq_some_iff h.nodup

/-- Dropping entries leaves of a key what it keeps of the one entry under it. -/
theorem get?_filter (h : Increasing l) (keep : String × α → Bool) (key : String) :
    get? key (l.filter keep) = (get? key l).filter fun value => keep (key, value) := by
  ext value
  rw [(h.filter keep).get?_eq_some_iff, List.mem_filter, ← h.get?_eq_some_iff,
    Option.filter_eq_some_iff]

theorem ofPairs_eq (h : Increasing l) : Keyed.ofPairs l = l := by
  induction l using List.reverseRecOn with
  | nil => rfl
  | append_singleton l p ih =>
    obtain ⟨hl, -, hbelow⟩ := List.pairwise_append.mp h
    rw [ofPairs_concat, ih hl]
    exact insert_of_forall_lt (fun q hq => hbelow q hq p (List.mem_singleton_self p)) p.2

end Increasing

end Gatehouse.Keyed
