import Gatehouse.Access.Scope
import Gatehouse.Proofs.Text.Letters
import Mathlib.Data.List.Induction
import Mathlib.Data.List.Nodup

/-!
# Reading the names of scopes

A list of names asks for scopes that are all different, and for one at least. Such a list is read
back from the names of its scopes, since a name is its own folded form. A list in which a name is
unknown asks for nothing, and every unknown name in it is told. Both lists keep the order in which
the names stand in what is read (`normalize_exact`).
-/

namespace Gatehouse.Scope

/-! ### Names -/

theorem fold_fold (s : String) : fold (fold s) = fold s := by
  rw [fold, fold, Text.trim_lower, Text.trim_trim, Text.lower_lower]

theorem fold_name (s : Scope) : fold s.name = s.name := by
  cases s <;> decide

theorem fold_eq_empty_iff {s : String} : fold s = "" ↔ Text.trim s = "" := by
  rw [fold, Text.lower, ← String.toList_inj, ← String.toList_inj, String.toList_ofList]
  exact List.map_eq_nil_iff

theorem name_ne_empty (s : Scope) : s.name ≠ "" := by
  cases s <;> decide

theorem name_injective : Function.Injective name := by
  intro s t h
  have hread := ofName?_name s
  rw [h, ofName?_name t] at hread
  exact (Option.some.inj hread).symm

theorem name_of_ofName? {n : String} {s : Scope} (h : ofName? n = some s) : s.name = n := by
  simpa using List.find?_some h

theorem ofText?_name (s : Scope) : ofText? s.name = some s := by
  rw [ofText?, fold_name, ofName?_name]

/-! ### Lists of names -/

theorem distinctNames_concat (raw : List String) (s : String) :
    distinctNames (raw ++ [s])
      = if fold s = "" ∨ fold s ∈ distinctNames raw then distinctNames raw
        else distinctNames raw ++ [fold s] := by
  rw [distinctNames, List.foldl_append, List.foldl_cons, List.foldl_nil]
  by_cases h : fold s = "" ∨ fold s ∈ distinctNames raw
  · rw [if_pos h]
    exact if_pos h
  · rw [if_neg h]
    exact if_neg h

theorem nodup_distinctNames (raw : List String) : (distinctNames raw).Nodup := by
  induction raw using List.reverseRecOn with
  | nil => exact List.nodup_nil
  | append_singleton raw s ih =>
    rw [distinctNames_concat]
    split
    · exact ih
    · next hnew =>
      have hfresh : fold s ∉ distinctNames raw := fun hmem => hnew (.inr hmem)
      rw [List.nodup_append]
      refine ⟨ih, List.nodup_singleton _, fun n hn m hm => ?_⟩
      rw [List.mem_singleton.mp hm]
      exact fun heq => hfresh (heq ▸ hn)

theorem mem_distinctNames {raw : List String} {n : String} :
    n ∈ distinctNames raw ↔ n ≠ "" ∧ ∃ s ∈ raw, fold s = n := by
  induction raw using List.reverseRecOn with
  | nil => simp [distinctNames]
  | append_singleton raw s ih =>
    rw [distinctNames_concat]
    simp only [List.mem_append, List.mem_singleton]
    split
    · next hold =>
      -- the last name adds nothing: it is blank, or it stands there already
      rw [ih]
      refine and_congr_right fun hn => ⟨fun ⟨t, ht, hfold⟩ => ⟨t, .inl ht, hfold⟩, ?_⟩
      rintro ⟨t, ht | rfl, rfl⟩
      · exact ⟨t, ht, rfl⟩
      · exact (ih.mp (hold.resolve_left hn)).2
    · next hnew =>
      rw [List.mem_append, List.mem_singleton, ih]
      constructor
      · rintro (⟨hn, t, ht, hfold⟩ | rfl)
        · exact ⟨hn, t, .inl ht, hfold⟩
        · exact ⟨fun hempty => hnew (.inl hempty), s, .inr rfl, rfl⟩
      · rintro ⟨hn, t, ht | rfl, hfold⟩
        · exact .inl ⟨hn, t, ht, hfold⟩
        · exact .inr hfold.symm

theorem distinctNames_eq_nil_iff {raw : List String} :
    distinctNames raw = [] ↔ ∀ s ∈ raw, fold s = "" := by
  rw [List.eq_nil_iff_forall_not_mem]
  constructor
  · intro h s hs
    by_contra hne
    exact h (fold s) (mem_distinctNames.mpr ⟨hne, s, hs, rfl⟩)
  · rintro h n hn
    obtain ⟨hne, s, hs, rfl⟩ := mem_distinctNames.mp hn
    exact hne (h s hs)

theorem fold_of_mem_distinctNames {raw : List String} {n : String} (h : n ∈ distinctNames raw) :
    fold n = n := by
  obtain ⟨-, s, -, rfl⟩ := mem_distinctNames.mp h
  exact fold_fold s

theorem distinctNames_map_name {scopes : List Scope} (h : scopes.Nodup) :
    distinctNames (scopes.map name) = scopes.map name := by
  induction scopes using List.reverseRecOn with
  | nil => rfl
  | append_singleton scopes s ih =>
    obtain ⟨hscopes, -, hdistinct⟩ := List.nodup_append.mp h
    have hfresh : s.name ∉ scopes.map name := by
      intro hmem
      obtain ⟨t, ht, hname⟩ := List.mem_map.mp hmem
      exact hdistinct t ht s (List.mem_singleton_self s) (name_injective hname)
    rw [List.map_append, List.map_singleton, distinctNames_concat, ih hscopes, fold_name, if_neg]
    rintro (hempty | hmem)
    · exact name_ne_empty s hempty
    · exact hfresh hmem

/-! ### The order of names -/

/-- Whether one text occurs in a list before another one does. -/
def Precedes (texts : List String) (a b : String) : Prop :=
  texts.idxOf a < texts.idxOf b

theorem Precedes.append {texts : List String} {a b : String} (h : Precedes texts a b)
    (hb : b ∈ texts) (more : List String) : Precedes (texts ++ more) a b := by
  have ha : a ∈ texts := by
    apply List.idxOf_lt_length_iff.mp
    have hlast := List.idxOf_lt_length_iff.mpr hb
    unfold Precedes at h
    omega
  unfold Precedes
  rw [List.idxOf_append_of_mem ha, List.idxOf_append_of_mem hb]
  exact h

theorem precedes_concat {texts : List String} {a b : String} (ha : a ∈ texts) (hb : b ∉ texts) :
    Precedes (texts ++ [b]) a b := by
  have hlt := List.idxOf_lt_length_iff.mpr ha
  unfold Precedes
  rw [List.idxOf_append_of_mem ha, List.idxOf_append_of_notMem hb]
  omega

/-- The names stand in the order in which they are found. -/
theorem pairwise_distinctNames (raw : List String) :
    (distinctNames raw).Pairwise (Precedes (raw.map fold)) := by
  induction raw using List.reverseRecOn with
  | nil => exact List.Pairwise.nil
  | append_singleton raw s ih =>
    have hfound : ∀ n ∈ distinctNames raw, n ∈ raw.map fold := by
      intro n hn
      obtain ⟨-, r, hr, rfl⟩ := mem_distinctNames.mp hn
      exact List.mem_map_of_mem hr
    have hkept : (distinctNames raw).Pairwise (Precedes ((raw ++ [s]).map fold)) := by
      rw [List.map_append]
      apply ih.imp_of_mem
      intro a b _ hb hbefore
      exact hbefore.append (hfound b hb) _
    rw [distinctNames_concat]
    split
    · exact hkept
    · next hnew =>
      have hfresh : fold s ∉ raw.map fold := by
        intro hmem
        obtain ⟨r, hr, hsame⟩ := List.mem_map.mp hmem
        apply hnew
        by_cases hempty : fold s = ""
        · exact .inl hempty
        · exact .inr (mem_distinctNames.mpr ⟨hempty, r, hr, hsame⟩)
      rw [List.pairwise_append]
      refine ⟨hkept, List.pairwise_singleton _ _, fun a ha b hb => ?_⟩
      rw [List.mem_singleton.mp hb, List.map_append]
      exact precedes_concat (hfound a ha) hfresh

/-! ### The scopes that are asked for -/

theorem map_name_filterMap {names : List String} (hfold : ∀ n ∈ names, fold n = n)
    (hknown : ∀ n ∈ names, ¬(ofText? n).isNone = true) :
    (names.filterMap ofText?).map name = names := by
  induction names with
  | nil => rfl
  | cons n names ih =>
    have hrest := ih (fun m hm => hfold m (List.mem_cons_of_mem _ hm))
      (fun m hm => hknown m (List.mem_cons_of_mem _ hm))
    have hn := hknown n List.mem_cons_self
    rw [Bool.not_eq_true, Option.isNone_eq_false_iff] at hn
    obtain ⟨s, hs⟩ := Option.isSome_iff_exists.mp hn
    have hname : s.name = n := (name_of_ofName? hs).trans (hfold n List.mem_cons_self)
    rw [List.filterMap_cons_some hs, List.map_cons, hrest, hname]

theorem map_name_of_normalize {raw : List String} {scopes : List Scope}
    (h : normalize raw = .ok scopes) (hnames : distinctNames raw ≠ []) :
    scopes.map name = distinctNames raw := by
  rw [normalize, if_neg hnames] at h
  split at h
  · next hknown =>
    rw [← Except.ok.inj h]
    exact map_name_filterMap (fun n hn => fold_of_mem_distinctNames hn)
      (List.filter_eq_nil_iff.mp hknown)
  · cases h

theorem of_normalize {raw : List String} {scopes : List Scope} (h : normalize raw = .ok scopes) :
    scopes ≠ [] ∧ scopes.Nodup := by
  by_cases hnames : distinctNames raw = []
  · rw [normalize, if_pos hnames] at h
    rw [← Except.ok.inj h]
    exact ⟨List.cons_ne_nil _ _, List.nodup_singleton _⟩
  · have hmap := map_name_of_normalize h hnames
    have hnodup := nodup_distinctNames raw
    rw [← hmap] at hnodup
    refine ⟨?_, hnodup.of_map name⟩
    rintro rfl
    exact hnames hmap.symm

/-- What a list asks for that names anything: a scope is asked for just if it is named. -/
theorem mem_of_normalize {raw : List String} {scopes : List Scope} (h : normalize raw = .ok scopes)
    (hnames : distinctNames raw ≠ []) (s : Scope) :
    s ∈ scopes ↔ ∃ n ∈ raw, fold n = s.name := by
  have hmap := map_name_of_normalize h hnames
  rw [← List.mem_map_of_injective name_injective, hmap, mem_distinctNames]
  exact and_iff_right (name_ne_empty s)

theorem not_isNone_ofText?_iff {n : String} :
    ¬(ofText? n).isNone = true ↔ ∃ s : Scope, s.name = fold n := by
  rw [Bool.not_eq_true, Option.isNone_eq_false_iff, Option.isSome_iff_exists]
  constructor
  · rintro ⟨s, hs⟩
    exact ⟨s, name_of_ofName? hs⟩
  · rintro ⟨s, hs⟩
    exact ⟨s, by rw [ofText?, ← hs, ofName?_name]⟩

/-- A list asks for scopes just if every name in it that is not blank is the name of one. -/
theorem exists_normalize_iff {raw : List String} :
    (∃ scopes, normalize raw = .ok scopes)
      ↔ ∀ n ∈ raw, fold n = "" ∨ ∃ s : Scope, s.name = fold n := by
  have hunknown : (distinctNames raw).filter (fun n => (ofText? n).isNone) = []
      ↔ ∀ n ∈ raw, fold n = "" ∨ ∃ s : Scope, s.name = fold n := by
    rw [List.filter_eq_nil_iff]
    constructor
    · intro h n hn
      by_cases hempty : fold n = ""
      · exact .inl hempty
      · have hknown := h (fold n) (mem_distinctNames.mpr ⟨hempty, n, hn, rfl⟩)
        rw [not_isNone_ofText?_iff, fold_fold] at hknown
        exact .inr hknown
    · rintro h n hn
      obtain ⟨hne, s, hs, rfl⟩ := mem_distinctNames.mp hn
      rw [not_isNone_ofText?_iff, fold_fold]
      exact (h s hs).resolve_left hne
  rw [← hunknown]
  by_cases hnames : distinctNames raw = []
  · simp [normalize, hnames]
  · by_cases hknown : (distinctNames raw).filter (fun n => (ofText? n).isNone) = []
    · simp [normalize, hnames, hknown]
    · simp [normalize, hnames, hknown]

theorem normalize_map_name {scopes : List Scope} (hne : scopes ≠ []) (hnodup : scopes.Nodup) :
    normalize (scopes.map name) = .ok scopes := by
  have hnames : scopes.map name ≠ [] := fun h => hne (List.map_eq_nil_iff.mp h)
  have hknown : ∀ n ∈ scopes.map name, ¬(ofText? n).isNone = true := by
    intro n hn
    obtain ⟨s, -, rfl⟩ := List.mem_map.mp hn
    simp [ofText?_name]
  have hread : (scopes.map name).filterMap ofText? = scopes := by
    have hcomp : ofText? ∘ name = some := by
      funext s
      rw [Function.comp_apply, ofText?_name]
    rw [List.filterMap_map, hcomp, List.filterMap_some]
  rw [normalize, distinctNames_map_name hnodup, if_neg hnames,
    if_pos (List.filter_eq_nil_iff.mpr hknown), hread]

/-! ### Known and unknown names -/

/-- Whether every name of a list that is not blank is the name of a scope. -/
def AllKnown (raw : List String) : Prop :=
  ∀ n ∈ raw, Text.trim n ≠ "" → ∃ s : Scope, s.name = Text.lower (Text.trim n)

theorem allKnown_iff {raw : List String} :
    AllKnown raw ↔ ∃ scopes, normalize raw = .ok scopes := by
  rw [exists_normalize_iff]
  constructor
  · intro h n hn
    by_cases hblank : Text.trim n = ""
    · exact .inl (fold_eq_empty_iff.mpr hblank)
    · exact .inr (h n hn hblank)
  · intro h n hn hblank
    exact (h n hn).resolve_left fun hempty => hblank (fold_eq_empty_iff.mp hempty)

theorem normalize_of_blank {raw : List String} (h : ∀ n ∈ raw, Text.trim n = "") :
    normalize raw = .ok [read] := by
  have hnames : distinctNames raw = [] :=
    distinctNames_eq_nil_iff.mpr fun n hn => fold_eq_empty_iff.mpr (h n hn)
  rw [normalize, if_pos hnames]

theorem distinctNames_ne_nil {raw : List String} (h : ∃ n ∈ raw, Text.trim n ≠ "") :
    distinctNames raw ≠ [] := by
  obtain ⟨n, hn, hblank⟩ := h
  intro hnil
  exact hblank (fold_eq_empty_iff.mp (distinctNames_eq_nil_iff.mp hnil n hn))

theorem of_normalize_error {raw : List String} {e : Unknown} (h : normalize raw = .error e) :
    e.names ≠ [] ∧ e.names = (distinctNames raw).filter fun n => (ofText? n).isNone := by
  rw [normalize] at h
  split at h
  · cases h
  · split at h
    · cases h
    · next hunknown =>
      obtain rfl := Except.error.inj h
      exact ⟨hunknown, rfl⟩

theorem mem_of_normalize_error {raw : List String} {e : Unknown} (h : normalize raw = .error e)
    (n : String) :
    n ∈ e.names ↔ (∃ r ∈ raw, Text.trim r ≠ "" ∧ Text.lower (Text.trim r) = n)
      ∧ ∀ s : Scope, s.name ≠ n := by
  rw [(of_normalize_error h).2, List.mem_filter]
  constructor
  · rintro ⟨hmem, hnone⟩
    obtain ⟨hne, r, hr, rfl⟩ := mem_distinctNames.mp hmem
    refine ⟨⟨r, hr, fun hblank => hne (fold_eq_empty_iff.mpr hblank), rfl⟩, fun s hs => ?_⟩
    apply not_isNone_ofText?_iff.mpr ⟨s, hs.trans (fold_fold r).symm⟩
    exact hnone
  · rintro ⟨⟨r, hr, hblank, rfl⟩, hunknown⟩
    have hne : fold r ≠ "" := fun hempty => hblank (fold_eq_empty_iff.mp hempty)
    refine ⟨mem_distinctNames.mpr ⟨hne, r, hr, rfl⟩, ?_⟩
    by_contra hknown
    obtain ⟨s, hs⟩ := not_isNone_ofText?_iff.mp hknown
    exact hunknown s (hs.trans (fold_fold r))

/-- A list of names is read as scopes if all of them are known, and otherwise refused with the
unknown ones. The scopes that are named and the names that are refused stand in the order in which
they occur first, and nothing else is among them. -/
theorem normalize_exact (raw : List String) :
    (AllKnown raw →
      ∃ scopes, normalize raw = .ok scopes ∧ scopes ≠ [] ∧ scopes.Nodup ∧
        ((∀ n ∈ raw, Text.trim n = "") → scopes = [read]) ∧
        ((∃ n ∈ raw, Text.trim n ≠ "") →
          (∀ s, s ∈ scopes ↔ ∃ n ∈ raw, Text.lower (Text.trim n) = s.name) ∧
          (scopes.map name).Pairwise (Precedes (raw.map fold))) ∧
        normalize (scopes.map name) = .ok scopes) ∧
    (¬AllKnown raw →
      ∃ names, normalize raw = .error ⟨names⟩ ∧ names ≠ [] ∧ names.Nodup ∧
        (∀ n, n ∈ names ↔ (∃ r ∈ raw, Text.trim r ≠ "" ∧ Text.lower (Text.trim r) = n)
          ∧ ∀ s : Scope, s.name ≠ n) ∧
        names.Pairwise (Precedes (raw.map fold)) ∧
        ¬∃ scopes, normalize raw = .ok scopes) := by
  constructor
  · intro hknown
    obtain ⟨scopes, hread⟩ := allKnown_iff.mp hknown
    obtain ⟨hne, hnodup⟩ := of_normalize hread
    refine ⟨scopes, hread, hne, hnodup, ?blank, ?named, normalize_map_name hne hnodup⟩
    case blank =>
      intro hblank
      rw [normalize_of_blank hblank] at hread
      exact (Except.ok.inj hread).symm
    case named =>
      intro hnamed
      have hnames := distinctNames_ne_nil hnamed
      refine ⟨mem_of_normalize hread hnames, ?_⟩
      rw [map_name_of_normalize hread hnames]
      exact pairwise_distinctNames raw
  · intro hunknown
    have hrefused := fun h => hunknown (allKnown_iff.mpr h)
    cases hread : normalize raw with
    | ok scopes => exact absurd ⟨scopes, hread⟩ hrefused
    | error e =>
      obtain ⟨hne, hnames⟩ := of_normalize_error hread
      refine ⟨e.names, rfl, hne, ?_, mem_of_normalize_error hread, ?_, by simp⟩
      · rw [hnames]
        exact (nodup_distinctNames raw).filter _
      · rw [hnames]
        exact (pairwise_distinctNames raw).filter _

end Gatehouse.Scope
