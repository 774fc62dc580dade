import Gatehouse.Proofs.Json.Tree
import Gatehouse.Proofs.Keyed
import Mathlib.Data.List.Nodup

/-!
# Records that were written

The tree of an object with known, distinct keys is read as its fields, each with the tree of its
value. With it a record is read back field by field, whether a field was written or left out.
-/

namespace Gatehouse

namespace Json

theorem memberTrees_eq_map (members : Members) :
    memberTrees members = members.map fun p => (units p.1, tree p.2) := by
  induction members with
  | nil => rfl
  | cons p members ih => rw [memberTrees, ih]; rfl

theorem trees_eq_map (items : List Json) : trees items = items.map tree := by
  induction items with
  | nil => rfl
  | cons v items ih => rw [trees, ih]; rfl

/-! ### Fields -/

/-- What a member adds to the known fields before it. -/
def addField (names : List String) (seen : List (String × Written)) :
    List Unit16 × Written → Option (List (String × Written))
  | (key, w) => do
    let k ← unitsText? key
    if names.contains k then
      if (Keyed.get? k seen).isSome then none else some (seen ++ [(k, w)])
    else some seen

/-- A member as written, and the field that it is read as. -/
def IsField (member : List Unit16 × Written) (field : String × Written) : Prop :=
  unitsText? member.1 = some field.1 ∧ member.2 = field.2

def known (names : List String) (fields : List (String × Written)) : List (String × Written) :=
  fields.filter fun f => names.contains f.1

theorem known_cons (names : List String) (f : String × Written) (fields : List (String × Written)) :
    known names (f :: fields) = known names [f] ++ known names fields :=
  List.filter_append [f] fields

theorem known_singleton (names : List String) (f : String × Written) :
    known names [f] = if names.contains f.1 then [f] else [] := by
  rw [known, List.filter_singleton, Bool.cond_eq_ite]

theorem addField_eq_some_iff {names : List String} {seen next : List (String × Written)}
    {member : List Unit16 × Written} (hseen : (seen.map Prod.fst).Nodup) :
    addField names seen member = some next ↔
      ∃ field, IsField member field ∧ next = seen ++ known names [field] ∧
        (next.map Prod.fst).Nodup := by
  obtain ⟨key, w⟩ := member
  have hdistinct (k : String) :
      ((seen ++ [(k, w)]).map Prod.fst).Nodup ↔ Keyed.get? k seen = none := by
    rw [List.map_append, List.map_singleton, ← List.concat_eq_append, List.nodup_concat,
      Keyed.get?_eq_none_iff]
    exact and_iff_left hseen
  constructor
  · intro h
    obtain ⟨k, hkey, hadd⟩ := Option.bind_eq_some_iff.mp h
    refine ⟨(k, w), ⟨hkey, rfl⟩, ?_⟩
    rw [known_singleton]
    split at hadd
    · next hk =>
      split at hadd
      · cases hadd
      · next hnew =>
        obtain rfl := Option.some.inj hadd
        rw [if_pos hk]
        exact ⟨rfl, (hdistinct k).mpr (Option.not_isSome_iff_eq_none.mp hnew)⟩
    · next hk =>
      obtain rfl := Option.some.inj hadd
      rw [if_neg hk, List.append_nil]
      exact ⟨rfl, hseen⟩
  · rintro ⟨⟨k, _⟩, ⟨hkey, rfl⟩, rfl, hnext⟩
    refine Option.bind_eq_some_iff.mpr ⟨k, hkey, ?_⟩
    rw [known_singleton] at hnext ⊢
    by_cases hk : names.contains k = true
    · rw [if_pos hk] at hnext
      have hnew := (hdistinct k).mp hnext
      rw [if_pos hk, if_pos hk, if_neg (Option.not_isSome_iff_eq_none.mpr hnew)]
    · rw [if_neg hk, if_neg hk, List.append_nil]

/-- Adding members one by one leaves those that are known, provided that no two of them have the
same name. -/
theorem foldlM_addField_eq_some_iff {names : List String} {members : List (List Unit16 × Written)}
    {seen fields : List (String × Written)} (hseen : (seen.map Prod.fst).Nodup) :
    members.foldlM (addField names) seen = some fields ↔
      ∃ named, List.Forall₂ IsField members named ∧ fields = seen ++ known names named ∧
        (fields.map Prod.fst).Nodup := by
  -- every member finds other fields before it, so these are not fixed
  induction members generalizing seen with
  | nil =>
    simp only [List.foldlM_nil, List.forall₂_nil_left_iff, exists_eq_left]
    rw [known, List.filter_nil, List.append_nil]
    constructor
    · rintro ⟨⟩
      exact ⟨rfl, hseen⟩
    · rintro ⟨rfl, -⟩
      rfl
  | cons member members ih =>
    rw [List.foldlM_cons]
    refine Option.bind_eq_some_iff.trans ?_
    constructor
    · rintro ⟨next, hnext, hrest⟩
      obtain ⟨field, hfield, rfl, hdistinct⟩ := (addField_eq_some_iff hseen).mp hnext
      obtain ⟨named, hnamed, rfl, hall⟩ := (ih hdistinct).mp hrest
      refine ⟨field :: named, .cons hfield hnamed, ?_, hall⟩
      rw [known_cons names field named, List.append_assoc]
    · rintro ⟨named, hnamed, hfields, hall⟩
      obtain ⟨field, rest, hfield, hrest, rfl⟩ := List.forall₂_cons_left_iff.mp hnamed
      rw [known_cons names field rest, ← List.append_assoc] at hfields
      have hdistinct : ((seen ++ known names [field]).map Prod.fst).Nodup := by
        rw [hfields, List.map_append] at hall
        exact hall.of_append_left
      exact ⟨_, (addField_eq_some_iff hseen).mpr ⟨field, hfield, rfl, hdistinct⟩,
        (ih hdistinct).mpr ⟨rest, hrest, hfields, hall⟩⟩

/-- A tree with known fields: an object, in which every one of them stands at most once and others
may stand, or the list of their values in the order of the names, cut off anywhere. -/
inductive HasFields (names : List String) : Written → List (String × Written) → Prop where
  | object {members named} (read : List.Forall₂ IsField members named)
      (distinct : ((known names named).map Prod.fst).Nodup) :
      HasFields names (.object members) (known names named)
  | list {fields} (leading : fields.map Prod.fst <+: names) :
      HasFields names (.list (fields.map Prod.snd)) fields

theorem HasFields.nodup {names : List String} {w : Written} {fields : List (String × Written)}
    (h : HasFields names w fields) (hnames : names.Nodup) : (fields.map Prod.fst).Nodup := by
  cases h with
  | object _ hdistinct => exact hdistinct
  | list hleading => exact hnames.sublist hleading.sublist

theorem zip_eq_iff {names : List String} {items : List Written} {fields : List (String × Written)}
    (hshort : items.length ≤ names.length) :
    names.zip items = fields ↔ items = fields.map Prod.snd ∧ fields.map Prod.fst <+: names := by
  constructor
  · rintro rfl
    rw [List.map_snd_zip hshort, List.zip_eq_zip_take_min, Nat.min_eq_right hshort, List.take_length,
      List.map_fst_zip (by simp)]
    exact ⟨rfl, List.take_prefix _ _⟩
  · rintro ⟨rfl, rest, rfl⟩
    -- the names that are left meet no items
    have hzip : (fields.map Prod.fst ++ rest).zip (fields.map Prod.snd ++ []) = _ :=
      List.zip_append (by simp)
    rw [List.append_nil, List.zip_nil_right, List.append_nil] at hzip
    rw [hzip, List.zip_map']
    simp

/-- A record is read as the fields that it has. -/
theorem fields?_eq_some_iff {names : List String} {w : Written} {fields : List (String × Written)} :
    w.fields? names = some fields ↔ HasFields names w fields := by
  have hnone : (([] : List (String × Written)).map Prod.fst).Nodup := List.nodup_nil
  constructor
  · intro h
    cases w with
    | object members =>
      obtain ⟨named, hnamed, rfl, hdistinct⟩ := (foldlM_addField_eq_some_iff hnone).mp h
      exact .object hnamed hdistinct
    | list items =>
      rw [Written.fields?] at h
      split at h
      · cases h
      · next hshort =>
        obtain ⟨rfl, hleading⟩ := (zip_eq_iff (Nat.not_lt.mp hshort)).mp (Option.some.inj h)
        exact .list hleading
    | _ => cases h
  · rintro (⟨hnamed, hdistinct⟩ | hleading)
    · exact (foldlM_addField_eq_some_iff hnone).mpr ⟨_, hnamed, rfl, hdistinct⟩
    · have hshort : (fields.map Prod.snd).length ≤ names.length := by
        simpa using hleading.length_le
      rw [Written.fields?, if_neg (Nat.not_lt.mpr hshort)]
      exact congrArg some ((zip_eq_iff hshort).mpr ⟨rfl, hleading⟩)

theorem fields?_object {names : List String} {members : List (List Unit16 × Written)}
    {fields : List (String × Written)} (hread : List.Forall₂ IsField members fields)
    (hknown : ∀ f ∈ fields, f.1 ∈ names) (hdistinct : (fields.map Prod.fst).Nodup) :
    (Written.object members).fields? names = some fields := by
  have hall : known names fields = fields :=
    List.filter_eq_self.mpr fun f hf => List.contains_iff_mem.mpr (hknown f hf)
  rw [← hall] at hdistinct ⊢
  exact fields?_eq_some_iff.mpr (.object hread hdistinct)

/-- The object of some members is read as them, each once. -/
theorem fields?_tree {names : List String} {members : Members}
    (hknown : ∀ p ∈ members, p.1 ∈ names) (hdistinct : (members.map Prod.fst).Nodup) :
    (tree (.object members)).fields? names = some (members.map fun p => (p.1, tree p.2)) := by
  rw [tree, memberTrees_eq_map]
  apply fields?_object
  · rw [List.forall₂_map_left_iff, List.forall₂_map_right_iff, List.forall₂_same]
    intro p _
    exact ⟨unitsText?_units p.1, rfl⟩
  · intro f hf
    obtain ⟨p, hp, rfl⟩ := List.mem_map.mp hf
    exact hknown p hp
  · rw [List.map_map]
    exact hdistinct

theorem field?_eq_some_iff {α : Type} {read : Written → Option α} {default v : α} {name : String}
    {fields : List (String × Written)} (hdistinct : (fields.map Prod.fst).Nodup) :
    field? read default name fields = some v ↔
      (name ∉ fields.map Prod.fst ∧ v = default) ∨ ∃ w, (name, w) ∈ fields ∧ read w = some v := by
  rw [field?]
  cases hget : Keyed.get? name fields with
  | none =>
    have habsent := Keyed.get?_eq_none_iff.mp hget
    refine Option.some_inj.trans ⟨fun h => .inl ⟨habsent, h.symm⟩, ?_⟩
    rintro (⟨-, h⟩ | ⟨w, hw, -⟩)
    · exact h.symm
    · exact absurd (List.mem_map_of_mem hw) habsent
  | some w =>
    have hw := (Keyed.get?_eq_some_iff hdistinct).mp hget
    refine ⟨fun h => .inr ⟨w, hw, h⟩, ?_⟩
    rintro (⟨habsent, -⟩ | ⟨w', hw', h⟩)
    · exact absurd (List.mem_map_of_mem hw) habsent
    · rw [(Keyed.get?_eq_some_iff hdistinct).mpr hw'] at hget
      rw [← Option.some.inj hget]
      exact h

theorem exists_field?_iff {α : Type} {read : Written → Option α} {default : α} {name : String}
    {fields : List (String × Written)} (hdistinct : (fields.map Prod.fst).Nodup) :
    (∃ v, field? read default name fields = some v) ↔
      ∀ w, (name, w) ∈ fields → ∃ v, read w = some v := by
  simp only [field?_eq_some_iff hdistinct]
  constructor
  · rintro ⟨v, ⟨habsent, -⟩ | ⟨w, hw, hread⟩⟩ w' hw'
    · exact absurd (List.mem_map_of_mem hw') habsent
    · have hsame := (Keyed.get?_eq_some_iff hdistinct).mpr hw
      rw [(Keyed.get?_eq_some_iff hdistinct).mpr hw'] at hsame
      rw [Option.some.inj hsame]
      exact ⟨v, hread⟩
  · intro h
    by_cases hpresent : name ∈ fields.map Prod.fst
    · obtain ⟨⟨_, w⟩, hw, rfl⟩ := List.mem_map.mp hpresent
      obtain ⟨v, hread⟩ := h w hw
      exact ⟨v, .inr ⟨w, hw, hread⟩⟩
    · exact ⟨default, .inl ⟨hpresent, rfl⟩⟩

theorem field?_map {α : Type} (read : Written → Option α) (default : α) (name : String)
    (members : Members) :
    field? read default name (members.map fun p => (p.1, tree p.2))
      = (Keyed.get? name members).elim (some default) fun v => read (tree v) := by
  rw [field?, Keyed.get?_map]
  cases Keyed.get? name members <;> rfl

theorem required?_map {α : Type} (read : Written → Option α) (name : String) (members : Members) :
    required? read name (members.map fun p => (p.1, tree p.2))
      = (Keyed.get? name members).bind fun v => read (tree v) := by
  rw [required?, Keyed.get?_map, Option.bind_map]
  rfl

/-! ### Values of fields -/

theorem text?_tree (s : String) : Written.text? (tree (.text s)) = some s := by
  rw [tree, Written.text?, unitsText?_units]

theorem int64?_tree {n : Int} (h : Text.Fits64 n) : Written.int64? (tree (.int n)) = some n := by
  obtain ⟨hlow, hhigh⟩ := h
  have hunsigned : n ≤ maxUnsigned := by
    rw [maxUnsigned]
    omega
  rw [int, tree, Written.int64?, number?_ofInt hlow hunsigned]
  exact if_pos hhigh

theorem listOf?_text?_tree (l : List String) :
    Written.listOf? Written.text? (tree (.list (l.map .text))) = some l := by
  rw [tree, Written.listOf?, trees_eq_map, List.map_map]
  exact mapM_map_eq_some fun s _ => text?_tree s

end Json

end Gatehouse
