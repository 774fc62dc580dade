import Gatehouse.Proofs.Json.Fields

/-!
# Records that clients write

Whatever the order, the escapes and the white space in which a client writes an object, its members
are known by the values they stand for. A field of a record can be told from those values: it is read
as the value under its name says. A value that is read within some depth is read within every greater
one, and a body that holds a value is not blank.
-/

namespace Gatehouse

namespace Json

/-! ### Depth -/

section Depth

variable {d e : Nat}

theorem values?_mono (h : ∀ w v, value? d w = some v → value? e w = some v) {items : List Written}
    {values : List Json} (hread : values? d items = some values) :
    values? e items = some values := by
  induction items generalizing values with
  | nil => exact hread
  | cons w items ih =>
    rw [values?] at hread ⊢
    split at hread
    · next v vs hv hvs =>
      rw [h w v hv, ih hvs]
      exact hread
    · cases hread

theorem pairs?_mono (h : ∀ w v, value? d w = some v → value? e w = some v)
    {members : List (List Unit16 × Written)} {pairs : Members}
    (hread : pairs? d members = some pairs) : pairs? e members = some pairs := by
  induction members generalizing pairs with
  | nil => exact hread
  | cons m members ih =>
    obtain ⟨key, w⟩ := m
    rw [pairs?] at hread ⊢
    split at hread
    · next k v ps hk hv hps =>
      rw [hk, h w v hv, ih hps]
      exact hread
    · cases hread

/-- One more level of nesting harms nothing. -/
theorem value?_succ (d : Nat) (w : Written) (v : Json) (h : value? d w = some v) :
    value? (d + 1) w = some v := by
  induction d generalizing w v with
  | zero =>
    cases w with
    | list items => simp [value?] at h
    | object members => simp [value?] at h
    | _ => exact h
  | succ d ih =>
    cases w with
    | list items =>
      rw [value?, if_neg (Nat.succ_ne_zero _)] at h ⊢
      obtain ⟨values, hvalues, rfl⟩ := Option.map_eq_some_iff.mp h
      rw [Nat.add_sub_cancel] at hvalues ⊢
      rw [values?_mono ih hvalues, Option.map_some]
    | object members =>
      rw [value?, if_neg (Nat.succ_ne_zero _)] at h ⊢
      obtain ⟨pairs, hpairs, rfl⟩ := Option.map_eq_some_iff.mp h
      rw [Nat.add_sub_cancel] at hpairs ⊢
      rw [pairs?_mono ih hpairs, Option.map_some]
    | _ => exact h

end Depth

/-! ### Blank bodies -/

theorem written?_of_blank {l : List Char} (h : ∀ c ∈ l, c ∈ [' ', '\t', '\n', '\x0c', '\r'])
    (fuel : Nat) : written? fuel l = none := by
  cases fuel with
  | zero => rfl
  | succ fuel =>
    have hskip : skip l = [] ∨ ∃ rest, skip l = '\x0c' :: rest := by
      cases hl : skip l with
      | nil => exact .inl rfl
      | cons c rest =>
        have hmem : c ∈ l := (List.dropWhile_sublist _).subset (hl ▸ List.mem_cons_self)
        have hkept := List.head?_dropWhile_not
          (fun c => c == ' ' || c == '\t' || c == '\n' || c == '\r') l
        rw [← skip, hl] at hkept
        have hblank := h c hmem
        simp only [List.mem_cons, List.not_mem_nil, or_false] at hblank
        rcases hblank with rfl | rfl | rfl | rfl | rfl
        all_goals simp at hkept
        exact .inr ⟨rest, rfl⟩
    rcases hskip with hskip | ⟨rest, hskip⟩
    · rw [written?, hskip]
      rfl
    · rw [written?, hskip]
      rfl

theorem of_isBlankBody {bytes : Bytes} (h : isBlankBody bytes = true) :
    ∃ s, Utf8.decode? bytes = some s ∧ Written.ofText? s = none := by
  have hbytes : ∀ b ∈ bytes, b.toNat ∈ [0x20, 0x09, 0x0A, 0x0C, 0x0D] := by
    intro b hb
    have hone := List.all_eq_true.mp h b hb
    simp only [Bool.or_eq_true, beq_iff_eq, or_assoc] at hone
    rcases hone with rfl | rfl | rfl | rfl | rfl
    all_goals decide
  have hascii : ∀ b ∈ bytes, b.toNat < 0x80 := by
    intro b hb
    have hone := hbytes b hb
    simp only [List.mem_cons, List.not_mem_nil, or_false] at hone
    omega
  refine ⟨_, Utf8.decode?_of_ascii hascii, ?_⟩
  rw [Written.ofText?, String.toList_ofList, written?_of_blank]
  intro c hc
  obtain ⟨b, hb, rfl⟩ := List.mem_map.mp hc
  have hone := hbytes b hb
  simp only [List.mem_cons, List.not_mem_nil, or_false] at hone
  rcases hone with h | h | h | h | h
  all_goals rw [h]; decide

theorem not_isBlankBody {bytes : Bytes} {s : String} {w : Written}
    (hs : Utf8.decode? bytes = some s) (hw : Written.ofText? s = some w) :
    isBlankBody bytes = false := by
  rw [Bool.eq_false_iff]
  intro hblank
  obtain ⟨s', hs', hnone⟩ := of_isBlankBody hblank
  obtain rfl := Option.some.inj (hs.symm.trans hs')
  rw [hnone] at hw
  cases hw

theorem Written.ofBytes?_of_isBlankBody {bytes : Bytes} (h : isBlankBody bytes = true) :
    ofBytes? bytes = none := by
  obtain ⟨s, hs, hnone⟩ := of_isBlankBody h
  rw [ofBytes?_of_decode? hs, hnone]

/-! ### Fields by their values -/

/-- A field, and the member that it stands for within some depth. -/
def StandsFor (d : Nat) (field : String × Written) (pair : String × Json) : Prop :=
  field.1 = pair.1 ∧ value? d field.2 = some pair.2

theorem fields_of_pairs? {d : Nat} {members : List (List Unit16 × Written)} {pairs : Members}
    (h : pairs? d members = some pairs) :
    ∃ fields, List.Forall₂ IsField members fields ∧ List.Forall₂ (StandsFor d) fields pairs := by
  induction members generalizing pairs with
  | nil =>
    obtain rfl : [] = pairs := Option.some.inj h
    exact ⟨[], .nil, .nil⟩
  | cons m members ih =>
    obtain ⟨key, w⟩ := m
    rw [pairs?] at h
    split at h
    · next k v ps hk hv hps =>
      obtain rfl := Option.some.inj h
      obtain ⟨fields, hfields, hpairs⟩ := ih hps
      exact ⟨(k, w) :: fields, .cons ⟨hk, rfl⟩ hfields, .cons ⟨rfl, hv⟩ hpairs⟩
    · cases h

section Fields

variable {d : Nat} {fields : List (String × Written)} {pairs : Members}
  (h : List.Forall₂ (StandsFor d) fields pairs)

include h

theorem keys_of_standsFor : fields.map Prod.fst = pairs.map Prod.fst := by
  induction h with
  | nil => rfl
  | cons hfirst _ ih => rw [List.map_cons, List.map_cons, hfirst.1, ih]

theorem get?_of_standsFor_none {name : String} (hget : Keyed.get? name pairs = none) :
    Keyed.get? name fields = none := by
  rw [Keyed.get?_eq_none_iff] at hget ⊢
  rwa [keys_of_standsFor h]

theorem get?_of_standsFor {name : String} {v : Json} (hget : Keyed.get? name pairs = some v) :
    ∃ w, Keyed.get? name fields = some w ∧ value? d w = some v := by
  induction h with
  | nil => cases hget
  | @cons field pair fields pairs hfirst _ ih =>
    obtain ⟨k, w⟩ := field
    obtain ⟨k', v'⟩ := pair
    obtain ⟨rfl, hv⟩ := hfirst
    rw [Keyed.get?_cons] at hget ⊢
    split at hget
    · next hk =>
      rw [if_pos hk]
      exact ⟨w, rfl, hget ▸ hv⟩
    · next hk =>
      rw [if_neg hk]
      exact ih hget

/-- A field is read as what every tree of its value is read as. -/
theorem field?_of_standsFor {α : Type} {read : Written → Option α} (default : α) {a : α}
    {name : String} {v : Json} (hget : Keyed.get? name pairs = some v)
    (hread : ∀ w, value? d w = some v → read w = some a) :
    field? read default name fields = some a := by
  obtain ⟨w, hw, hv⟩ := get?_of_standsFor h hget
  rw [field?, hw]
  exact hread w hv

theorem field?_absent {α : Type} {read : Written → Option α} {default : α} {name : String}
    (hget : Keyed.get? name pairs = none) : field? read default name fields = some default := by
  rw [field?, get?_of_standsFor_none h hget]

end Fields

/-! ### Trees by their values -/

variable {d : Nat} {w : Written}

theorem text?_of_value? {s : String} (h : value? d w = some (.text s)) : w.text? = some s := by
  cases w with
  | text units => simpa [value?, Written.text?] using h
  | _ => simp [value?] at h

theorem nullable_text?_of_value? {o : Option String} (h : value? d w = some (text? o)) :
    nullable Written.text? w = some o := by
  cases o with
  | none =>
    cases w with
    | null => rfl
    | _ => simp [value?, text?] at h
  | some s =>
    have hread := text?_of_value? h
    cases w with
    | null => simp [Written.text?] at hread
    | _ => rw [nullable, hread, Option.map_some]; simp

theorem nullable_members?_of_value? {members : Members} (h : value? d w = some (.object members)) :
    nullable (Written.members? d) w = some (some members) := by
  cases w with
  | object ms =>
    rw [nullable, Written.members?, h, Option.map_some]
    simp
  | _ => simp [value?] at h

theorem field?_nullable_text? {fields : List (String × Written)} {pairs : Members}
    (h : List.Forall₂ (StandsFor d) fields pairs) {name : String} {o : Option String}
    (hget : (Keyed.get? name pairs).getD .null = text? o) :
    field? (nullable Written.text?) none name fields = some o := by
  cases hname : Keyed.get? name pairs with
  | none =>
    rw [hname, Option.getD_none] at hget
    have habsent : o = none := by
      cases o with
      | none => rfl
      | some s => cases hget
    rw [field?_absent h hname, habsent]
  | some v =>
    rw [hname, Option.getD_some] at hget
    refine field?_of_standsFor h none hname fun w hw => ?_
    rw [hget] at hw
    exact nullable_text?_of_value? hw

end Json

end Gatehouse
