import Gatehouse.Proofs.Session.Issuing

/-!
# What a session is granted

The field `scopes` of a payload is read as wishes: the items of a list, or the parts between the commas
of a text. Where they are not all blank, the scopes that they name are granted and nothing else; a wish
that names no scope, or is no text at all, is refused with the whole order. Where nothing is wished for,
the session has every scope but `admin`. A field of any other kind holds no wish, so that it is
granted as much as a missing one.
-/

namespace Gatehouse

/-! ### Values that are no text -/

theorem Text.inNumber_toLower {c : Char} (h : inNumber c = true) : inNumber c.toLower = true := by
  rw [inNumber, Bool.or_eq_true] at h
  rcases h with hdigit | hmark
  · rcases toLower_cases c with hsame | ⟨hlow, -, -⟩
    · rw [hsame, inNumber, hdigit, Bool.true_or]
    · simp only [Char.isDigit, Bool.and_eq_true, decide_eq_true_eq] at hdigit
      have hhigh : c.toNat ≤ 57 := hdigit.2
      omega
  · have hmarks : ∀ c ∈ "+-.eNaNinfnull".toList, inNumber c.toLower = true :=
      List.all_eq_true.mp (by decide)
    exact hmarks c (List.contains_iff_mem.mp hmark)

namespace Scope

theorem fold_trim (s : String) : fold (Text.trim s) = fold s := by
  rw [fold, Text.trim_trim, fold]

/-- Every name of a scope has a letter that is in no number. -/
theorem all_inNumber_name (scope : Scope) : scope.name.toList.all Text.inNumber = false := by
  cases scope <;> decide

theorem fold_write {v : Json} (h : ∀ s, v ≠ .text s) : fold v.write = Text.lower v.write := by
  rw [fold, (Text.nonBlank?_eq_some_iff.mp (Json.nonBlank?_write h)).1]

theorem lower_bracketed_ne_name {first : Char} (hfirst : first.toLower ∉ ['a', 'r', 'p', 'u', 'c'])
    (l : List Char) (scope : Scope) : Text.lower (String.ofList (first :: l)) ≠ scope.name := by
  intro h
  have hhead := congrArg (fun s => s.toList.head?) h
  rw [Text.lower, String.toList_ofList, String.toList_ofList, List.map_cons, List.head?_cons] at hhead
  have hletter : scope.name.toList.head? ∈ ['a', 'r', 'p', 'u', 'c'].map some := by
    cases scope <;> decide
  rw [← hhead] at hletter
  obtain ⟨c, hc, heq⟩ := List.mem_map.mp hletter
  exact hfirst (Option.some.inj heq ▸ hc)

/-- A value that is no text is not written like a scope. -/
theorem fold_write_ne_name {v : Json} (h : ∀ s, v ≠ .text s) (scope : Scope) :
    fold v.write ≠ scope.name := by
  rw [fold_write h]
  cases v with
  | null => cases scope <;> decide
  | bool b => cases b <;> cases scope <;> decide
  | number n =>
    intro heq
    have hnumber : ∀ c ∈ scope.name.toList, Text.inNumber c = true := by
      rw [← heq, Json.write, Json.chars, String.ofList_toList, Text.lower, String.toList_ofList]
      intro c hc
      obtain ⟨a, ha, rfl⟩ := List.mem_map.mp hc
      exact Text.inNumber_toLower ((Json.numeral_write n).inNumber a ha)
    have hname := all_inNumber_name scope
    rw [List.all_eq_true.mpr hnumber] at hname
    cases hname
  | text s => exact absurd rfl (h s)
  | list items => exact lower_bracketed_ne_name (by decide) _ scope
  | object members => exact lower_bracketed_ne_name (by decide) _ scope

end Scope

/-! ### Wishes -/

namespace Desk

def wishes (payload : Json.Members) : List Json :=
  match Keyed.get? "scopes" payload with
  | some (.list items) => items
  | some (.text s) => (Text.split ',' s).map Json.text
  | none | some .null | some (.bool _) | some (.number _) | some (.object _) => []

/-- A wish that asks for nothing. -/
inductive Blank : Json → Prop where
  | text {s : String} (h : Text.trim s = "") : Blank (.text s)

/-- A wish for a scope: its name in any case, with or without blanks around it. -/
inductive AsksFor (scope : Scope) : Json → Prop where
  | text {s : String} (h : Scope.fold s = scope.name) : AsksFor scope (.text s)

def spelling : Json → String
  | .text s => s
  | v => v.write

variable {w : Json} {payload : Json.Members}

theorem names_eq_trimmedItems (payload : Json.Members) :
    Json.Members.names (Keyed.get? "scopes" payload)
      = Text.trimmedItems ((wishes payload).map spelling) := by
  rw [wishes]
  cases Keyed.get? "scopes" payload with
  | none => rfl
  | some v =>
    cases v with
    | text s =>
      rw [List.map_map, show spelling ∘ Json.text = id from rfl, List.map_id]
      rfl
    | list items => rfl
    | null | bool b | number n | object members => rfl

theorem spelling_of_ne (h : ∀ s, w ≠ .text s) : spelling w = w.write := by
  cases w with
  | text s => exact absurd rfl (h s)
  | null | bool b | number n | list items | object members => rfl

theorem trim_spelling_eq_empty_iff : Text.trim (spelling w) = "" ↔ Blank w := by
  constructor
  · intro h
    by_cases htext : ∃ s, w = .text s
    · obtain ⟨s, rfl⟩ := htext
      exact .text h
    · rw [not_exists] at htext
      obtain ⟨htrim, hne⟩ := Text.nonBlank?_eq_some_iff.mp (Json.nonBlank?_write htext)
      rw [spelling_of_ne htext, htrim] at h
      exact absurd h hne
  · rintro ⟨h⟩
    exact h

theorem fold_spelling_eq_name_iff {scope : Scope} :
    Scope.fold (spelling w) = scope.name ↔ AsksFor scope w := by
  constructor
  · intro h
    by_cases htext : ∃ s, w = .text s
    · obtain ⟨s, rfl⟩ := htext
      exact .text h
    · rw [not_exists] at htext
      rw [spelling_of_ne htext] at h
      exact absurd h (Scope.fold_write_ne_name htext scope)
  · rintro ⟨h⟩
    exact h

theorem not_blank_of_asksFor {scope : Scope} (h : AsksFor scope w) : ¬Blank w := by
  rw [← trim_spelling_eq_empty_iff, ← Scope.fold_eq_empty_iff, fold_spelling_eq_name_iff.mpr h]
  exact Scope.name_ne_empty scope

theorem mem_names_iff {n : String} :
    n ∈ Json.Members.names (Keyed.get? "scopes" payload)
      ↔ ∃ w ∈ wishes payload, ¬Blank w ∧ Text.trim (spelling w) = n := by
  rw [names_eq_trimmedItems, Text.trimmedItems, List.filterMap_map, List.mem_filterMap]
  refine exists_congr fun w => and_congr_right fun _ => ?_
  rw [Function.comp_apply, Text.nonBlank?_eq_some_iff, ← trim_spelling_eq_empty_iff, and_comm]
  refine and_congr_left ?_
  rintro rfl
  exact Iff.rfl

theorem names_eq_nil_iff :
    Json.Members.names (Keyed.get? "scopes" payload) = [] ↔ ∀ w ∈ wishes payload, Blank w := by
  rw [List.eq_nil_iff_forall_not_mem]
  constructor
  · intro h w hw
    by_contra hblank
    exact h _ (mem_names_iff.mpr ⟨w, hw, hblank, rfl⟩)
  · rintro h n hn
    obtain ⟨w, hw, hblank, -⟩ := mem_names_iff.mp hn
    exact hblank (h w hw)

/-! ### What is granted -/

variable {d : Desk} {caller : Caller} {scopes : List Scope}

theorem normalize_order_of_blank (h : ∀ w ∈ wishes payload, Blank w) :
    Scope.normalize (order caller payload).scopes = .ok Scope.operational := by
  rw [order, names_eq_nil_iff.mpr h]
  exact Scope.normalize_map_name (by decide) (by decide)

theorem scopes_order_of_not_blank (h : ∃ w ∈ wishes payload, ¬Blank w) :
    (order caller payload).scopes = Json.Members.names (Keyed.get? "scopes" payload) := by
  have hnames : Json.Members.names (Keyed.get? "scopes" payload) ≠ [] := by
    rw [ne_eq, names_eq_nil_iff]
    simpa using h
  rw [order]
  split
  · next hnil => exact absurd hnil hnames
  · rfl

/-- What is granted where anything is wished for. -/
theorem mem_of_normalize_order (h : ∃ w ∈ wishes payload, ¬Blank w)
    (hscopes : Scope.normalize (order caller payload).scopes = .ok scopes) (scope : Scope) :
    scope ∈ scopes ↔ ∃ w ∈ wishes payload, AsksFor scope w := by
  rw [scopes_order_of_not_blank h] at hscopes
  have hnames : Scope.distinctNames (Json.Members.names (Keyed.get? "scopes" payload)) ≠ [] := by
    obtain ⟨w, hw, hblank⟩ := h
    rw [ne_eq, Scope.distinctNames_eq_nil_iff]
    intro hall
    have hfold := hall _ (mem_names_iff.mpr ⟨w, hw, hblank, rfl⟩)
    rw [Scope.fold_trim, Scope.fold_eq_empty_iff, trim_spelling_eq_empty_iff] at hfold
    exact hblank hfold
  rw [Scope.mem_of_normalize hscopes hnames]
  constructor
  · rintro ⟨n, hn, hfold⟩
    obtain ⟨w, hw, -, rfl⟩ := mem_names_iff.mp hn
    rw [Scope.fold_trim, fold_spelling_eq_name_iff] at hfold
    exact ⟨w, hw, hfold⟩
  · rintro ⟨w, hw, hasks⟩
    refine ⟨_, mem_names_iff.mpr ⟨w, hw, not_blank_of_asksFor hasks, rfl⟩, ?_⟩
    rw [Scope.fold_trim, fold_spelling_eq_name_iff]
    exact hasks

/-- An order is granted just if every wish that is not blank is for a scope. -/
theorem exists_normalize_order_iff (caller : Caller) :
    (∃ scopes, Scope.normalize (order caller payload).scopes = .ok scopes)
      ↔ ∀ w ∈ wishes payload, Blank w ∨ ∃ scope, AsksFor scope w := by
  by_cases hblank : ∀ w ∈ wishes payload, Blank w
  · exact iff_of_true ⟨_, normalize_order_of_blank hblank⟩ fun w hw => .inl (hblank w hw)
  · rw [scopes_order_of_not_blank (by simpa using hblank), Scope.exists_normalize_iff]
    constructor
    · intro h w hw
      by_cases hw' : Blank w
      · exact .inl hw'
      · have hknown := h _ (mem_names_iff.mpr ⟨w, hw, hw', rfl⟩)
        rw [Scope.fold_trim, Scope.fold_eq_empty_iff, trim_spelling_eq_empty_iff] at hknown
        obtain ⟨scope, hscope⟩ := hknown.resolve_left hw'
        exact .inr ⟨scope, fold_spelling_eq_name_iff.mp hscope.symm⟩
    · rintro h n hn
      obtain ⟨w, hw, hw', rfl⟩ := mem_names_iff.mp hn
      obtain ⟨scope, hasks⟩ := (h w hw).resolve_left hw'
      exact .inr ⟨scope, by rw [Scope.fold_trim, fold_spelling_eq_name_iff.mpr hasks]⟩

theorem exists_issue_iff {sessionId : String} {now : Int} :
    (∃ s, d.issue caller payload sessionId now = .ok s)
      ↔ d.signer.isConfigured = true ∧
        (d.devices = [] ∨ ∃ id ∈ d.devices, (order caller payload).deviceId = some id) ∧
        ∀ w ∈ wishes payload, Blank w ∨ ∃ scope, AsksFor scope w := by
  rw [← exists_normalize_order_iff caller]
  constructor
  · rintro ⟨s, h⟩
    obtain ⟨hissue, hdevice⟩ := issue_eq_ok_iff.mp h
    obtain ⟨key, scopes, hkey, hscopes, -, -⟩ := Signer.of_issue hissue
    exact ⟨by rw [Signer.isConfigured, hkey, Option.isSome_some], hdevice, scopes, hscopes⟩
  · rintro ⟨hconfigured, hdevice, scopes, hscopes⟩
    obtain ⟨key, hkey⟩ := Option.isSome_iff_exists.mp hconfigured
    have hissue := Signer.issue_eq_ok hkey hscopes sessionId now
    exact ⟨⟨_, _⟩, issue_eq_ok_iff.mpr ⟨hissue, hdevice⟩⟩

/-- A session is issued just if all that is wished for are scopes, and it has these and no other. Where
nothing is wished for it has every scope but `admin`; a field that is neither a list nor a text has no
wishes, whatever it holds. -/
theorem grants_wishes (d : Desk) (caller : Caller) (payload : Json.Members) (sessionId : String)
    (now : Int) :
    ((∃ s, d.issue caller payload sessionId now = .ok s)
        ↔ d.signer.isConfigured = true ∧
          (d.devices = [] ∨ ∃ id ∈ d.devices, (order caller payload).deviceId = some id) ∧
          ∀ w ∈ wishes payload, Blank w ∨ ∃ scope, AsksFor scope w) ∧
      ∀ s, d.issue caller payload sessionId now = .ok s →
        (∃ key, d.signer.key = some key ∧ s.token = d.signer.token key s.claims) ∧
        ((∃ w ∈ wishes payload, ¬Blank w) → ∀ scope,
          scope ∈ s.claims.scopes ↔ ∃ w ∈ wishes payload, AsksFor scope w) ∧
        ((∀ w ∈ wishes payload, Blank w) → s.claims.scopes = Scope.operational) := by
  refine ⟨exists_issue_iff, fun s h => ?_⟩
  obtain ⟨hissue, -⟩ := issue_eq_ok_iff.mp h
  obtain ⟨key, scopes, hkey, hscopes, hclaims, htoken⟩ := Signer.of_issue hissue
  have hgranted : s.claims.scopes = scopes := by
    rw [hclaims, Signer.claims]
  rw [hgranted]
  refine ⟨⟨key, hkey, htoken⟩, fun hwish scope => ?_, fun hblank => ?_⟩
  · exact mem_of_normalize_order hwish hscopes scope
  · rw [normalize_order_of_blank hblank] at hscopes
    exact (Except.ok.inj hscopes).symm

/-- A number, a flag or an object in place of the names is granted every scope but `admin`, while the
same number in a list is refused. -/
theorem grants_wishes_mistyped :
    (∀ v ∈ [Json.int 5, .bool true, .object [("read", .bool true)]],
      ∃ s, Gate.pocketDesk.issue (.staticToken (some "dev-1")) [("scopes", v)] Gate.pocketId 1000
          = .ok s ∧
        s.claims.scopes = Scope.operational) ∧
      ¬∃ s, Gate.pocketDesk.issue (.staticToken (some "dev-1")) [("scopes", .list [.int 5])]
        Gate.pocketId 1000 = .ok s := by
  constructor
  · intro v hv
    have hwishes : wishes [("scopes", v)] = [] := by
      simp only [List.mem_cons, List.not_mem_nil, or_false] at hv
      rcases hv with rfl | rfl | rfl <;> rfl
    have hblank : ∀ w ∈ wishes [("scopes", v)], Blank w := by
      rw [hwishes]
      exact List.forall_mem_nil _
    obtain ⟨hissued, hgranted⟩ := grants_wishes Gate.pocketDesk (.staticToken (some "dev-1"))
      [("scopes", v)] Gate.pocketId 1000
    obtain ⟨s, hs⟩ := hissued.mpr ⟨by decide, .inr ⟨"dev-1", by decide, rfl⟩,
      fun w hw => .inl (hblank w hw)⟩
    exact ⟨s, hs, (hgranted s hs).2.2 hblank⟩
  · intro hissued
    obtain ⟨-, -, hknown⟩ := (grants_wishes _ _ _ _ _).1.mp hissued
    rcases hknown (.int 5) List.mem_cons_self with hblank | ⟨scope, hasks⟩
    · cases hblank
    · cases hasks

end Desk

end Gatehouse
