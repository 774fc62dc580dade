import Gatehouse.Proofs.Access.Route
import Gatehouse.Proofs.Text.Blank
import Gatehouse.Proofs.Url.Dots

/-!
# Which paths are forwarded

The grammar of routes as it is documented: the paths that stand by themselves, and those that hold a
name or an id. It is said here without a reader, so that reading can be compared with it. Reading a
path inverts writing a route, hence a path is classified exactly if the grammar derives it: no
production is shadowed by one that is tried before it, and nothing is let through beside them.
-/

namespace Gatehouse

/-! ### Ids -/

/-- A number of dots, each of them plain or encoded in either case. -/
inductive Dots : Nat → List Char → Prop where
  | nil : Dots 0 []
  | plain {n : Nat} {l : List Char} (h : Dots n l) : Dots (n + 1) ('.' :: l)
  | encoded {n : Nat} {l : List Char} {e : Char} (he : e = 'e' ∨ e = 'E') (h : Dots n l) :
    Dots (n + 1) ('%' :: '2' :: e :: l)

/-- What an id is: not blank, without `/` and `?`, and not one or two dots in any spelling. -/
structure IsId (id : String) : Prop where
  named : ∃ c ∈ id.toList, Text.isBlank c = false
  slash : '/' ∉ id.toList
  question : '?' ∉ id.toList
  dot : ¬Dots 1 id.toList
  dots : ¬Dots 2 id.toList

theorem eq_of_toLower_eq_e {e : Char} (he : e.toLower = 'e') : e = 'e' ∨ e = 'E' := by
  rcases toLower_cases e with hsame | ⟨-, -, hval⟩
  · exact .inl (hsame.symm.trans he)
  · rw [he] at hval
    exact .inr (Char.toNat_inj.mp (Nat.add_right_cancel hval.symm))

theorem foldDots_eq_replicate_iff {l : List Char} {n : Nat} :
    foldDots l = List.replicate n '.' ↔ Dots n l := by
  constructor
  · intro h
    fun_induction foldDots l generalizing n with
    | case1 e rest he ih =>
      cases n with
      | zero => cases h
      | succ n => exact .encoded (eq_of_toLower_eq_e he) (ih (List.cons.inj h).2)
    | case2 e rest he ih =>
      cases n with
      | zero => cases h
      | succ n => exact absurd (List.cons.inj h).1 (by decide)
    | case3 c rest hshape ih =>
      cases n with
      | zero => cases h
      | succ n =>
        obtain ⟨hc, hrest⟩ := List.cons.inj h
        rw [Url.eq_of_toLower_eq hc (by decide)]
        exact .plain (ih hrest)
    | case4 =>
      cases n with
      | zero => exact .nil
      | succ n => cases h
  · intro h
    induction h with
    | nil => rfl
    | plain h ih =>
      rw [Url.foldDots_cons, ih]
      · rfl
      -- a plain dot starts no encoded one
      · intro _ _ hpercent
        exact absurd hpercent (by decide)
    | @encoded n l e he h ih =>
      have hsmall : e.toLower = 'e' := by
        rcases he with rfl | rfl
        all_goals decide
      rw [Url.foldDots_encoded hsmall, ih]
      rfl

theorem isResourceId_iff {id : String} : isResourceId id = true ↔ IsId id := by
  have hone : foldDots id.toList = List.replicate 1 '.' ↔ Dots 1 id.toList :=
    foldDots_eq_replicate_iff
  have htwo : foldDots id.toList = List.replicate 2 '.' ↔ Dots 2 id.toList :=
    foldDots_eq_replicate_iff
  rw [List.replicate_one] at hone
  rw [List.replicate_succ, List.replicate_one] at htwo
  simp only [isResourceId, Bool.and_eq_true, Bool.not_eq_true', List.contains_eq_mem,
    decide_eq_false_iff_not, decide_eq_true_eq, ne_eq, hone, htwo, Text.trim_eq_empty_iff]
  constructor
  · rintro ⟨⟨⟨⟨hnamed, hquestion⟩, hslash⟩, hdot⟩, hdots⟩
    refine ⟨?_, hslash, hquestion, hdot, hdots⟩
    simpa using hnamed
  · intro h
    refine ⟨⟨⟨⟨?_, h.question⟩, h.slash⟩, h.dot⟩, h.dots⟩
    simpa using h.named

/-! ### Names -/

/-- The paths that stand by themselves and are answered in JSON. -/
def exactPaths : List String :=
  ["/health", "/models", "/openapi.json", "/dashboard/data", "/history", "/run", "/run_async",
    "/undo", "/check", "/jobs", "/plans", "/events", "/terminal/sessions"]

def browserNames : List String :=
  ["status", "pages", "action", "navigate", "click", "fill", "extract_text", "screenshot",
    "wait_for_selector", "evaluate_js", "close"]

def terminalNames : List String :=
  ["output", "input", "close"]

def planNames : List String :=
  ["approve", "approve_async", "reject", "undo", "retry_failed", "retry_failed_async"]

theorem Resource.mem_all (r : Resource) : r ∈ Resource.all := by
  cases r <;> decide

theorem BrowserAction.mem_all (a : BrowserAction) : a ∈ BrowserAction.all := by
  cases a <;> decide

theorem TerminalAction.mem_all (a : TerminalAction) : a ∈ TerminalAction.all := by
  cases a <;> decide

theorem PlanAction.mem_all (a : PlanAction) : a ∈ PlanAction.all := by
  cases a <;> decide

section Names

variable {name : String}

theorem mem_map_iff_of_all {α : Type} (text : α → String) {all : List α} (hall : ∀ a, a ∈ all) :
    name ∈ all.map text ↔ ∃ a, text a = name := by
  simp [List.mem_map, hall]

theorem mem_exactPaths_iff : name ∈ exactPaths ↔ ∃ r : Resource, r.path = name :=
  mem_map_iff_of_all Resource.path Resource.mem_all

theorem mem_browserNames_iff : name ∈ browserNames ↔ ∃ a : BrowserAction, a.name = name :=
  mem_map_iff_of_all BrowserAction.name BrowserAction.mem_all

theorem mem_terminalNames_iff : name ∈ terminalNames ↔ ∃ a : TerminalAction, a.name = name :=
  mem_map_iff_of_all TerminalAction.name TerminalAction.mem_all

theorem mem_planNames_iff : name ∈ planNames ↔ ∃ a : PlanAction, a.name = name :=
  mem_map_iff_of_all PlanAction.name PlanAction.mem_all

end Names

theorem TerminalAction.ofName?_name (a : TerminalAction) : ofName? a.name = some a := by
  cases a <;> decide

theorem PlanAction.ofName?_name (a : PlanAction) : ofName? a.name = some a := by
  cases a <;> decide

theorem PlanAction.name_ne_stream (a : PlanAction) : a.name ≠ "stream" := by
  cases a <;> decide

theorem PlanAction.slash_not_mem_name (a : PlanAction) : '/' ∉ a.name.toList := by
  cases a <;> decide

namespace Route

/-! ### Reading what is written -/

def idStarts : List String :=
  ["/terminal/sessions/", "/jobs/", "/plans/"]

/-- What is tried before a path is read after its start. -/
structure Unmatched (path : String) : Prop where
  resource : (Resource.all.find? fun r => r.path = path) = none
  dashboard : path ≠ "/dashboard"
  eventStream : path ≠ "/events/stream"
  browser : Text.after? "/browser/" path = none

theorem unmatched_append (start : String) (h : start ∈ idStarts) (rest : String) :
    Unmatched (start ++ rest) := by
  have hresources : ∀ start ∈ idStarts, ∀ r ∈ Resource.all, Text.after? start r.path = none := by
    decide
  have hothers : ∀ start ∈ idStarts, Text.after? start "/dashboard" = none ∧
      Text.after? start "/events/stream" = none ∧
      ¬"/browser/".toList <+: start.toList ∧ ¬start.toList <+: "/browser/".toList := by
    decide
  obtain ⟨hdashboard, hevents, hbrowser, hstart⟩ := hothers start h
  have hne {path : String} (hnone : Text.after? start path = none) : path ≠ start ++ rest := by
    rintro rfl
    rw [Text.after?_append] at hnone
    cases hnone
  refine ⟨?_, (hne hdashboard).symm, (hne hevents).symm,
    Text.after?_append_eq_none hbrowser hstart rest⟩
  rw [List.find?_eq_none]
  intro r hr hpath
  exact hne (hresources start h r hr) (of_decide_eq_true hpath)

theorem ofPath?_terminals (rest : String) :
    ofPath? ("/terminal/sessions/" ++ rest) = ofTerminal? ("/" ++ rest) := by
  obtain ⟨hresource, hdashboard, hevents, hbrowser⟩ :=
    unmatched_append "/terminal/sessions/" (by decide) rest
  have hafter : Text.after? "/terminal/sessions" ("/terminal/sessions/" ++ rest)
      = some ("/" ++ rest) := by
    rw [Text.after?_eq_some_iff, ← String.toList_inj]
    simp
  rw [ofPath?, hresource]
  simp only [if_neg hdashboard, if_neg hevents, hbrowser, hafter]

def collections : List String :=
  ["jobs", "plans"]

theorem ofPath?_collection {collection : String} (h : collection ∈ collections) (rest : String) :
    ofPath? ("/" ++ collection ++ "/" ++ rest)
      = ofSegments? (collection :: Text.split '/' rest) := by
  have hstarts : ∀ collection ∈ collections, "/" ++ collection ++ "/" ∈ idStarts ∧
      ¬"/terminal/sessions".toList <+: ("/" ++ collection ++ "/").toList ∧
      ¬("/" ++ collection ++ "/").toList <+: "/terminal/sessions".toList ∧
      '/' ∉ collection.toList := by
    decide
  obtain ⟨hstart, hterminal, hshort, hfree⟩ := hstarts collection h
  obtain ⟨hresource, hdashboard, hevents, hbrowser⟩ := unmatched_append _ hstart rest
  have hnone : Text.after? "/terminal/sessions" ("/" ++ collection ++ "/" ++ rest) = none :=
    Text.after?_append_eq_none hterminal hshort rest
  have hafter : Text.after? "/" ("/" ++ collection ++ "/" ++ rest)
      = some (collection ++ "/" ++ rest) := by
    rw [Text.after?_eq_some_iff, ← String.toList_inj]
    simp
  have hsplit : Text.split '/' (collection ++ "/" ++ rest)
      = collection :: Text.split '/' rest := by
    rw [Text.split_of_toList_eq (a := collection) (b := rest) (by simp),
      Text.split_of_not_mem hfree]
    rfl
  rw [ofPath?, hresource]
  simp only [if_neg hdashboard, if_neg hevents, hbrowser, hnone, hafter, Option.bind_some, hsplit]

theorem ofTerminal?_append {id : String} (hid : isResourceId id = true) (a : TerminalAction) :
    ofTerminal? ("/" ++ (id ++ "/" ++ a.name)) = some (terminal id a) := by
  have hcut : Text.cut '/' (id ++ "/" ++ a.name) = some (id, a.name) :=
    Text.cut_of_toList_eq (by simp) (slash_not_mem_of_isResourceId hid)
  simp only [ofTerminal?, Text.after?_append, hcut, TerminalAction.ofName?_name, if_pos hid,
    Option.bind_eq_bind, Option.bind_some]

theorem ofPath?_member (collection : String) (h : collection ∈ collections) {id : String}
    (hid : isResourceId id = true) :
    ofPath? ("/" ++ collection ++ "/" ++ id) = ofSegments? [collection, id] := by
  rw [ofPath?_collection h, Text.split_of_not_mem (slash_not_mem_of_isResourceId hid)]

theorem ofPath?_action (collection action : String) (h : collection ∈ collections)
    (haction : '/' ∉ action.toList) {id : String} (hid : isResourceId id = true) :
    ofPath? ("/" ++ collection ++ "/" ++ id ++ ("/" ++ action))
      = ofSegments? [collection, id, action] := by
  have hsplit : Text.split '/' (id ++ "/" ++ action) = [id, action] := by
    rw [Text.split_of_toList_eq (a := id) (b := action) (by simp),
      Text.split_of_not_mem (slash_not_mem_of_isResourceId hid), Text.split_of_not_mem haction]
    rfl
  have hread := ofPath?_collection h (id ++ "/" ++ action)
  have htail : id ++ "/" ++ action = id ++ ("/" ++ action) := String.append_assoc
  rw [hsplit, htail, ← String.append_assoc] at hread
  exact hread

/-- A written path is read as the route it was written for. -/
theorem ofPath?_path {r : Route} (h : r.WellFormed) : ofPath? r.path = some r := by
  cases r with
  | resource r => cases r <;> decide
  | dashboard => decide
  | eventStream => decide
  | browser a => cases a <;> decide
  | terminal id a =>
    have hread := ofPath?_terminals (id ++ "/" ++ a.name)
    rw [ofTerminal?_append (h id rfl), ← String.append_assoc, ← String.append_assoc] at hread
    exact hread
  | job id => exact (ofPath?_member "jobs" (by decide) (h id rfl)).trans (if_pos (h id rfl))
  | jobStream id =>
    have hread := ofPath?_action "jobs" "stream" (by decide) (by decide) (h id rfl)
    exact hread.trans (if_pos (h id rfl))
  | jobCancel id =>
    have hread := ofPath?_action "jobs" "cancel" (by decide) (by decide) (h id rfl)
    exact hread.trans (if_pos (h id rfl))
  | plan id => exact (ofPath?_member "plans" (by decide) (h id rfl)).trans (if_pos (h id rfl))
  | planStream id =>
    have hread := ofPath?_action "plans" "stream" (by decide) (by decide) (h id rfl)
    exact hread.trans (if_pos (h id rfl))
  | planAction id a =>
    have hread := ofPath?_action "plans" a.name (by decide) a.slash_not_mem_name (h id rfl)
    rw [← String.append_assoc] at hread
    refine hread.trans ((if_pos (h id rfl)).trans ?_)
    rw [if_neg a.name_ne_stream, PlanAction.ofName?_name, Option.map_some]

theorem ofPath?_eq_some_iff {p : String} {r : Route} :
    ofPath? p = some r ↔ p = r.path ∧ r.WellFormed := by
  constructor
  · exact ofPath?_eq_some
  · rintro ⟨rfl, h⟩
    exact ofPath?_path h

theorem eq_of_path_eq {r t : Route} (hr : r.WellFormed) (ht : t.WellFormed)
    (h : r.path = t.path) : r = t := by
  have hread := ofPath?_path hr
  rw [h, ofPath?_path ht] at hread
  exact (Option.some.inj hread).symm

/-! ### The grammar -/

/-- The grammar of the paths that are forwarded, with how they are answered. -/
inductive Derives : ForwardKind → String → Prop where
  | exact {path : String} (h : path ∈ exactPaths) : Derives .json path
  | browser {name : String} (h : name ∈ browserNames) : Derives .json ("/browser/" ++ name)
  | terminal {id name : String} (hid : IsId id) (h : name ∈ terminalNames) :
    Derives .json ("/terminal/sessions/" ++ id ++ "/" ++ name)
  | job {id : String} (hid : IsId id) : Derives .json ("/jobs/" ++ id)
  | plan {id : String} (hid : IsId id) : Derives .json ("/plans/" ++ id)
  | cancel {id : String} (hid : IsId id) : Derives .json ("/jobs/" ++ id ++ "/cancel")
  | planAction {id name : String} (hid : IsId id) (h : name ∈ planNames) :
    Derives .json ("/plans/" ++ id ++ "/" ++ name)
  | dashboard : Derives .raw "/dashboard"
  | eventStream : Derives .raw "/events/stream"
  | jobStream {id : String} (hid : IsId id) : Derives .raw ("/jobs/" ++ id ++ "/stream")
  | planStream {id : String} (hid : IsId id) : Derives .raw ("/plans/" ++ id ++ "/stream")

theorem wellFormed_of_isId {r : Route} {id : String} (hid : IsId id) (hr : r.id? = some id) :
    r.WellFormed :=
  wellFormed_of_id? (isResourceId_iff.mpr hid) hr

theorem derives_iff {kind : ForwardKind} {p : String} :
    Derives kind p ↔ ∃ r : Route, r.WellFormed ∧ r.path = p ∧ r.kind = kind := by
  constructor
  · intro h
    cases h with
    | exact h =>
      obtain ⟨r, rfl⟩ := mem_exactPaths_iff.mp h
      exact ⟨resource r, wellFormed_of_id?_eq_none rfl, rfl, rfl⟩
    | browser h =>
      obtain ⟨a, rfl⟩ := mem_browserNames_iff.mp h
      exact ⟨browser a, wellFormed_of_id?_eq_none rfl, rfl, rfl⟩
    | terminal hid h =>
      obtain ⟨a, rfl⟩ := mem_terminalNames_iff.mp h
      exact ⟨terminal _ a, wellFormed_of_isId hid rfl, rfl, rfl⟩
    | job hid => exact ⟨job _, wellFormed_of_isId hid rfl, rfl, rfl⟩
    | plan hid => exact ⟨plan _, wellFormed_of_isId hid rfl, rfl, rfl⟩
    | cancel hid => exact ⟨jobCancel _, wellFormed_of_isId hid rfl, rfl, rfl⟩
    | planAction hid h =>
      obtain ⟨a, rfl⟩ := mem_planNames_iff.mp h
      exact ⟨planAction _ a, wellFormed_of_isId hid rfl, rfl, rfl⟩
    | dashboard => exact ⟨dashboard, wellFormed_of_id?_eq_none rfl, rfl, rfl⟩
    | eventStream => exact ⟨eventStream, wellFormed_of_id?_eq_none rfl, rfl, rfl⟩
    | jobStream hid => exact ⟨jobStream _, wellFormed_of_isId hid rfl, rfl, rfl⟩
    | planStream hid => exact ⟨planStream _, wellFormed_of_isId hid rfl, rfl, rfl⟩
  · rintro ⟨r, hformed, rfl, rfl⟩
    have hid : ∀ id, r.id? = some id → IsId id := fun id hr =>
      isResourceId_iff.mp (hformed id hr)
    cases r with
    | resource r => exact .exact (mem_exactPaths_iff.mpr ⟨r, rfl⟩)
    | dashboard => exact .dashboard
    | eventStream => exact .eventStream
    | browser a => exact .browser (mem_browserNames_iff.mpr ⟨a, rfl⟩)
    | terminal id a => exact .terminal (hid id rfl) (mem_terminalNames_iff.mpr ⟨a, rfl⟩)
    | job id => exact .job (hid id rfl)
    | jobStream id => exact .jobStream (hid id rfl)
    | jobCancel id => exact .cancel (hid id rfl)
    | plan id => exact .plan (hid id rfl)
    | planStream id => exact .planStream (hid id rfl)
    | planAction id a => exact .planAction (hid id rfl) (mem_planNames_iff.mpr ⟨a, rfl⟩)

theorem classify_eq_some_iff {p : String} {kind : ForwardKind} :
    classify p = some kind ↔ ∃ r : Route, r.WellFormed ∧ r.path = p ∧ r.kind = kind := by
  rw [classify, Option.map_eq_some_iff]
  constructor
  · rintro ⟨r, hread, hkind⟩
    obtain ⟨hpath, hformed⟩ := ofPath?_eq_some_iff.mp hread
    exact ⟨r, hformed, hpath.symm, hkind⟩
  · rintro ⟨r, hformed, hpath, hkind⟩
    exact ⟨r, ofPath?_eq_some_iff.mpr ⟨hpath.symm, hformed⟩, hkind⟩

theorem classify_iff_derives {p : String} {kind : ForwardKind} :
    classify p = some kind ↔ Derives kind p :=
  classify_eq_some_iff.trans derives_iff.symm

/-- A path is forwarded in JSON or as it is exactly if the grammar derives it so, and not at all
exactly if the grammar does not derive it. -/
theorem classify_derives (p : String) :
    (classify p = some .json ↔ Derives .json p) ∧ (classify p = some .raw ↔ Derives .raw p) ∧
      (classify p = none ↔ ¬Derives .json p ∧ ¬Derives .raw p) := by
  refine ⟨classify_iff_derives, classify_iff_derives, ?_⟩
  rw [← classify_iff_derives, ← classify_iff_derives]
  cases classify p with
  | none => simp
  | some kind => cases kind <;> simp

-- An id may be the name of a collection or an action, or hold dots among other characters.
example : classify "/plans/plans/undo" = some .json ∧ classify "/jobs/..%2e" = some .json ∧
    classify "/jobs/.%2E" = none ∧ classify "/jobs//cancel" = none := by
  decide

end Route

end Gatehouse
