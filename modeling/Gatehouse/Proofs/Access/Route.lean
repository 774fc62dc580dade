import Gatehouse.Access.Route
import Gatehouse.Proofs.Text.Split

/-!
# The grammar of routes

A path that is read as a route is the path of that route, and the id in it can stand for a resource.
What the rest of the theory needs of this are the segments of such a path: none of them is empty, and
none is a step up or down however its dots are spelt.
-/

namespace Gatehouse

/-! ### Resource ids -/

/-- A segment that names something: not empty, and not one or two dots in any spelling. -/
def IsNaming (piece : List Char) : Prop :=
  piece ≠ [] ∧ foldDots piece ≠ ['.'] ∧ foldDots piece ≠ ['.', '.']

instance (piece : List Char) : Decidable (IsNaming piece) :=
  inferInstanceAs (Decidable (_ ∧ _ ∧ _))

theorem slash_not_mem_of_isResourceId {id : String} (h : isResourceId id = true) :
    '/' ∉ id.toList := by
  simp only [isResourceId, Bool.and_eq_true, Bool.not_eq_true', List.contains_eq_mem,
    decide_eq_false_iff_not] at h
  exact h.1.1.2

theorem question_not_mem_of_isResourceId {id : String} (h : isResourceId id = true) :
    '?' ∉ id.toList := by
  simp only [isResourceId, Bool.and_eq_true, Bool.not_eq_true', List.contains_eq_mem,
    decide_eq_false_iff_not] at h
  exact h.1.1.1.2

theorem isNaming_of_isResourceId {id : String} (h : isResourceId id = true) :
    IsNaming id.toList := by
  simp only [isResourceId, Bool.and_eq_true, decide_eq_true_eq] at h
  refine ⟨fun hnil => h.1.1.1.1 ?_, h.1.2, h.2⟩
  simp [Text.trim, hnil, Text.trimChars, Text.dropEnd]

theorem isNaming_last {before : List Char} {id : String}
    (hbefore : ∀ piece ∈ Text.splitChars '/' before, IsNaming piece)
    (hid : isResourceId id = true) :
    ∀ piece ∈ Text.splitChars '/' (before ++ '/' :: id.toList), IsNaming piece := by
  rw [Text.splitChars_append_sep,
    Text.splitChars_of_not_mem (slash_not_mem_of_isResourceId hid)]
  intro piece hpiece
  rcases List.mem_append.mp hpiece with hp | hp
  · exact hbefore piece hp
  · rw [List.mem_singleton.mp hp]
    exact isNaming_of_isResourceId hid

theorem isNaming_below {before after : List Char} {id : String}
    (hbefore : ∀ piece ∈ Text.splitChars '/' before, IsNaming piece)
    (hid : isResourceId id = true)
    (hafter : ∀ piece ∈ Text.splitChars '/' after, IsNaming piece) :
    ∀ piece ∈ Text.splitChars '/' (before ++ '/' :: (id.toList ++ '/' :: after)),
      IsNaming piece := by
  rw [← List.cons_append, ← List.append_assoc, Text.splitChars_append_sep]
  intro piece hpiece
  rcases List.mem_append.mp hpiece with hp | hp
  · exact isNaming_last hbefore hid piece hp
  · exact hafter piece hp

/-! ### Names -/

theorem BrowserAction.name_of_ofName? {s : String} {a : BrowserAction} (h : ofName? s = some a) :
    a.name = s := by
  rw [ofName?] at h
  simpa using List.find?_some h

theorem TerminalAction.name_of_ofName? {s : String} {a : TerminalAction}
    (h : ofName? s = some a) : a.name = s := by
  rw [ofName?] at h
  simpa using List.find?_some h

theorem PlanAction.name_of_ofName? {s : String} {a : PlanAction} (h : ofName? s = some a) :
    a.name = s := by
  rw [ofName?] at h
  simpa using List.find?_some h

namespace Route

/-- The id in a route. -/
def id? : Route → Option String
  | terminal id _ => some id
  | job id => some id
  | jobStream id => some id
  | jobCancel id => some id
  | plan id => some id
  | planStream id => some id
  | planAction id _ => some id
  | _ => none

/-- A route whose id, if it has one, can stand for a resource. -/
def WellFormed (r : Route) : Prop :=
  ∀ id, r.id? = some id → isResourceId id = true

theorem wellFormed_of_id? {r : Route} {id : String} (hid : isResourceId id = true)
    (hr : r.id? = some id) : r.WellFormed := by
  intro other hother
  rw [hr, Option.some.injEq] at hother
  rw [← hother]
  exact hid

theorem wellFormed_of_id?_eq_none {r : Route} (hr : r.id? = none) : r.WellFormed := by
  intro id hid
  rw [hr] at hid
  cases hid

/-! ### Written paths -/

@[simp] theorem path_resource (r : Resource) : (resource r).path = r.path := rfl

@[simp] theorem path_browser (a : BrowserAction) : (browser a).path = "/browser/" ++ a.name := rfl

@[simp] theorem path_terminal (id : String) (a : TerminalAction) :
    (terminal id a).path = "/terminal/sessions/" ++ id ++ "/" ++ a.name := rfl

@[simp] theorem path_job (id : String) : (job id).path = "/jobs/" ++ id := rfl

@[simp] theorem path_jobStream (id : String) :
    (jobStream id).path = "/jobs/" ++ id ++ "/stream" := rfl

@[simp] theorem path_jobCancel (id : String) :
    (jobCancel id).path = "/jobs/" ++ id ++ "/cancel" := rfl

@[simp] theorem path_plan (id : String) : (plan id).path = "/plans/" ++ id := rfl

@[simp] theorem path_planStream (id : String) :
    (planStream id).path = "/plans/" ++ id ++ "/stream" := rfl

@[simp] theorem path_planAction (id : String) (a : PlanAction) :
    (planAction id a).path = "/plans/" ++ id ++ "/" ++ a.name := rfl

/-! ### Reading inverts writing -/

theorem ofTerminal?_eq_some {rest : String} {r : Route} (h : ofTerminal? rest = some r) :
    "/terminal/sessions" ++ rest = r.path ∧ r.WellFormed := by
  simp only [ofTerminal?, Option.bind_eq_bind, Option.bind_eq_some_iff] at h
  obtain ⟨below, hbelow, ⟨id, name⟩, hcut, a, ha, hid⟩ := h
  rw [Text.after?_eq_some_iff] at hbelow
  obtain ⟨hparts, -⟩ := Text.cut_eq_some hcut
  have hname := TerminalAction.name_of_ofName? ha
  split at hid
  · next hok =>
    obtain rfl := Option.some.inj hid
    refine ⟨?_, wellFormed_of_id? hok rfl⟩
    rw [← String.toList_inj]
    simp [hbelow, hparts, hname]
  · simp at hid

theorem ofSegments?_eq_some {pieces : List String} {r : Route} (h : ofSegments? pieces = some r) :
    String.ofList (pieces.flatMap fun s => '/' :: s.toList) = r.path ∧ r.WellFormed := by
  unfold ofSegments? at h
  split at h
  · next id =>
    split at h
    · next hid =>
      obtain rfl := Option.some.inj h
      exact ⟨by rw [← String.toList_inj]; simp, wellFormed_of_id? hid rfl⟩
    · simp at h
  · next id =>
    split at h
    · next hid =>
      obtain rfl := Option.some.inj h
      exact ⟨by rw [← String.toList_inj]; simp, wellFormed_of_id? hid rfl⟩
    · simp at h
  · next id action =>
    split at h
    · next hid =>
      split at h
      · next haction =>
        obtain rfl := Option.some.inj h
        exact ⟨by rw [← String.toList_inj]; simp [haction], wellFormed_of_id? hid rfl⟩
      · split at h
        · next haction =>
          obtain rfl := Option.some.inj h
          exact ⟨by rw [← String.toList_inj]; simp [haction], wellFormed_of_id? hid rfl⟩
        · simp at h
    · simp at h
  · next id action =>
    split at h
    · next hid =>
      split at h
      · next haction =>
        obtain rfl := Option.some.inj h
        exact ⟨by rw [← String.toList_inj]; simp [haction], wellFormed_of_id? hid rfl⟩
      · obtain ⟨a, ha, rfl⟩ := Option.map_eq_some_iff.mp h
        have haction := PlanAction.name_of_ofName? ha
        exact ⟨by rw [← String.toList_inj]; simp [haction], wellFormed_of_id? hid rfl⟩
    · simp at h
  · simp at h

theorem ofPath?_eq_some {p : String} {r : Route} (h : ofPath? p = some r) :
    p = r.path ∧ r.WellFormed := by
  unfold ofPath? at h
  split at h
  · next resource hfind =>
    obtain rfl := Option.some.inj h
    have hpath : resource.path = p := by simpa using List.find?_some hfind
    exact ⟨hpath.symm, wellFormed_of_id?_eq_none rfl⟩
  · split at h
    · next hp =>
      obtain rfl := Option.some.inj h
      exact ⟨hp, wellFormed_of_id?_eq_none rfl⟩
    · split at h
      · next hp =>
        obtain rfl := Option.some.inj h
        exact ⟨hp, wellFormed_of_id?_eq_none rfl⟩
      · split at h
        · next action hafter =>
          obtain ⟨a, ha, rfl⟩ := Option.map_eq_some_iff.mp h
          have haction := BrowserAction.name_of_ofName? ha
          refine ⟨?_, wellFormed_of_id?_eq_none rfl⟩
          rw [Text.after?_eq_some_iff.mp hafter, path_browser, haction]
        · split at h
          · next rest hafter =>
            rw [Text.after?_eq_some_iff.mp hafter]
            exact ofTerminal?_eq_some h
          · obtain ⟨rest, hafter, hsegments⟩ := Option.bind_eq_some_iff.mp h
            obtain ⟨hpath, hwritten⟩ := ofSegments?_eq_some hsegments
            refine ⟨?_, hwritten⟩
            rw [← hpath, Text.after?_eq_some_iff.mp hafter, ← String.toList_inj, Text.split,
              List.flatMap_map]
            simpa using (Text.flatMap_splitChars '/' rest.toList).symm

/-! ### Segments of a route -/

theorem Resource.isNaming_path (r : Resource) :
    ∃ rest, r.path.toList = '/' :: rest ∧ ∀ piece ∈ Text.splitChars '/' rest, IsNaming piece := by
  refine ⟨r.path.toList.tail, ?_⟩
  cases r <;> decide

/-- The segments below the root of a path that is read as a route all name something. -/
theorem isNaming_of_ofPath? {p : String} {r : Route} (h : ofPath? p = some r) :
    ∃ rest, p.toList = '/' :: rest ∧ ∀ piece ∈ Text.splitChars '/' rest, IsNaming piece := by
  obtain ⟨rfl, hformed⟩ := ofPath?_eq_some h
  cases r with
  | resource r => exact Resource.isNaming_path r
  | dashboard => exact ⟨"dashboard".toList, rfl, by decide⟩
  | eventStream => exact ⟨"events/stream".toList, rfl, by decide⟩
  | browser a => exact ⟨("browser/" ++ a.name).toList, by simp, by cases a <;> decide⟩
  | terminal id a =>
    refine ⟨"terminal/sessions".toList ++ '/' :: (id.toList ++ '/' :: a.name.toList), by simp, ?_⟩
    exact isNaming_below (by decide) (hformed id rfl) (by cases a <;> decide)
  | job id =>
    refine ⟨"jobs".toList ++ '/' :: id.toList, by simp, ?_⟩
    exact isNaming_last (by decide) (hformed id rfl)
  | jobStream id =>
    refine ⟨"jobs".toList ++ '/' :: (id.toList ++ '/' :: "stream".toList), by simp, ?_⟩
    exact isNaming_below (by decide) (hformed id rfl) (by decide)
  | jobCancel id =>
    refine ⟨"jobs".toList ++ '/' :: (id.toList ++ '/' :: "cancel".toList), by simp, ?_⟩
    exact isNaming_below (by decide) (hformed id rfl) (by decide)
  | plan id =>
    refine ⟨"plans".toList ++ '/' :: id.toList, by simp, ?_⟩
    exact isNaming_last (by decide) (hformed id rfl)
  | planStream id =>
    refine ⟨"plans".toList ++ '/' :: (id.toList ++ '/' :: "stream".toList), by simp, ?_⟩
    exact isNaming_below (by decide) (hformed id rfl) (by decide)
  | planAction id a =>
    refine ⟨"plans".toList ++ '/' :: (id.toList ++ '/' :: a.name.toList), by simp, ?_⟩
    exact isNaming_below (by decide) (hformed id rfl) (by cases a <;> decide)

/-- Nothing in a path that is read as a route starts a query. -/
theorem question_not_mem_of_ofPath? {p : String} {r : Route} (h : ofPath? p = some r) :
    '?' ∉ p.toList := by
  obtain ⟨rfl, hformed⟩ := ofPath?_eq_some h
  have hid : ∀ id, r.id? = some id → '?' ∉ id.toList := fun id hr =>
    question_not_mem_of_isResourceId (hformed id hr)
  cases r with
  | resource r => cases r <;> decide
  | dashboard => decide
  | eventStream => decide
  | browser a => cases a <;> decide
  | terminal id a => cases a <;> simp [TerminalAction.name, hid id rfl]
  | job id => simp [hid id rfl]
  | jobStream id => simp [hid id rfl]
  | jobCancel id => simp [hid id rfl]
  | plan id => simp [hid id rfl]
  | planStream id => simp [hid id rfl]
  | planAction id a => cases a <;> simp [PlanAction.name, hid id rfl]

end Route

end Gatehouse
