import Gatehouse.Proofs.Access.Grammar
import Gatehouse.Proofs.Access.Policy

/-!
# The table of scopes

What a POST requires is read off its path a second time, by endings and cuts of its own. On the paths
that are forwarded this reading agrees with the table that gives each production its scope, since an
id holds no slash that could move a cut. Where the table has no row, the policy for unscoped routes
decides.
-/

namespace Gatehouse

/-! ### The rows -/

def exactRows : List (String × Scope) :=
  [("/run", .run), ("/run_async", .run), ("/check", .run), ("/terminal/sessions", .run),
    ("/plans", .plan), ("/undo", .undo)]

def planRows : List (String × Scope) :=
  [("approve", .approve), ("approve_async", .approve), ("retry_failed", .approve),
    ("retry_failed_async", .approve), ("reject", .reject), ("undo", .undo)]

/-- The table of what a POST requires. -/
inductive Tabled : String → Scope → Prop where
  | exact {path : String} {scope : Scope} (h : (path, scope) ∈ exactRows) : Tabled path scope
  | plan {id name : String} {scope : Scope} (hid : IsId id) (h : (name, scope) ∈ planRows) :
    Tabled ("/plans/" ++ id ++ "/" ++ name) scope
  | cancel {id : String} (hid : IsId id) : Tabled ("/jobs/" ++ id ++ "/cancel") .cancel
  | terminal {id name : String} (hid : IsId id) (h : name ∈ ["input", "close"]) :
    Tabled ("/terminal/sessions/" ++ id ++ "/" ++ name) .run
  | browser {name : String} (h : name ∈ browserNames) : Tabled ("/browser/" ++ name) .run

namespace Route

theorem tabled_iff {p : String} {scope : Scope} :
    Tabled p scope ↔ ∃ r : Route, r.WellFormed ∧ r.path = p ∧ r.postScope? = some scope := by
  constructor
  · intro h
    cases h with
    | exact h =>
      have hall : ∀ row ∈ exactRows, ∃ r ∈ Resource.all, r.path = row.1 ∧
          (resource r).postScope? = some row.2 := by
        decide
      obtain ⟨r, -, hpath, hscope⟩ := hall _ h
      exact ⟨resource r, wellFormed_of_id?_eq_none rfl, hpath, hscope⟩
    | @plan id _ _ hid h =>
      have hall : ∀ row ∈ planRows, ∃ a ∈ PlanAction.all, a.name = row.1 ∧
          (planAction "" a).postScope? = some row.2 := by
        decide
      obtain ⟨a, -, rfl, hscope⟩ := hall _ h
      refine ⟨planAction id a, wellFormed_of_isId hid rfl, rfl, ?_⟩
      cases a <;> exact hscope
    | cancel hid => exact ⟨jobCancel _, wellFormed_of_isId hid rfl, rfl, rfl⟩
    | @terminal id _ hid h =>
      have hall : ∀ name ∈ ["input", "close"], ∃ a ∈ TerminalAction.all, a.name = name ∧
          (terminal "" a).postScope? = some .run := by
        decide
      obtain ⟨a, -, rfl, hscope⟩ := hall _ h
      refine ⟨terminal id a, wellFormed_of_isId hid rfl, rfl, ?_⟩
      cases a <;> exact hscope
    | browser h =>
      obtain ⟨a, rfl⟩ := mem_browserNames_iff.mp h
      exact ⟨browser a, wellFormed_of_id?_eq_none rfl, rfl, rfl⟩
  · rintro ⟨r, hformed, rfl, hscope⟩
    have hid : ∀ id, r.id? = some id → IsId id := fun id hr =>
      isResourceId_iff.mp (hformed id hr)
    cases r with
    | resource r =>
      cases r <;> cases hscope
      all_goals exact .exact (by decide)
    | browser a =>
      cases hscope
      exact .browser (mem_browserNames_iff.mpr ⟨a, rfl⟩)
    | terminal id a =>
      cases a <;> cases hscope
      all_goals exact .terminal (hid id rfl) (by decide)
    | jobCancel id =>
      cases hscope
      exact .cancel (hid id rfl)
    | planAction id a =>
      cases a <;> cases hscope
      all_goals exact .plan (hid id rfl) (by decide)
    | dashboard | eventStream | job _ | jobStream _ | plan _ | planStream _ => cases hscope

end Route

/-! ### What is read off a path -/

namespace Policy

theorem exists_resource_of_exactScope? {p : String} {scope : Scope}
    (h : exactScope? p = some scope) :
    ∃ r : Resource, r.path = p ∧ (Route.resource r).postScope? = some scope := by
  unfold exactScope? at h
  split at h
  all_goals cases h
  · exact ⟨.run, rfl, rfl⟩
  · exact ⟨.runAsync, rfl, rfl⟩
  · exact ⟨.check, rfl, rfl⟩
  · exact ⟨.plans, rfl, rfl⟩
  · exact ⟨.undo, rfl, rfl⟩
  · exact ⟨.terminals, rfl, rfl⟩

theorem exactScope?_path_eq_none {r : Route} (h : r.WellFormed)
    (hr : ∀ resource, r ≠ .resource resource) : exactScope? r.path = none := by
  cases hscope : exactScope? r.path with
  | none => rfl
  | some scope =>
    obtain ⟨resource, hpath, -⟩ := exists_resource_of_exactScope? hscope
    have hsame : Route.resource resource = r :=
      Route.eq_of_path_eq (Route.wellFormed_of_id?_eq_none rfl) h hpath
    exact absurd hsame.symm (hr resource)

theorem postScope?_terminal {id : String} {a : TerminalAction}
    (hexact : exactScope? (Route.terminal id a).path = none) :
    postScope? (Route.terminal id a).path = (Route.terminal id a).postScope? := by
  have hpath : (Route.terminal id a).path
      = "/terminal/sessions/" ++ (id ++ ("/" ++ a.name)) := by
    rw [Route.path_terminal, String.append_assoc, String.append_assoc]
  have hbrowser : Text.after? "/browser/" (Route.terminal id a).path = none := by
    rw [hpath]
    exact Text.after?_append_eq_none (by decide) (by decide) _
  have hbelow : Text.after? "/terminal/sessions/" (Route.terminal id a).path
      = some (id ++ ("/" ++ a.name)) := by
    rw [hpath, Text.after?_append]
  have hread : postScope? (Route.terminal id a).path
      = if Text.endsWith "/input" (id ++ ("/" ++ a.name))
          || Text.endsWith "/close" (id ++ ("/" ++ a.name)) then some .run else none := by
    rw [postScope?, hexact, hbrowser, hbelow]
    rfl
  rw [hread]
  cases a with
  | output =>
    -- the endings that are looked for are not that of this route, whatever the id ends with
    have hinput : Text.endsWith "/input" (id ++ "/output") = false :=
      Text.endsWith_append_eq_false (by decide) (by decide) id
    have hclose : Text.endsWith "/close" (id ++ "/output") = false :=
      Text.endsWith_append_eq_false (by decide) (by decide) id
    change (if (Text.endsWith "/input" (id ++ "/output") || Text.endsWith "/close" (id ++ "/output"))
      then some Scope.run else none) = none
    rw [hinput, hclose]
    rfl
  | input => exact if_pos (Bool.or_eq_true _ _ ▸ .inl (Text.endsWith_append id "/input"))
  | close => exact if_pos (Bool.or_eq_true _ _ ▸ .inr (Text.endsWith_append id "/close"))

/-- Below a collection the scope goes by the second cut. -/
theorem postScope?_collection (collection : String) (h : collection ∈ Route.collections)
    {rest : String} (hexact : exactScope? ("/" ++ collection ++ "/" ++ rest) = none) :
    postScope? ("/" ++ collection ++ "/" ++ rest)
      = (Text.cut '/' rest).bind fun parts => actionScope? collection parts.2 := by
  have hstarts : ∀ collection ∈ Route.collections,
      (∀ start ∈ ["/browser/", "/terminal/sessions/"],
        ¬start.toList <+: ("/" ++ collection ++ "/").toList ∧
        ¬("/" ++ collection ++ "/").toList <+: start.toList) ∧ '/' ∉ collection.toList := by
    decide
  obtain ⟨hstart, hfree⟩ := hstarts collection h
  have hnone : ∀ start ∈ ["/browser/", "/terminal/sessions/"],
      Text.after? start ("/" ++ collection ++ "/" ++ rest) = none := fun start hmem =>
    Text.after?_append_eq_none (hstart start hmem).1 (hstart start hmem).2 rest
  have hafter : Text.after? "/" ("/" ++ collection ++ "/" ++ rest)
      = some (collection ++ "/" ++ rest) := by
    rw [Text.after?_eq_some_iff, ← String.toList_inj]
    simp
  have hcut : Text.cut '/' (collection ++ "/" ++ rest) = some (collection, rest) :=
    Text.cut_of_toList_eq (by simp) hfree
  simp only [postScope?, hexact, hnone "/browser/" (by decide),
    hnone "/terminal/sessions/" (by decide), nestedScope?, hafter, hcut, Option.bind_eq_bind,
    Option.bind_some]
  rfl

theorem postScope?_member (collection : String) (h : collection ∈ Route.collections) {id : String}
    (hid : isResourceId id = true)
    (hexact : exactScope? ("/" ++ collection ++ "/" ++ id) = none) :
    postScope? ("/" ++ collection ++ "/" ++ id) = none := by
  rw [postScope?_collection collection h hexact,
    Text.cut_of_not_mem (slash_not_mem_of_isResourceId hid), Option.bind_none]

theorem postScope?_action (collection action : String) (h : collection ∈ Route.collections)
    {id : String} (hid : isResourceId id = true)
    (hexact : exactScope? ("/" ++ collection ++ "/" ++ id ++ ("/" ++ action)) = none) :
    postScope? ("/" ++ collection ++ "/" ++ id ++ ("/" ++ action))
      = actionScope? collection action := by
  have hcut : Text.cut '/' (id ++ ("/" ++ action)) = some (id, action) :=
    Text.cut_of_toList_eq (by simp) (slash_not_mem_of_isResourceId hid)
  rw [String.append_assoc] at hexact ⊢
  rw [postScope?_collection collection h hexact, hcut, Option.bind_some]

theorem postScope?_path {r : Route} (h : r.WellFormed) : postScope? r.path = r.postScope? := by
  have hexact := exactScope?_path_eq_none h
  cases r with
  | resource r => cases r <;> decide
  | dashboard => decide
  | eventStream => decide
  | browser a => cases a <;> decide
  | terminal id a => exact postScope?_terminal (hexact (by simp))
  | job id => exact postScope?_member "jobs" (by decide) (h id rfl) (hexact (by simp))
  | jobStream id =>
    exact postScope?_action "jobs" "stream" (by decide) (h id rfl) (hexact (by simp))
  | jobCancel id =>
    exact postScope?_action "jobs" "cancel" (by decide) (h id rfl) (hexact (by simp))
  | plan id => exact postScope?_member "plans" (by decide) (h id rfl) (hexact (by simp))
  | planStream id =>
    exact postScope?_action "plans" "stream" (by decide) (h id rfl) (hexact (by simp))
  | planAction id a =>
    have hpath : (Route.planAction id a).path = "/" ++ "plans" ++ "/" ++ id ++ ("/" ++ a.name) := by
      rw [← String.append_assoc]
      rfl
    have hnone := hexact (by simp)
    rw [hpath] at hnone ⊢
    rw [postScope?_action "plans" a.name (by decide) (h id rfl) hnone]
    cases a <;> rfl

/-- On the paths that are forwarded, what a POST requires is what the table says, and where the table
has no row it is what the policy for unscoped routes asks for. It is never `read`. Other methods than
those for reading fall to that policy on every path. -/
theorem required_of_classify (policy : UnscopedPolicy) {p : String} {kind : ForwardKind}
    (h : Route.classify p = some kind) :
    (∀ scope, Tabled p scope → required policy .post p = scope) ∧
    ((∀ scope, ¬Tabled p scope) → required policy .post p = policy.scope) ∧
    required policy .post p ≠ .read ∧
    ∀ method, method ≠ .get → method ≠ .head → method ≠ .post →
      required policy method p = policy.scope := by
  obtain ⟨r, hformed, rfl, -⟩ := Route.classify_eq_some_iff.mp h
  have hpost : required policy .post r.path = r.postScope?.getD policy.scope := by
    rw [required, if_neg (by decide), if_pos rfl, postScope?_path hformed]
  refine ⟨?_, ?_, required_post_ne_read policy r.path, ?_⟩
  · intro scope htabled
    obtain ⟨t, htformed, hpath, hscope⟩ := Route.tabled_iff.mp htabled
    rw [hpost, ← Route.eq_of_path_eq htformed hformed hpath, hscope, Option.getD_some]
  · intro huntabled
    cases hscope : r.postScope? with
    | none => rw [hpost, hscope, Option.getD_none]
    | some scope => exact absurd (Route.tabled_iff.mpr ⟨r, hformed, rfl, hscope⟩) (huntabled scope)
  · intro method hget hhead hmethod
    rw [required, if_neg (by simp [hget, hhead]), if_neg hmethod]

theorem untabled_undo (scope : Scope) : ¬Tabled "/plans/undo" scope := by
  intro h
  obtain ⟨r, hformed, hpath, hscope⟩ := Route.tabled_iff.mp h
  have hid : isResourceId "undo" = true := by decide
  have hplan : (Route.plan "undo").WellFormed := Route.wellFormed_of_id? hid rfl
  rw [Route.eq_of_path_eq hformed hplan hpath] at hscope
  cases hscope

theorem required_of_classify_undo :
    Tabled "/plans/undo/retry_failed" .approve ∧
      required .deny .post "/plans/undo/retry_failed" = .approve ∧
      required .run .post "/plans/undo" = .run ∧
      required .deny ⟨"DELETE"⟩ "/plans/undo" = .admin := by
  have hid : isResourceId "undo" = true := by decide
  have hretry : Route.classify "/plans/undo/retry_failed" = some .json := by decide
  have hplan : Route.classify "/plans/undo" = some .json := by decide
  have htabled : Tabled ("/plans/" ++ "undo" ++ "/" ++ "retry_failed") .approve :=
    .plan (isResourceId_iff.mp hid) (by decide)
  obtain ⟨hrow, -, -, -⟩ := required_of_classify .deny hretry
  obtain ⟨-, hnorow, -, -⟩ := required_of_classify .run hplan
  obtain ⟨-, -, -, hother⟩ := required_of_classify .deny hplan
  exact ⟨htabled, hrow _ htabled, hnorow untabled_undo,
    hother ⟨"DELETE"⟩ (by decide) (by decide) (by decide)⟩

end Policy

end Gatehouse
