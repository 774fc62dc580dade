import Gatehouse.Access.Caller

/-!
# What a POST requires

No rule lets a POST pass that may only read: the table names other scopes, and where it is silent the
policy for unscoped routes asks for `admin` or for `run`.
-/

namespace Gatehouse

theorem UnscopedPolicy.scope_ne_read (policy : UnscopedPolicy) : policy.scope ≠ .read := by
  cases policy <;> decide

namespace Policy

theorem exactScope?_ne_read (path : String) : exactScope? path ≠ some .read := by
  rw [exactScope?.eq_def]
  split <;> simp

theorem actionScope?_ne_read (collection action : String) :
    actionScope? collection action ≠ some .read := by
  rw [actionScope?.eq_def]
  split <;> simp

theorem nestedScope?_ne_read (path : String) : nestedScope? path ≠ some .read := by
  intro h
  simp only [nestedScope?, Option.bind_eq_bind, Option.bind_eq_some_iff] at h
  obtain ⟨rest, -, ⟨collection, below⟩, -, ⟨id, action⟩, -, haction⟩ := h
  exact actionScope?_ne_read collection action haction

theorem postScope?_ne_read (path : String) : postScope? path ≠ some .read := by
  rw [postScope?]
  split
  · next scope hscope => exact hscope ▸ exactScope?_ne_read path
  · split
    · simp
    · split
      · split <;> simp
      · exact nestedScope?_ne_read path

/-- A POST never passes with the scope that reading requires. -/
theorem required_post_ne_read (policy : UnscopedPolicy) (path : String) :
    required policy .post path ≠ .read := by
  rw [required, if_neg (by decide), if_pos rfl]
  cases hscope : postScope? path with
  | none => exact policy.scope_ne_read
  | some scope =>
    rintro (rfl : scope = .read)
    exact postScope?_ne_read path hscope

end Policy

end Gatehouse
