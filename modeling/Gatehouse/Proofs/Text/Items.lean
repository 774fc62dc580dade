import Mathlib.Data.List.Forall2

/-!
# Reading item by item

A list is read if each of its items is, and what is read has an item for each of them in the same
order. Once the items of two lists are paired off, nothing more has to be known of the reading.
-/

namespace Gatehouse

section Option

variable {α β : Type} {read : α → Option β} {l : List α} {m : List β}

theorem mapM_eq_some_iff :
    l.mapM read = some m ↔ List.Forall₂ (fun a b => read a = some b) l m := by
  induction l generalizing m with
  | nil =>
    rw [List.mapM_nil, List.forall₂_nil_left_iff]
    exact Option.some_inj.trans eq_comm
  | cons a l ih =>
    rw [List.mapM_cons, List.forall₂_cons_left_iff]
    constructor
    · intro h
      obtain ⟨b, hb, hrest⟩ := Option.bind_eq_some_iff.mp h
      obtain ⟨rest, hl, hcons⟩ := Option.bind_eq_some_iff.mp hrest
      exact ⟨b, rest, hb, ih.mp hl, (Option.some.inj hcons).symm⟩
    · rintro ⟨b, rest, hb, hl, rfl⟩
      rw [hb, ih.mpr hl]
      rfl

theorem exists_of_mapM_eq_some (h : l.mapM read = some m) : ∀ b ∈ m, ∃ a ∈ l, read a = some b := by
  have hpairs := mapM_eq_some_iff.mp h
  clear h
  induction hpairs with
  | nil => simp
  | @cons a b l m hread _ ih =>
    intro c hc
    rcases List.mem_cons.mp hc with rfl | hc
    · exact ⟨a, List.mem_cons_self, hread⟩
    · obtain ⟨a', ha', hread'⟩ := ih c hc
      exact ⟨a', List.mem_cons_of_mem a ha', hread'⟩

theorem mapM_map_eq_some {written : β → α} (h : ∀ b ∈ m, read (written b) = some b) :
    (m.map written).mapM read = some m := by
  rw [mapM_eq_some_iff, List.forall₂_map_left_iff, List.forall₂_same]
  exact h

/-- What was read item by item can be written back, if each item can. -/
theorem of_mapM_eq_some {written : β → α} {p : β → Prop}
    (hread : ∀ a b, read a = some b → p b ∧ written b = a) (h : l.mapM read = some m) :
    (∀ b ∈ m, p b) ∧ m.map written = l := by
  constructor
  · intro b hb
    obtain ⟨a, -, ha⟩ := exists_of_mapM_eq_some h b hb
    exact (hread a b ha).1
  · rw [← List.forall₂_eq_eq_eq, List.forall₂_map_left_iff]
    exact (mapM_eq_some_iff.mp h).flip.imp fun b a hab => (hread a b hab).2

end Option

section Except

variable {ε α β : Type}

theorem of_map_eq_ok {f : α → β} {x : Except ε α} {b : β} (h : x.map f = .ok b) :
    ∃ a, x = .ok a ∧ f a = b := by
  cases x with
  | error e => cases h
  | ok a => exact ⟨a, rfl, Except.ok.inj h⟩

theorem exists_of_mapM_eq_ok {read : α → Except ε β} {l : List α} {m : List β}
    (h : l.mapM read = .ok m) : ∀ a ∈ l, ∃ b, read a = .ok b := by
  induction l generalizing m with
  | nil => simp
  | cons a l ih =>
    rw [List.mapM_cons] at h
    cases ha : read a with
    | error e =>
      rw [ha] at h
      cases h
    | ok b =>
      cases hl : l.mapM read with
      | error e =>
        rw [ha, hl] at h
        cases h
      | ok m => exact List.forall_mem_cons.mpr ⟨⟨b, ha⟩, ih hl⟩

end Except

end Gatehouse
