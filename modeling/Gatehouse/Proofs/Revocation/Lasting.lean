import Gatehouse.Proofs.Revocation.Ledger
import Gatehouse.Revocation.Store

/-!
# Revocations that last

An entry that ends after some time is in the ledger until then, whatever else happens: only entries
whose time has passed are dropped, and what is taken back was there before. The one thing that ends a
revocation early is another revocation of the same session with an earlier end.
-/

namespace Gatehouse

namespace Ledger

/-- A session has an entry that ends after `last`. -/
def Covers (l : Ledger) (id : String) (last : Int) : Prop :=
  ∃ expiresAt, Keyed.get? id l = some expiresAt ∧ last < expiresAt

theorem isRevoked_iff {l : Ledger} {id : String} {now : Int} :
    l.isRevoked id now = true ↔ ∃ name, Text.nonBlank? id = some name ∧ l.Covers name now := by
  rw [isRevoked]
  cases Text.nonBlank? id with
  | none => simp
  | some name => simp [Covers, Option.any_eq_true]

variable {l : Ledger} {id : String} {last now : Int}

theorem covers_record (l : Ledger) (id : String) {expiresAt last : Int} (h : last < expiresAt)
    (now : Int) : (l.record id expiresAt now).Covers id last :=
  ⟨expiresAt, Keyed.get?_insert_self id expiresAt (l.live now), h⟩

namespace Covers

theorem live (h : l.Covers id last) (hnow : now ≤ last) : (l.live now).Covers id last := by
  obtain ⟨expiresAt, hget, hend⟩ := h
  have hkeep : now < expiresAt := by omega
  exact ⟨expiresAt, Keyed.get?_filter_of_keep hget (by simpa using hkeep), hend⟩

/-- Recording a session leaves another one covered, and the same one if the new end is late enough. -/
theorem record_iff (h : l.Covers id last) (hnow : now ≤ last) (other : String) (expiresAt : Int) :
    (l.record other expiresAt now).Covers id last ↔ (other = id → last < expiresAt) := by
  rw [Covers, record]
  by_cases hsame : other = id
  · rw [hsame, Keyed.get?_insert_self]
    simp
  · rw [Keyed.get?_insert_of_ne (Ne.symm hsame)]
    exact iff_of_true (h.live hnow) fun heq => absurd heq hsame

theorem undo (h : l.Covers id last) (hnow : now ≤ last) (other : String) (expiresAt : Int) :
    (l.undo other expiresAt now).Covers id last := by
  rw [Covers, get?_undo]
  exact h.live hnow

theorem asked (h : l.Covers id last) (hnow : now ≤ last) (other : String) :
    (l.asked other now).Covers id last := by
  obtain ⟨expiresAt, hget, hend⟩ := h
  rw [Ledger.asked]
  split
  · exact ⟨expiresAt, hget, hend⟩
  · next name _ =>
    split
    · next hpast =>
      have hother : id ≠ name := by
        rintro rfl
        rw [hget, Option.any_some, decide_eq_true_eq] at hpast
        omega
      exact ⟨expiresAt, (Keyed.get?_erase_of_ne hother l).trans hget, hend⟩
    · exact ⟨expiresAt, hget, hend⟩

end Covers

end Ledger

namespace Store

/-- What revoking a session leaves in the store: the new entry, or nothing new. -/
theorem revoke_cases (s : Store) (id : String) (expiresAt now : Int)
    (core : Core.Request → Core.Answer) (disk : FileWrite → Option String) :
    (∃ name already, Text.nonBlank? id = some name ∧
      (s.revoke id expiresAt now).result core disk
        = (.ok already, { s with entries := s.entries.record name expiresAt now })) ∨
    (∃ e, (s.revoke id expiresAt now).result core disk = (.error e, s)) ∨
    ∃ e name, (s.revoke id expiresAt now).result core disk
      = (.error e, { s with entries := s.entries.undo name expiresAt now }) := by
  cases hid : Text.nonBlank? id with
  | none =>
    rw [revoke, hid]
    exact .inr (.inl ⟨_, rfl⟩)
  | some name =>
    cases hpath : s.path with
    | none =>
      simp only [revoke, hid, hpath]
      exact .inl ⟨name, _, rfl, rfl⟩
    | some path =>
      simp only [revoke, hid, hpath, Exchange.result]
      cases disk ⟨path, document (s.entries.record name expiresAt now)⟩ with
      | none => exact .inl ⟨name, _, rfl, rfl⟩
      | some detail => exact .inr (.inr ⟨_, name, rfl⟩)

end Store

end Gatehouse
