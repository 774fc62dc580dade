import Gatehouse.Proofs.Revocation.Document
import Gatehouse.Proofs.Revocation.Lasting

/-!
# Loading a store

A store knows of its file the sessions that have still to end. They are looked up without blanks
around their ids, while the ids of the file stay as they stand there, so a session is found again if
nothing is around its id. An id with blanks around it is loaded and counted, but nobody can ask for
it: that revocation is lost. A session is never taken for revoked that is not in the file.
-/

namespace Gatehouse.Store

variable {entries : List (String × Int)} {path : String} {b : Bytes} {now t : Int}

/-- The ledger that is made of the ends of sessions in a file. -/
def loaded (entries : List (String × Int)) (now : Int) : Ledger :=
  (Ledger.live (Keyed.ofPairs entries) now).filter fun e => Text.trim e.1 ≠ ""

theorem load_of_isFile (h : IsFile b entries) :
    load path (.bytes b) now = .ok ⟨some path, loaded entries now⟩ := by
  have hread : ofBytes? b = some (Keyed.ofPairs entries) :=
    ofBytes?_eq_some_iff.mpr ⟨entries, h, rfl⟩
  simp only [load, hread, loaded]

theorem load_of_not_isFile (h : ∀ entries, ¬IsFile b entries) :
    load path (.bytes b) now = .error (.corrupt path) := by
  have hread : ofBytes? b = none := by
    rw [Option.eq_none_iff_forall_ne_some]
    intro l hl
    obtain ⟨entries, hfile, -⟩ := ofBytes?_eq_some_iff.mp hl
    exact h entries hfile
  simp only [load, hread]

/-- Of an id the last end in the file is known, unless it has passed. -/
theorem get?_loaded_iff {id : String} {expiresAt : Int} :
    Keyed.get? id (loaded entries now) = some expiresAt ↔
      Keyed.IsLast entries id expiresAt ∧ now < expiresAt ∧ Text.trim id ≠ "" := by
  have hl : Keyed.Increasing (Keyed.ofPairs entries) := .ofPairs entries
  have hloaded : Keyed.Increasing (loaded entries now) := (hl.filter _).filter _
  rw [hloaded.get?_eq_some_iff, loaded, List.mem_filter, Ledger.live, List.mem_filter,
    ← hl.get?_eq_some_iff, Keyed.get?_ofPairs_eq_some_iff, and_assoc, decide_eq_true_eq,
    decide_eq_true_eq]

theorem isRevoked_loaded_iff (hnow : now ≤ t) {id : String} :
    (isRevoked ⟨some path, loaded entries now⟩ id t).1 = true ↔ Text.trim id ≠ "" ∧
      ∃ expiresAt, Keyed.IsLast entries (Text.trim id) expiresAt ∧ t < expiresAt := by
  rw [fst_isRevoked, Ledger.isRevoked_iff]
  constructor
  · rintro ⟨name, hname, expiresAt, hget, hend⟩
    obtain ⟨rfl, hne⟩ := Text.nonBlank?_eq_some_iff.mp hname
    exact ⟨hne, expiresAt, (get?_loaded_iff.mp hget).1, hend⟩
  · rintro ⟨hne, expiresAt, hlast, hend⟩
    -- what ends after the question ended after the loading, so it was kept
    have hlive : now < expiresAt := by omega
    have htrimmed : Text.trim (Text.trim id) ≠ "" := by rwa [Text.trim_trim]
    exact ⟨Text.trim id, Text.nonBlank?_eq_some_iff.mpr ⟨rfl, hne⟩, expiresAt,
      get?_loaded_iff.mpr ⟨hlast, hlive, htrimmed⟩, hend⟩

/-- A file of entries is loaded, any other content is refused. Of what is loaded a session is revoked
exactly if an end after that time is the last under its id without the blanks around it: so ids that
are written without blanks are found, and no others are taken for them. -/
theorem load_exact (path : String) (b : Bytes) (now : Int) :
    (∀ entries, IsFile b entries → ∃ s, load path (.bytes b) now = .ok s ∧
      ∀ t, now ≤ t →
        (∀ id, (s.isRevoked id t).1 = true ↔ Text.trim id ≠ "" ∧
          ∃ expiresAt, Keyed.IsLast entries (Text.trim id) expiresAt ∧ t < expiresAt) ∧
        (∀ id expiresAt, Keyed.IsLast entries id expiresAt → t < expiresAt →
          Text.nonBlank? id = some id → (s.isRevoked id t).1 = true) ∧
        ∀ id, (∀ key expiresAt, Keyed.IsLast entries key expiresAt → t < expiresAt →
          Text.trim key ≠ Text.trim id) → (s.isRevoked id t).1 = false) ∧
    ((∀ entries, ¬IsFile b entries) → load path (.bytes b) now = .error (.corrupt path)) := by
  refine ⟨fun entries hfile => ⟨_, load_of_isFile hfile, fun t hnow => ?_⟩, load_of_not_isFile⟩
  refine ⟨fun id => isRevoked_loaded_iff hnow, fun id expiresAt hlast hend hid => ?_,
    fun id hforeign => ?_⟩
  · obtain ⟨htrim, hne⟩ := Text.nonBlank?_eq_some_iff.mp hid
    rw [← htrim] at hne hlast
    exact (isRevoked_loaded_iff hnow).mpr ⟨hne, expiresAt, hlast, hend⟩
  · rw [Bool.eq_false_iff]
    intro hrevoked
    obtain ⟨-, expiresAt, hlast, hend⟩ := (isRevoked_loaded_iff hnow).mp hrevoked
    exact hforeign _ expiresAt hlast hend (Text.trim_trim id)

def padded : Ledger :=
  [(" sid ", 1000), ("other", 1000)]

theorem load_exact_padded :
    IsFile (Utf8.encode (document padded)) padded ∧
      ∃ s, load "revoked.json" (.bytes (Utf8.encode (document padded))) 100 = .ok s ∧
        (s.isRevoked "other" 150).1 = true ∧
        Keyed.IsLast padded " sid " 1000 ∧ (s.isRevoked " sid " 150).1 = false := by
  have hfile : IsFile (Utf8.encode (document padded)) padded := isFile_document (by decide)
  obtain ⟨s, hload, hasked⟩ := (load_exact "revoked.json" _ 100).1 padded hfile
  obtain ⟨hiff, hfound, -⟩ := hasked 150 (by omega)
  refine ⟨hfile, s, hload, ?_, ⟨[], [("other", 1000)], rfl, by simp⟩, ?_⟩
  · exact hfound "other" 1000 ⟨[(" sid ", 1000)], [], rfl, by simp⟩ (by omega) (by decide)
  · rw [Bool.eq_false_iff, Ne, hiff]
    rintro ⟨-, expiresAt, hlast, -⟩
    have hmem := hlast.mem
    rw [show Text.trim " sid " = "sid" by decide] at hmem
    simp [padded] at hmem

end Gatehouse.Store
