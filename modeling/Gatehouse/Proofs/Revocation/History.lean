import Gatehouse.Proofs.Revocation.Document
import Gatehouse.Proofs.Revocation.Ledger
import Gatehouse.Proofs.World.Disk
import Gatehouse.World.Basic

/-!
# Histories of a store

A store is told to revoke sessions, is asked for them, and is loaded anew from its file, while writing
the file may fail at any time. Memory and file then differ, but both know of every session that has
not ended what the last successful revocation said of it, and that is all an answer depends on.
-/

namespace Gatehouse

/-! ### Deeds and answers -/

/-- An end of a session, a signed number of 64 bits. -/
abbrev Time64 := { n : Int // Text.Fits64 n }

/-- What is done with a store. A revocation comes with the fault that its write would meet, if it
would meet one. -/
inductive Deed where
  | revoke (id : String) (expiresAt : Time64) (fault : Option String)
  | ask (id : String)
  | restart

inductive StoreAnswer where
  | revoked (outcome : Except StoreError Bool)
  | told (isRevoked : Bool)
  | restarted (fault : Option StoreError)

/-- A store and what is found under the name of its file. -/
structure Kept where
  store : Store
  file : FileContent

/-- Does the work of an exchange where one file can be written: a document takes its place, unless a
fault leaves it as it is. -/
def Exchange.settle {α : Type} (fault : Option String) (file : FileContent) :
    Exchange α → α × FileContent
  | done a => (a, file)
  | call _ resume => (resume World.refused).settle fault file
  | save f resume =>
    (resume fault).settle fault (if fault.isNone then .bytes (Utf8.encode f.document) else file)

namespace Exchange

variable {α : Type}

@[simp] theorem settle_done (fault : Option String) (file : FileContent) (a : α) :
    (done a).settle fault file = (a, file) := rfl

@[simp] theorem settle_save_none (file : FileContent) (f : FileWrite)
    (resume : Option String → Exchange α) :
    (save f resume).settle none file
      = (resume none).settle none (.bytes (Utf8.encode f.document)) := rfl

@[simp] theorem settle_save_some (file : FileContent) (f : FileWrite) (detail : String)
    (resume : Option String → Exchange α) :
    (save f resume).settle (some detail) file = (resume (some detail)).settle (some detail) file :=
  rfl

end Exchange

namespace Kept

/-- A store with nothing in it, whose file is not there yet if it has one. -/
def fresh (path : Option String) : Kept :=
  ⟨⟨path, []⟩, .absent⟩

/-- Loads the store anew; a store without a file starts empty. -/
def restart (k : Kept) (now : Int) : StoreAnswer × Kept :=
  match k.store.path with
  | none => (.restarted none, ⟨.inMemory, k.file⟩)
  | some path =>
    match Store.load path k.file now with
    | .ok store => (.restarted none, ⟨store, k.file⟩)
    | .error e => (.restarted (some e), k)

/-- Does one deed at `now`. -/
def step (k : Kept) (now : Int) : Deed → StoreAnswer × Kept
  | .revoke id expiresAt fault =>
    let ((outcome, store), file) := (k.store.revoke id expiresAt now).settle fault k.file
    (.revoked outcome, ⟨store, file⟩)
  | .ask id =>
    let (isRevoked, store) := k.store.isRevoked id now
    (.told isRevoked, ⟨store, k.file⟩)
  | .restart => k.restart now

def answers (k : Kept) : List (Int × Deed) → List StoreAnswer
  | [] => []
  | (now, deed) :: rest => (k.step now deed).1 :: (k.step now deed).2.answers rest

end Kept

namespace Ends

/-- The answer to one deed at `now`, and the ends after it: only a revocation that succeeds counts,
and nothing is ever forgotten. -/
def step (path : Option String) (m : Ends) (now : Int) : Deed → StoreAnswer × Ends
  | .revoke id expiresAt fault =>
    match Text.nonBlank? id with
    | none => (.revoked (.error .missingSessionId), m)
    | some key =>
      match path, fault with
      | some path, some detail => (.revoked (.error (.unwritable path detail)), m)
      | _, _ => (.revoked (.ok (m.isRevoked id now)), Function.update m key (some expiresAt.1))
  | .ask id => (.told (m.isRevoked id now), m)
  | .restart => (.restarted none, m)

def answers (path : Option String) (m : Ends) : List (Int × Deed) → List StoreAnswer
  | [] => []
  | (now, deed) :: rest => (m.step path now deed).1 :: ((m.step path now deed).2).answers path rest

end Ends

/-! ### Files -/

/-- A file that holds a ledger, or is not there and holds none. -/
inductive FileContent.Holds : FileContent → Ledger → Prop where
  | absent : Holds .absent []
  | bytes {b : Bytes} {l : Ledger} (reads : Store.ofBytes? b = some l) : Holds (.bytes b) l

theorem Store.load_of_holds {file : FileContent} {l : Ledger} (h : file.Holds l) (hl : l.Sound)
    (path : String) (now : Int) : load path file now = .ok ⟨some path, l.live now⟩ := by
  cases h with
  | absent => rfl
  | bytes reads =>
    have hnamed : ((l.live now).filter fun e => Text.trim e.1 ≠ "") = l.live now := by
      refine List.filter_eq_self.mpr fun e he => ?_
      obtain ⟨htrim, hne⟩ := Text.nonBlank?_eq_some_iff.mp ((hl.live now).named e he)
      rw [htrim]
      exact decide_eq_true hne
    rw [load]
    simp only [reads, hnamed]

/-- What a store makes of its file on a disk is what it makes of one that is written whole or not
at all. -/
theorem Store.run_revoke (w : World) (s : Store) {path : String} (hpath : s.path = some path)
    (id : String) (expiresAt now : Int) :
    ∃ fault, (s.revoke id expiresAt now).settle fault (w.disk.read path)
      = ((w.run (s.revoke id expiresAt now)).1,
          (w.run (s.revoke id expiresAt now)).2.disk.read path) := by
  cases hid : Text.nonBlank? id with
  | none =>
    simp only [revoke, hid]
    exact ⟨none, rfl⟩
  | some key =>
    simp only [revoke, hid, hpath]
    have hread := w.disk.read_save ⟨path, document (s.entries.record key expiresAt now)⟩
    rw [World.run]
    generalize w.disk.save ⟨path, document (s.entries.record key expiresAt now)⟩ = saved at hread ⊢
    obtain ⟨fault, disk⟩ := saved
    refine ⟨fault, ?_⟩
    cases fault with
    | none => exact Prod.ext rfl hread.symm
    | some detail => exact Prod.ext rfl hread.symm

/-! ### Steps -/

/-- What a store and its file have to do with the ends of sessions. -/
structure Kept.Agrees (now : Int) (k : Kept) (m : Ends) : Prop where
  sound : k.store.entries.Sound
  memory : k.store.entries.Tracks now m
  file : k.store.path.isSome → ∃ l, k.file.Holds l ∧ l.Sound ∧ l.Tracks now m

namespace Kept.Agrees

variable {k : Kept} {m : Ends} {before now : Int}

theorem mono (h : k.Agrees before m) (hle : before ≤ now) : k.Agrees now m where
  sound := h.sound
  memory := h.memory.mono hle
  file hpath := by
    obtain ⟨l, hholds, hl, htracks⟩ := h.file hpath
    exact ⟨l, hholds, hl, htracks.mono hle⟩

theorem fresh (path : Option String) (now : Int) :
    (Kept.fresh path).Agrees now fun _ => none where
  sound := .nil
  memory _ := rfl
  file _ := ⟨[], .absent, .nil, fun _ => rfl⟩

/-- Memory may change where the file does not. -/
theorem withEntries (h : k.Agrees now m) {l : Ledger} (hl : l.Sound) (htracks : l.Tracks now m) :
    Kept.Agrees now ⟨⟨k.store.path, l⟩, k.file⟩ m :=
  ⟨hl, htracks, h.file⟩

theorem revoke (h : k.Agrees now m) (id : String) (expiresAt : Time64) (fault : Option String) :
    (k.step now (.revoke id expiresAt fault)).1
        = (m.step k.store.path now (.revoke id expiresAt fault)).1 ∧
      (k.step now (.revoke id expiresAt fault)).2.Agrees now
        (m.step k.store.path now (.revoke id expiresAt fault)).2 ∧
      (k.step now (.revoke id expiresAt fault)).2.store.path = k.store.path := by
  cases hid : Text.nonBlank? id with
  | none =>
    simp only [Kept.step, Store.revoke, Ends.step, hid]
    exact ⟨rfl, h, rfl⟩
  | some key =>
    have hkey := Text.nonBlank?_of_nonBlank? hid
    have hrecord := h.sound.record hkey expiresAt.2 now
    have htracks := h.memory.record h.sound key expiresAt.1
    have halready : (Keyed.get? key (k.store.entries.live now)).isSome = m.isRevoked id now := by
      rw [h.memory.isSome_live h.sound, Ends.isRevoked, hid]
    cases hpath : k.store.path with
    | none =>
      simp only [Kept.step, Store.revoke, Ends.step, hid, hpath, Exchange.settle_done, halready]
      exact ⟨trivial, ⟨hrecord, htracks, fun hsome => by cases hsome⟩, trivial⟩
    | some path =>
      cases fault with
      | none =>
        simp only [Kept.step, Store.revoke, Ends.step, hid, hpath, Exchange.settle_save_none,
          Exchange.settle_done, halready]
        refine ⟨trivial, ⟨hrecord, htracks, fun _ => ⟨_, ?_, hrecord, htracks⟩⟩, trivial⟩
        exact .bytes (Store.ofBytes?_document hrecord.increasing hrecord.fits)
      | some detail =>
        simp only [Kept.step, Store.revoke, Ends.step, hid, hpath, Exchange.settle_save_some,
          Exchange.settle_done]
        have hundo := h.withEntries (h.sound.undo hkey expiresAt.2 now)
          (h.memory.undo h.sound key expiresAt.1)
        rw [hpath] at hundo
        exact ⟨trivial, hundo, trivial⟩

theorem restart (h : k.Agrees now m) (hpath : k.store.path.isSome) :
    (k.restart now).1 = .restarted none ∧ (k.restart now).2.Agrees now m ∧
      (k.restart now).2.store.path = k.store.path := by
  obtain ⟨path, hpath⟩ := Option.isSome_iff_exists.mp hpath
  obtain ⟨l, hholds, hl, htracks⟩ := h.file (by rw [hpath]; rfl)
  have hload := Store.load_of_holds hholds hl path now
  simp only [Kept.restart, hpath, hload]
  exact ⟨trivial, ⟨hl.live now, htracks.live hl, fun _ => ⟨l, hholds, hl, htracks⟩⟩, trivial⟩

theorem ask (h : k.Agrees now m) (id : String) :
    (k.step now (.ask id)).1 = .told (m.isRevoked id now) ∧ (k.step now (.ask id)).2.Agrees now m ∧
      (k.step now (.ask id)).2.store.path = k.store.path := by
  have hanswer := h.memory.isRevoked_eq id
  simp only [Kept.step, Store.isRevoked, hanswer]
  exact ⟨trivial, h.withEntries (h.sound.asked id now) (h.memory.asked id), trivial⟩

/-- One deed is answered as the ends say, and leaves memory and file in agreement with them. -/
theorem step (h : k.Agrees now m) (deed : Deed) (hrestart : deed = .restart → k.store.path.isSome) :
    (k.step now deed).1 = (m.step k.store.path now deed).1 ∧
      (k.step now deed).2.Agrees now (m.step k.store.path now deed).2 ∧
      (k.step now deed).2.store.path = k.store.path := by
  cases deed with
  | revoke id expiresAt fault => exact h.revoke id expiresAt fault
  | ask id => exact h.ask id
  | restart => exact h.restart (hrestart rfl)

/-- Deeds at times that do not go back are answered as the ends say. -/
theorem answers (h : k.Agrees before m) {history : List (Int × Deed)}
    (htimes : List.Pairwise (· ≤ ·) (before :: history.map Prod.fst))
    (hrestart : ∀ e ∈ history, e.2 = .restart → k.store.path.isSome) :
    k.answers history = m.answers k.store.path history := by
  induction history generalizing k m before with
  | nil => rfl
  | cons e history ih =>
    obtain ⟨now, deed⟩ := e
    obtain ⟨hbefore, htimes⟩ := List.pairwise_cons.mp htimes
    have hnow : before ≤ now := hbefore now (by simp)
    obtain ⟨hanswer, hagrees, hpath⟩ := (h.mono hnow).step deed (hrestart (now, deed) (by simp))
    have hrest : ∀ e ∈ history, e.2 = .restart → (k.step now deed).2.store.path.isSome := by
      intro e he hdeed
      rw [hpath]
      exact hrestart e (List.mem_cons_of_mem _ he) hdeed
    rw [Kept.answers, Ends.answers, hanswer, ih hagrees htimes hrest, hpath]

end Kept.Agrees

/-- A store answers every history as if it never dropped an entry and never took one back: each
answer is that of the last revocations that succeeded. -/
theorem Kept.answers_fresh (path : Option String) (history : List (Int × Deed))
    (htimes : (history.map Prod.fst).Pairwise (· ≤ ·))
    (hrestart : ∀ e ∈ history, e.2 = .restart → path.isSome) :
    (fresh path).answers history = Ends.answers path (fun _ => none) history := by
  cases history with
  | nil => rfl
  | cons e history =>
    refine (Agrees.fresh path e.1).answers ?_ hrestart
    rw [List.map_cons] at htimes ⊢
    refine List.pairwise_cons.mpr ⟨fun now hnow => ?_, htimes⟩
    rcases List.mem_cons.mp hnow with rfl | hnow
    · exact le_refl _
    · exact (List.pairwise_cons.mp htimes).1 now hnow

/-- Two sessions are revoked, one of them in vain, before the store is loaded anew. -/
def Deed.interrupted : List (Int × Deed) :=
  [(100, .revoke " a " ⟨200, by decide⟩ none), (110, .revoke "b" ⟨300, by decide⟩ (some "disk full")),
    (150, .restart), (160, .ask "a"), (160, .ask "b"), (200, .ask "a")]

theorem Kept.answers_fresh_interrupted :
    (fresh (some "revoked.json")).answers Deed.interrupted
      = [.revoked (.ok false), .revoked (.error (.unwritable "revoked.json" "disk full")),
          .restarted none, .told true, .told false, .told false] := by
  have hanswers := answers_fresh (some "revoked.json") Deed.interrupted (by decide)
    fun _ _ _ => rfl
  rw [hanswers]
  rfl

end Gatehouse
