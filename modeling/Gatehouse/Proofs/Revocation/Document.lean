import Gatehouse.Proofs.Json.Records
import Gatehouse.Revocation.Store

/-!
# The file of a ledger

A file holds a ledger if it is blank or the tree of its text has the two fields of a store, in either
form of a record, whatever else stands there. Such a file is read, with the last end under every id,
and no other file is. What is written for a ledger is such a file, whatever characters the ids of its
sessions hold, as long as the ends fit the 64 bits that a file has for them. It is read back as the
ledger if its keys increase, as they do in every ledger that a store keeps.
-/

namespace Gatehouse.Store

/-- The end of a session as it is written under the id of the session. -/
def IsEntry (member : List Json.Unit16 × Json.Written) (entry : String × Int) : Prop :=
  Json.unitsText? member.1 = some entry.1 ∧ member.2.int64? = some entry.2

/-- The fields of a file, and the ends of sessions in the order in which they stand there. -/
structure Holds (fields : List (String × Json.Written)) (entries : List (String × Int)) : Prop where
  version : ∀ w, ("version", w) ∈ fields → ∃ n, w.natBelow? 0x100000000 = some n
  sessions : "revoked_sessions" ∉ fields.map Prod.fst ∧ entries = [] ∨
    ∃ members, ("revoked_sessions", .object members) ∈ fields ∧
      List.Forall₂ IsEntry members entries

/-- The bytes of a file, and the ends of sessions in the order in which they stand there. -/
inductive IsFile (b : Bytes) : List (String × Int) → Prop where
  | blank (h : Json.isBlankBody b = true) : IsFile b []
  | record {w fields entries} (tree : Json.Written.ofBytes? b = some w)
      (known : Json.HasFields fieldNames w fields) (holds : Holds fields entries) :
      IsFile b entries

variable {l : Ledger}

/-! ### Reading a file -/

theorem entries?_eq_some_iff {w : Json.Written} :
    entries? w = some l ↔ ∃ members entries, w = .object members ∧
      List.Forall₂ IsEntry members entries ∧ l = Keyed.ofPairs entries := by
  cases w with
  | object members =>
    constructor
    · intro h
      obtain ⟨entries, hread, rfl⟩ := Option.map_eq_some_iff.mp h
      have hpairs := mapM_eq_some_iff.mp hread
      refine ⟨members, entries, rfl, hpairs.imp fun member entry hone => ?_, rfl⟩
      obtain ⟨id, hid, hrest⟩ := Option.bind_eq_some_iff.mp hone
      obtain ⟨expiresAt, hend, hentry⟩ := Option.bind_eq_some_iff.mp hrest
      rw [← Option.some.inj hentry]
      exact ⟨hid, hend⟩
    · rintro ⟨_, entries, ⟨⟩, hentries, rfl⟩
      refine Option.map_eq_some_iff.mpr ⟨entries, mapM_eq_some_iff.mpr ?_, rfl⟩
      refine hentries.imp fun member entry hone => ?_
      obtain ⟨hid, hend⟩ := hone
      exact Option.bind_eq_some_iff.mpr ⟨_, hid, Option.bind_eq_some_iff.mpr ⟨_, hend, rfl⟩⟩
  | _ => simp [entries?]

theorem holds_iff {fields : List (String × Json.Written)}
    (hdistinct : (fields.map Prod.fst).Nodup) :
    (∃ n, Json.field? (Json.Written.natBelow? 0x100000000) 0 "version" fields = some n) ∧
        Json.field? entries? [] "revoked_sessions" fields = some l ↔
      ∃ entries, Holds fields entries ∧ l = Keyed.ofPairs entries := by
  rw [Json.exists_field?_iff hdistinct, Json.field?_eq_some_iff hdistinct]
  constructor
  · rintro ⟨hversion, ⟨habsent, rfl⟩ | ⟨w, hw, hread⟩⟩
    · exact ⟨[], ⟨hversion, .inl ⟨habsent, rfl⟩⟩, rfl⟩
    · obtain ⟨members, entries, rfl, hentries, rfl⟩ := entries?_eq_some_iff.mp hread
      exact ⟨entries, ⟨hversion, .inr ⟨members, hw, hentries⟩⟩, rfl⟩
  · rintro ⟨entries, ⟨hversion, ⟨habsent, rfl⟩ | ⟨members, hw, hentries⟩⟩, rfl⟩
    · exact ⟨hversion, .inl ⟨habsent, rfl⟩⟩
    · exact ⟨hversion, .inr ⟨_, hw, entries?_eq_some_iff.mpr ⟨members, entries, rfl, hentries, rfl⟩⟩⟩

theorem ofWritten?_eq_some_iff {w : Json.Written} :
    ofWritten? w = some l ↔ ∃ fields entries, Json.HasFields fieldNames w fields ∧
      Holds fields entries ∧ l = Keyed.ofPairs entries := by
  have hnames : fieldNames.Nodup := by decide
  constructor
  · intro h
    obtain ⟨fields, hfields, hrest⟩ := Option.bind_eq_some_iff.mp h
    obtain ⟨n, hversion, hsessions⟩ := Option.bind_eq_some_iff.mp hrest
    have hknown := Json.fields?_eq_some_iff.mp hfields
    obtain ⟨entries, hholds, hl⟩ := (holds_iff (hknown.nodup hnames)).mp ⟨⟨n, hversion⟩, hsessions⟩
    exact ⟨fields, entries, hknown, hholds, hl⟩
  · rintro ⟨fields, entries, hknown, hholds, hl⟩
    obtain ⟨⟨n, hversion⟩, hsessions⟩ :=
      (holds_iff (hknown.nodup hnames)).mpr ⟨entries, hholds, hl⟩
    refine Option.bind_eq_some_iff.mpr ⟨fields, Json.fields?_eq_some_iff.mpr hknown, ?_⟩
    exact Option.bind_eq_some_iff.mpr ⟨n, hversion, hsessions⟩

/-- A file is read if it holds a ledger, and then as the last ends in it. -/
theorem ofBytes?_eq_some_iff {b : Bytes} :
    ofBytes? b = some l ↔ ∃ entries, IsFile b entries ∧ l = Keyed.ofPairs entries := by
  rw [ofBytes?]
  by_cases hblank : Json.isBlankBody b = true
  · rw [if_pos hblank]
    constructor
    · rintro ⟨⟩
      exact ⟨[], .blank hblank, rfl⟩
    · rintro ⟨entries, hfile, rfl⟩
      cases hfile with
      | blank => rfl
      | record htree =>
        -- a blank text has no tree
        rw [Json.Written.ofBytes?_of_isBlankBody hblank] at htree
        cases htree
  · rw [if_neg hblank, Option.bind_eq_some_iff]
    constructor
    · rintro ⟨w, htree, hread⟩
      obtain ⟨fields, entries, hknown, hholds, rfl⟩ := ofWritten?_eq_some_iff.mp hread
      exact ⟨entries, .record htree hknown hholds, rfl⟩
    · rintro ⟨entries, hfile, rfl⟩
      cases hfile with
      | blank h => exact absurd h hblank
      | record htree hknown hholds =>
        exact ⟨_, htree, ofWritten?_eq_some_iff.mpr ⟨_, _, hknown, hholds, rfl⟩⟩

/-! ### Writing a file -/

theorem exact_document (l : Ledger) :
    Json.Exact (.object [("version", .nat 1),
      ("revoked_sessions", .object (l.map fun e => (e.1, .int e.2)))]) := by
  refine .object fun p hp => ?_
  simp only [List.mem_cons, List.not_mem_nil, or_false] at hp
  rcases hp with rfl | rfl
  · exact .integer 1
  · refine .object fun q hq => ?_
    obtain ⟨e, -, rfl⟩ := List.mem_map.mp hq
    exact .integer e.2

theorem fields_document (l : Ledger) :
    (Json.tree (.object [("version", .nat 1),
        ("revoked_sessions", .object (l.map fun e => (e.1, .int e.2)))])).fields? fieldNames
      = some [("version", .number (.ofInt 1)),
          ("revoked_sessions", .object (Json.memberTrees (l.map fun e => (e.1, .int e.2))))] := by
  rw [Json.fields?_tree (by simp [fieldNames]) (by simp)]
  rfl

theorem isEntry_memberTrees (hfits : ∀ e ∈ l, Text.Fits64 e.2) :
    List.Forall₂ IsEntry (Json.memberTrees (l.map fun e => (e.1, .int e.2))) l := by
  rw [Json.memberTrees_eq_map, List.map_map, List.forall₂_map_left_iff, List.forall₂_same]
  intro e he
  exact ⟨Json.unitsText?_units e.1, Json.int64?_tree (hfits e he)⟩

theorem holds_document (hfits : ∀ e ∈ l, Text.Fits64 e.2) :
    Holds [("version", .number (.ofInt 1)),
      ("revoked_sessions", .object (Json.memberTrees (l.map fun e => (e.1, .int e.2))))] l where
  version w hw := by
    simp only [List.mem_cons, Prod.mk.injEq, List.not_mem_nil, or_false] at hw
    rcases hw with ⟨-, rfl⟩ | ⟨hname, -⟩
    · refine ⟨1, ?_⟩
      rw [Json.Written.natBelow?, Json.number?_ofInt (by decide) (by decide)]
      rfl
    · exact absurd hname (by decide)
  sessions := .inr ⟨_, List.mem_cons_of_mem _ List.mem_cons_self, isEntry_memberTrees hfits⟩

theorem isFile_document (hfits : ∀ e ∈ l, Text.Fits64 e.2) :
    IsFile (Utf8.encode (document l)) l :=
  .record (Json.Written.ofBytes?_encode (exact_document l))
    (Json.fields?_eq_some_iff.mp (fields_document l)) (holds_document hfits)

theorem ofBytes?_document (hl : Keyed.Increasing l) (hfits : ∀ e ∈ l, Text.Fits64 e.2) :
    ofBytes? (Utf8.encode (document l)) = some l :=
  ofBytes?_eq_some_iff.mpr ⟨l, isFile_document hfits, hl.ofPairs_eq.symm⟩

end Gatehouse.Store
