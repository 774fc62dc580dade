import Gatehouse.World.Disk

/-!
# Writing a file whole

Saving a document puts it in place of a file or leaves the file as it was. Directories that are made
on the way stand where nothing stood, so they take no file away and bring none: what is found under
the name of the file is the same before and after, until the document itself is put there.
-/

namespace Gatehouse

namespace Path

theorem above_concat (p : Path) (part : String) : above (p ++ [part]) = above p ++ [p] := by
  simp only [above, List.length_append, List.length_singleton, List.range_succ, List.map_append,
    List.map_cons, List.map_nil, List.take_left']
  congr 1
  refine List.map_congr_left fun n hn => ?_
  exact List.take_append_of_le_length (Nat.le_of_lt (List.mem_range.mp hn))

theorem length_lt_of_mem_above {p q : Path} (h : q ∈ above p) : q.length < p.length := by
  obtain ⟨n, hn, rfl⟩ := List.mem_map.mp h
  rw [List.length_take]
  have := List.mem_range.mp hn
  omega

end Path

namespace Disk

variable {d after : Disk} {p q : Path}

/-! ### Single entries -/

theorem get?_put_of_ne (d : Disk) (e : Entry) (h : q ≠ p) : (d.put p e).get? q = d.get? q := by
  have hkept (l : List (Path × Entry)) : (l.filter fun e => e.1 ≠ p).lookup q = l.lookup q := by
    induction l with
    | nil => rfl
    | cons head l ih =>
      obtain ⟨r, e⟩ := head
      by_cases hr : r = p
      · subst hr
        rw [List.filter_cons_of_neg (by simp), ih, List.lookup_cons, beq_false_of_ne h]
      · rw [List.filter_cons_of_pos (by simpa using hr), List.lookup_cons, List.lookup_cons, ih]
  have hother : [(p, e)].lookup q = none := by
    rw [List.lookup_cons, beq_false_of_ne h]
    rfl
  simp only [get?, put, remove, List.lookup_append, hkept, hother, Option.or_none]

theorem isFile_put_of_ne (d : Disk) (e : Entry) (h : q ≠ p) :
    (d.put p e).isFile q = d.isFile q := by
  rw [isFile, isFile, get?_put_of_ne d e h]

theorem get?_root (d : Disk) (h : p = [] ∨ p = ["/"]) : d.get? p = some .directory :=
  if_pos h

/-- What is found under a name depends on the files above it and on what stands there. -/
theorem read_congr {name : String} (hfile : ∀ q, after.isFile q = d.isFile q)
    (hget : after.get? (Path.ofText name) = d.get? (Path.ofText name)) :
    after.read name = d.read name := by
  have hsame : after.isFile = d.isFile := funext hfile
  rw [read, read, hget, hsame]

/-! ### Directories on the way -/

/-- The disk with a directory under a path where nothing stood. -/
def ensure (d : Disk) (p : Path) : Disk :=
  if (d.get? p).isSome then d else d.put p .directory

/-- A disk that has only gained directories, each under one of the paths. -/
def Gains (paths : List Path) (d after : Disk) : Prop :=
  ∀ q, after.get? q = d.get? q ∨
    q ∈ paths ∧ d.get? q = none ∧ after.get? q = some .directory

theorem gains_ensure (d : Disk) (p : Path) : Gains [p] d (d.ensure p) := by
  intro q
  rw [ensure]
  split
  · exact .inl rfl
  · next hnone =>
    rw [Option.not_isSome_iff_eq_none] at hnone
    by_cases hq : q = p
    · subst hq
      have hroot : q ≠ [] ∧ q ≠ ["/"] := by
        rw [← not_or]
        intro hroot
        rw [get?_root d hroot] at hnone
        cases hnone
      exact .inr ⟨List.mem_singleton_self q, hnone, get?_put d q _ hroot⟩
    · exact .inl (get?_put_of_ne d _ hq)

theorem gains_foldl_ensure (paths : List Path) (d : Disk) :
    Gains paths d (paths.foldl ensure d) := by
  induction paths generalizing d with
  | nil => exact fun q => .inl rfl
  | cons p paths ih =>
    intro q
    rw [List.foldl_cons]
    rcases ih (d.ensure p) q with hlater | ⟨hmem, hnone, hmade⟩
    · rw [hlater]
      rcases gains_ensure d p q with hsame | ⟨hmem, hnone, hmade⟩
      · exact .inl hsame
      · exact .inr ⟨List.mem_cons.mpr (.inl (List.mem_singleton.mp hmem)), hnone, hmade⟩
    · rcases gains_ensure d p q with hsame | ⟨-, -, hmade'⟩
      · exact .inr ⟨List.mem_cons_of_mem _ hmem, hsame ▸ hnone, hmade⟩
      · rw [hmade'] at hnone
        cases hnone

theorem Gains.isFile_eq {paths : List Path} (h : Gains paths d after) (q : Path) :
    after.isFile q = d.isFile q := by
  rw [isFile, isFile]
  rcases h q with hsame | ⟨-, hnone, hmade⟩
  · rw [hsame]
  · rw [hnone, hmade]

theorem makeParents_eq_ok (h : d.makeParents p = .ok after) :
    d.isFile p.dropLast = false ∧ (Path.above p.dropLast).any d.isFile = false ∧
      Gains (Path.above p.dropLast ++ [p.dropLast]) d after := by
  simp only [makeParents] at h
  split at h
  · cases h
  · next hparent =>
    split at h
    · cases h
    · next habove =>
      obtain rfl := Except.ok.inj h
      exact ⟨Bool.eq_false_iff.mpr hparent, Bool.eq_false_iff.mpr habove, gains_foldl_ensure _ d⟩

theorem get?_of_makeParents (h : d.makeParents p = .ok after) : after.get? p = d.get? p := by
  obtain ⟨-, -, hgains⟩ := makeParents_eq_ok h
  rcases hgains p with hsame | ⟨hmem, hnone, -⟩
  · exact hsame
  · have hshort : p.length ≤ p.dropLast.length := by
      rcases List.mem_append.mp hmem with hmem | hmem
      · exact Nat.le_of_lt (Path.length_lt_of_mem_above hmem)
      · exact Nat.le_of_eq (congrArg List.length (List.mem_singleton.mp hmem))
    have hroot : p = [] := by
      rw [List.length_dropLast] at hshort
      exact List.length_eq_zero_iff.mp (by omega)
    rw [get?_root d (.inl hroot)] at hnone
    cases hnone

/-! ### Saving -/

theorem read_put {name : String} {b : Bytes} {mode : Nat} (hname : name ≠ "")
    (hroot : Path.ofText name ≠ [] ∧ Path.ofText name ≠ ["/"])
    (habove : (Path.ofText name).above.any d.isFile = false) :
    (d.put (Path.ofText name) (.file b mode)).read name = .bytes b := by
  have hclear : (Path.ofText name).above.any (d.put (Path.ofText name) (.file b mode)).isFile
      = false := by
    rw [List.any_eq_false] at habove ⊢
    intro q hq
    have hne : q ≠ Path.ofText name := fun heq =>
      absurd (Path.length_lt_of_mem_above hq) (heq ▸ Nat.lt_irrefl _)
    rw [isFile_put_of_ne d _ hne]
    exact habove q hq
  simp only [read, if_neg hname, hclear, get?_put d _ _ hroot]
  rfl

/-- A document that is saved is found under its name, and one that cannot be saved leaves there what
was found before. -/
theorem read_save (d : Disk) (f : FileWrite) :
    (d.save f).2.read f.path
      = if (d.save f).1.isNone then .bytes (Utf8.encode f.document) else d.read f.path := by
  rw [save]
  cases hmade : d.makeParents (Path.ofText f.path) with
  | error fault => rfl
  | ok after =>
    obtain ⟨hparent, habove, hgains⟩ := makeParents_eq_ok hmade
    have hkept : after.read f.path = d.read f.path :=
      read_congr hgains.isFile_eq (get?_of_makeParents hmade)
    dsimp only
    split
    · exact hkept
    · next hname =>
      split
      · exact hkept
      · next hdirectory =>
        have hroot : Path.ofText f.path ≠ [] ∧ Path.ofText f.path ≠ ["/"] := by
          rw [← not_or]
          intro hroot
          exact hdirectory (decide_eq_true (get?_root after hroot))
        refine read_put hname hroot ?_
        obtain ⟨parent, part, hpath⟩ := (List.eq_nil_or_concat (Path.ofText f.path)).resolve_left
          hroot.1
        rw [hpath, List.concat_eq_append, List.dropLast_concat] at hparent habove
        rw [hpath, List.concat_eq_append, Path.above_concat, funext hgains.isFile_eq,
          List.any_append, habove]
        simpa using hparent

end Disk

end Gatehouse
