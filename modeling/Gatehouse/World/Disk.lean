import Gatehouse.Revocation.Store
import Gatehouse.Text.Split

/-!
# A disk in memory

Files and directories under paths, with what a relay can meet on a real disk: a path through a
file, a directory where a file should be, directories that are made on the way to a file. Only the
owner may read a file that the relay writes.
-/

namespace Gatehouse

/-- A path, cut at its slashes. -/
abbrev Path := List String

namespace Path

/-- The path of a text; a leading slash counts as its first part. -/
def ofText (s : String) : Path :=
  let parts := (Text.split '/' s).filter fun part => part ≠ "" ∧ part ≠ "."
  if s.toList.head? = some '/' then "/" :: parts else parts

/-- The paths above a path, the outermost first. -/
def above (p : Path) : List Path :=
  (List.range p.length).map fun n => p.take n

end Path

inductive Disk.Entry where
  | file (bytes : Bytes) (mode : Nat)
  | directory
deriving DecidableEq, Repr

/-- A disk: what stands under which path. -/
structure Disk where
  entries : List (Path × Disk.Entry)
deriving DecidableEq, Repr

namespace Disk

def empty : Disk :=
  ⟨[]⟩

def ownerOnly : Nat := 0o600

def ordinary : Nat := 0o644

/-- What stands under a path; the root and the working directory are always there. -/
def get? (d : Disk) (p : Path) : Option Entry :=
  if p = [] ∨ p = ["/"] then some .directory else d.entries.lookup p

def isFile (d : Disk) (p : Path) : Bool :=
  match d.get? p with
  | some (.file _ _) => true
  | _ => false

def isDirectory (d : Disk) (p : Path) : Bool :=
  d.get? p = some .directory

def remove (d : Disk) (p : Path) : Disk :=
  ⟨d.entries.filter fun e => e.1 ≠ p⟩

/-- Puts something under a path, in place of what stood there. -/
def put (d : Disk) (p : Path) (e : Entry) : Disk :=
  ⟨(d.remove p).entries ++ [(p, e)]⟩

def read (d : Disk) (name : String) : FileContent :=
  let p := Path.ofText name
  if name = "" then .absent
  else if p.above.any d.isFile then .unreadable "Not a directory (os error 20)"
  else
    match d.get? p with
    | none => .absent
    | some .directory => .unreadable "Is a directory (os error 21)"
    | some (.file b _) => .bytes b

/-- Makes the directories above a path that are not there yet. -/
def makeParents (d : Disk) (p : Path) : Except String Disk :=
  let parent : Path := p.dropLast
  if d.isFile parent then .error "File exists (os error 17)"
  else if parent.above.any d.isFile then .error "Not a directory (os error 20)"
  else
    .ok ((parent.above ++ [parent]).foldl (fun d q =>
      if (d.get? q).isSome then d else d.put q .directory) d)

/-- Puts a file under a path and makes the directories above it if that can be done. -/
def write (d : Disk) (name : String) (b : Bytes) (mode : Nat) : Disk :=
  let p := Path.ofText name
  ((d.makeParents p).toOption.getD d).put p (.file b mode)

/-- Puts a directory under a path and makes those above it if that can be done. -/
def makeDirectory (d : Disk) (name : String) : Disk :=
  let p := Path.ofText name
  ((d.makeParents p).toOption.getD d).put p .directory

/-- Puts a document in place of a file: what went wrong, if anything did. -/
def save (d : Disk) (f : FileWrite) : Option String × Disk :=
  let p := Path.ofText f.path
  match d.makeParents p with
  | .error fault => (some fault, d)
  | .ok d =>
    if f.path = "" then (some "No such file or directory (os error 2)", d)
    else if d.isDirectory p then (some "Is a directory (os error 21)", d)
    else (none, d.put p (.file (Utf8.encode f.document) ownerOnly))

theorem get?_put (d : Disk) (p : Path) (e : Entry) (h : p ≠ [] ∧ p ≠ ["/"]) :
    (d.put p e).get? p = some e := by
  have outside : (d.remove p).entries.lookup p = none := by
    simp only [remove, List.lookup_eq_none_iff, List.mem_filter]
    rintro ⟨q, _⟩ ⟨_, h⟩
    have other : q ≠ p := of_decide_eq_true h
    exact bne_iff_ne.mpr other.symm
  simp [get?, h, put, List.lookup_append, outside]

end Disk

end Gatehouse
