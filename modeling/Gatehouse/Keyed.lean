/-!
# Lists kept in the order of their keys

Records of free-form data and the ledger of revoked sessions are written in the order of their keys,
which is the order of the code points. They are association lists with increasing keys, so equal
contents mean equal lists.
-/

namespace Gatehouse.Keyed

variable {α : Type}

def get? (key : String) : List (String × α) → Option α
  | [] => none
  | (k, v) :: rest => if k = key then some v else get? key rest

/-- Puts a value under a key, in place of the one that was there. -/
def insert (key : String) (value : α) : List (String × α) → List (String × α)
  | [] => [(key, value)]
  | (k, v) :: rest =>
    if key < k then (key, value) :: (k, v) :: rest
    else if key = k then (key, value) :: rest
    else (k, v) :: insert key value rest

def erase (key : String) (l : List (String × α)) : List (String × α) :=
  l.filter fun p => p.1 != key

/-- The list of some pairs; of two under one key the later stays. -/
def ofPairs (pairs : List (String × α)) : List (String × α) :=
  pairs.foldl (fun l (k, v) => insert k v l) []

def Increasing (l : List (String × α)) : Prop :=
  l.Pairwise fun a b => a.1 < b.1

@[simp] theorem get?_nil (key : String) : get? key ([] : List (String × α)) = none := rfl

theorem get?_cons (key k : String) (v : α) (l : List (String × α)) :
    get? key ((k, v) :: l) = if k = key then some v else get? key l := rfl

theorem get?_insert_self (key : String) (value : α) (l : List (String × α)) :
    get? key (insert key value l) = some value := by
  induction l with
  | nil => simp [insert, get?]
  | cons p l ih =>
    obtain ⟨k, v⟩ := p
    unfold insert
    split
    · simp [get?]
    · split
      · simp [get?]
      · next _ hne => simp [get?, Ne.symm hne, ih]

theorem get?_insert_of_ne {key other : String} (h : other ≠ key) (value : α)
    (l : List (String × α)) : get? other (insert key value l) = get? other l := by
  induction l with
  | nil => simp [insert, get?, Ne.symm h]
  | cons p l ih =>
    obtain ⟨k, v⟩ := p
    unfold insert
    split
    · simp [get?, Ne.symm h]
    · split
      · next _ heq => subst heq; simp [get?, Ne.symm h]
      · simp [get?, ih]

theorem get?_erase_of_ne {key other : String} (h : other ≠ key) (l : List (String × α)) :
    get? other (erase key l) = get? other l := by
  induction l with
  | nil => rfl
  | cons p l ih =>
    obtain ⟨k, v⟩ := p
    simp only [erase] at ih
    by_cases hk : k = key
    · subst hk
      simp [erase, get?, Ne.symm h, ih]
    · simp [erase, get?, hk, ih]

theorem get?_erase_self (key : String) (l : List (String × α)) : get? key (erase key l) = none := by
  induction l with
  | nil => rfl
  | cons p l ih =>
    obtain ⟨k, v⟩ := p
    simp only [erase] at ih
    by_cases hk : k = key
    · subst hk
      simp [erase, ih]
    · simp [erase, get?, hk, ih]

end Gatehouse.Keyed
