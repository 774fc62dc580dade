import Gatehouse.Proofs.Json.Leaves
import Gatehouse.Proofs.Text.Utf8

/-!
# Reading what was written

The text of a value without doubles is read as one tree, which is told from the value alone. The
reader counts its steps, one for every value and one for every item or member, and the length of the
text pays for all of them.
-/

namespace Gatehouse.Json

/-- A value all of whose numbers are whole. -/
inductive Exact : Json → Prop where
  | null : Exact .null
  | bool (b : Bool) : Exact (.bool b)
  | integer (n : Int) : Exact (.number (.integer n))
  | text (s : String) : Exact (.text s)
  | list {items : List Json} (exact : ∀ v ∈ items, Exact v) : Exact (.list items)
  | object {members : Members} (exact : ∀ p ∈ members, Exact p.2) : Exact (.object members)

mutual

/-- The tree of a written value; a double counts as nothing. -/
def tree : Json → Written
  | .null => .null
  | .bool b => .bool b
  | .number (.integer n) => .number (.ofInt n)
  | .number (.real _) => .null
  | .text s => .text (units s)
  | .list items => .list (trees items)
  | .object members => .object (memberTrees members)

def trees : List Json → List Written
  | [] => []
  | v :: rest => tree v :: trees rest

def memberTrees : List (String × Json) → List (List Unit16 × Written)
  | [] => []
  | (k, v) :: rest => (units k, tree v) :: memberTrees rest

end

/-! ### Starts -/

def opens (c : Char) : Bool :=
  c.isDigit || ['-', '"', '[', '\x7b', 'n', 't', 'f'].contains c

theorem ne_of_opens {c d : Char} (h : opens c = true) (hd : opens d = false) : c ≠ d := by
  rintro rfl
  rw [h] at hd
  cases hd

theorem skip_cons {c : Char} (h : c ≠ ' ' ∧ c ≠ '\t' ∧ c ≠ '\n' ∧ c ≠ '\r') (l : List Char) :
    skip (c :: l) = c :: l := by
  simp [skip, h]

theorem skip_of_opens {c : Char} (h : opens c = true) (l : List Char) : skip (c :: l) = c :: l :=
  skip_cons ⟨ne_of_opens h rfl, ne_of_opens h rfl, ne_of_opens h rfl, ne_of_opens h rfl⟩ l

theorem toString_starts (n : Int) :
    ∃ c rest, (toString n).toList = c :: rest ∧ (c = '-' ∨ c.isDigit = true) := by
  rw [toList_toString]
  split
  · exact ⟨_, _, rfl, .inl rfl⟩
  · obtain ⟨c, rest, hcons, hc⟩ := Text.toDigits_starts n.natAbs
    exact ⟨c, rest, hcons, .inr hc⟩

theorem chars_starts {v : Json} (h : Exact v) :
    ∃ c rest, chars v = c :: rest ∧ opens c = true := by
  cases h with
  | null => exact ⟨_, _, rfl, by decide⟩
  | bool b => cases b <;> exact ⟨_, _, rfl, by decide⟩
  | integer n =>
    obtain ⟨c, rest, hn, hc⟩ := toString_starts n
    refine ⟨c, rest, by rw [chars, Number.write, hn], ?_⟩
    rcases hc with rfl | hc
    · decide
    · simp [opens, hc]
  | text s => exact ⟨_, _, rfl, by decide⟩
  | list => exact ⟨'[', _, by rw [chars]; rfl, by decide⟩
  | object => exact ⟨'\x7b', _, by rw [chars]; rfl, by decide⟩

/-! ### Values -/

theorem quote_append (s : String) (rest : List Char) :
    quote s ++ rest = '"' :: (s.toList.flatMap escape ++ '"' :: rest) := by
  simp [quote]

theorem isEnd_cons {c : Char} (hdigit : c.isDigit = false) (hc : c ∉ ['.', 'e', 'E'])
    (rest : List Char) : IsEnd (c :: rest) := by
  intro d hd
  rw [← Option.some.inj hd]
  exact ⟨hdigit, hc⟩

theorem written?_of_numeral {c : Char} (hc : c = '-' ∨ c.isDigit = true) (fuel : Nat)
    (l : List Char) :
    written? (fuel + 1) (c :: l) = (numeral? (c :: l)).map fun (n, rest) => (.number n, rest) := by
  have hne {d : Char} (hd : d.isDigit = false) (hminus : d ≠ '-') : c ≠ d := by
    rintro rfl
    rcases hc with rfl | hc
    · exact hminus rfl
    · rw [hc] at hd
      cases hd
  rw [written?, skip_cons ⟨hne rfl (by decide), hne rfl (by decide), hne rfl (by decide),
    hne rfl (by decide)⟩]
  split
  all_goals first
    | rfl
    | next heq => exact absurd (List.cons.inj heq).1 (hne rfl (by decide))

/-- What it takes to read a value back: enough steps, and nothing behind it that would lengthen
it. -/
def ReadsBack (v : Json) : Prop :=
  ∀ (fuel : Nat) (rest : List Char), IsEnd rest → (chars v).length ≤ fuel →
    written? fuel (chars v ++ rest) = some (tree v, rest)

theorem items?_listChars {items : List Json} (hexact : ∀ v ∈ items, Exact v)
    (hreads : ∀ v ∈ items, ReadsBack v) (hne : items ≠ []) (fuel : Nat)
    (hfuel : (listChars items).length + 1 ≤ fuel) (acc : List Written) (rest : List Char) :
    items? fuel acc (listChars items ++ ']' :: rest)
      = some (.list (acc.reverse ++ trees items), rest) := by
  induction items generalizing fuel acc with
  | nil => exact absurd rfl hne
  | cons v items ih =>
    obtain ⟨fuel, rfl⟩ : ∃ n, fuel = n + 1 := ⟨fuel - 1, by omega⟩
    obtain ⟨c, tail, hstart, -⟩ := chars_starts (hexact v (by simp))
    cases items with
    | nil =>
      have hv := hreads v (by simp) fuel _ (isEnd_cons (c := ']') rfl (by decide) rest)
        (by rw [listChars] at hfuel; omega)
      rw [listChars, items?, hv]
      simp [skip_cons, trees]
    | cons w items =>
      rw [listChars, List.length_append, List.length_cons] at hfuel
      have hv := hreads v (by simp) fuel _
        (isEnd_cons (c := ',') rfl (by decide) (listChars (w :: items) ++ ']' :: rest)) (by omega)
      have hitems := ih (fun u hu => hexact u (List.mem_cons_of_mem _ hu))
        (fun u hu => hreads u (List.mem_cons_of_mem _ hu)) (by simp) fuel
        (by rw [hstart, List.length_cons] at hfuel; omega) (tree v :: acc)
      rw [listChars, List.append_assoc, List.cons_append, items?, hv]
      simp only [skip_cons (c := ',') (by decide), hitems]
      simp [trees]

theorem members?_memberChars {members : Members} (hreads : ∀ p ∈ members, ReadsBack p.2)
    (hne : members ≠ []) (fuel : Nat) (hfuel : (memberChars members).length + 1 ≤ fuel)
    (acc : List (List Unit16 × Written)) (rest : List Char) :
    members? fuel acc (memberChars members ++ '\x7d' :: rest)
      = some (.object (acc.reverse ++ memberTrees members), rest) := by
  induction members generalizing fuel acc with
  | nil => exact absurd rfl hne
  | cons p members ih =>
    obtain ⟨k, v⟩ := p
    have hvalue : ReadsBack v := hreads (k, v) (by simp)
    obtain ⟨fuel, rfl⟩ : ∃ n, fuel = n + 1 := ⟨fuel - 1, by omega⟩
    cases members with
    | nil =>
      rw [memberChars, List.length_append, List.length_cons] at hfuel
      have hv := hvalue fuel _ (isEnd_cons (c := '\x7d') rfl (by decide) rest) (by omega)
      rw [memberChars, List.append_assoc, List.cons_append, quote_append, members?]
      simp only [skip_cons (c := '"') (by decide), string?_quote,
        skip_cons (c := ':') (by decide), hv, skip_cons (c := '\x7d') (by decide)]
      simp [memberTrees]
    | cons q members =>
      rw [memberChars, List.length_append, List.length_append, List.length_cons,
        List.length_cons] at hfuel
      have hv := hvalue fuel _
        (isEnd_cons (c := ',') rfl (by decide) (memberChars (q :: members) ++ '\x7d' :: rest))
        (by omega)
      have hmembers := ih (fun u hu => hreads u (List.mem_cons_of_mem _ hu)) (by simp)
        fuel (by omega) ((units k, tree v) :: acc)
      rw [memberChars, List.append_assoc, List.append_assoc, List.cons_append, quote_append,
        List.cons_append, members?]
      simp only [skip_cons (c := '"') (by decide), string?_quote,
        skip_cons (c := ':') (by decide), hv, skip_cons (c := ',') (by decide), hmembers]
      simp [memberTrees]

theorem listChars_starts {v : Json} (h : Exact v) (items : List Json) :
    ∃ c rest, listChars (v :: items) = c :: rest ∧ opens c = true := by
  obtain ⟨c, rest, hv, hc⟩ := chars_starts h
  cases items with
  | nil => exact ⟨c, rest, by rw [listChars, hv], hc⟩
  | cons w items => exact ⟨c, _, by rw [listChars, hv]; rfl, hc⟩

theorem memberChars_starts (p : String × Json) (members : Members) :
    ∃ rest, memberChars (p :: members) = '"' :: rest := by
  obtain ⟨k, v⟩ := p
  cases members with
  | nil => exact ⟨_, by rw [memberChars, quote_append]⟩
  | cons q members => exact ⟨_, by rw [memberChars, List.append_assoc, quote_append]⟩

theorem written?_bracket {c : Char} (hc : opens c = true) (fuel : Nat) (l : List Char) :
    written? (fuel + 1) ('[' :: c :: l) = items? fuel [] (c :: l) := by
  rw [written?]
  simp only [skip_cons (c := '[') (by decide), skip_of_opens hc]
  split
  · next heq => exact absurd (List.cons.inj heq).1 (ne_of_opens hc rfl)
  · rfl

theorem written?_brace (fuel : Nat) (l : List Char) :
    written? (fuel + 1) ('\x7b' :: '"' :: l) = members? fuel [] ('"' :: l) := by
  rw [written?]
  simp only [skip_cons (c := '\x7b') (by decide), skip_cons (c := '"') (by decide)]
  rfl

/-- The text of a value pays for a step at least. -/
theorem Exact.exists_step {v : Json} (h : Exact v) {fuel : Nat}
    (hfuel : (chars v).length ≤ fuel) : ∃ n, fuel = n + 1 := by
  obtain ⟨c, rest, hcons, -⟩ := chars_starts h
  rw [hcons, List.length_cons] at hfuel
  exact ⟨fuel - 1, by omega⟩

theorem Exact.readsBack {v : Json} (h : Exact v) : ReadsBack v := by
  induction h with
  | null =>
    intro fuel rest _ hfuel
    obtain ⟨fuel, rfl⟩ := Exact.null.exists_step hfuel
    simp [chars, written?, skip, word?, tree]
  | bool b =>
    intro fuel rest _ hfuel
    obtain ⟨fuel, rfl⟩ := (Exact.bool b).exists_step hfuel
    cases b <;> simp [chars, written?, skip, word?, tree]
  | integer n =>
    intro fuel rest hrest hfuel
    obtain ⟨fuel, rfl⟩ := (Exact.integer n).exists_step hfuel
    obtain ⟨c, tail, hn, hc⟩ := toString_starts n
    have hnumeral := numeral?_toString n hrest
    rw [hn, List.cons_append] at hnumeral
    rw [chars, Number.write, hn, List.cons_append, written?_of_numeral hc, hnumeral]
    rfl
  | text s =>
    intro fuel rest _ hfuel
    obtain ⟨fuel, rfl⟩ := (Exact.text s).exists_step hfuel
    rw [chars, quote_append, written?]
    simp only [skip_cons (c := '"') (by decide), string?_quote, Option.map_some]
    rfl
  | @list items hexact ih =>
    intro fuel rest _ hfuel
    obtain ⟨fuel, rfl⟩ := (Exact.list hexact).exists_step hfuel
    rw [chars, List.cons_append, List.length_cons, List.length_append,
      List.length_singleton] at hfuel
    rw [chars, List.cons_append, List.cons_append, List.append_assoc, List.singleton_append]
    cases items with
    | nil => simp [listChars, written?, skip_cons, tree, trees]
    | cons v items =>
      have hitems := items?_listChars hexact (fun u hu => ih u hu) (by simp) fuel
        (by omega) [] rest
      obtain ⟨c, tail, hcons, hc⟩ := listChars_starts (hexact v (by simp)) items
      rw [hcons, List.cons_append] at hitems ⊢
      rw [written?_bracket hc, hitems]
      rfl
  | @object members hexact ih =>
    intro fuel rest _ hfuel
    obtain ⟨fuel, rfl⟩ := (Exact.object hexact).exists_step hfuel
    rw [chars, List.cons_append, List.length_cons, List.length_append,
      List.length_singleton] at hfuel
    rw [chars, List.cons_append, List.cons_append, List.append_assoc, List.singleton_append]
    cases members with
    | nil => simp [memberChars, written?, skip_cons, tree, memberTrees]
    | cons p members =>
      have hmembers := members?_memberChars (fun u hu => ih u hu) (by simp) fuel
        (by omega) [] rest
      obtain ⟨tail, hcons⟩ := memberChars_starts p members
      rw [hcons, List.cons_append] at hmembers ⊢
      rw [written?_brace, hmembers]
      rfl

theorem Written.ofText?_write {v : Json} (h : Exact v) : ofText? v.write = some (tree v) := by
  have hread := h.readsBack (2 * v.write.length + 2) [] (by simp [IsEnd])
    (by rw [write, String.length_ofList]; omega)
  rw [List.append_nil] at hread
  rw [ofText?, write, String.toList_ofList]
  rw [write] at hread
  rw [hread]
  rfl

theorem Written.ofBytes?_of_decode? {bytes : Bytes} {s : String}
    (h : Utf8.decode? bytes = some s) : ofBytes? bytes = ofText? s := by
  rw [ofBytes?, Utf8.characters_of_decode? h, List.flatMap_map]
  simp only [Option.elim_some]
  rw [List.flatMap_singleton', String.ofList_toList]

theorem Written.ofBytes?_encode {v : Json} (h : Exact v) :
    ofBytes? (Utf8.encode v.write) = some (tree v) := by
  rw [ofBytes?_of_decode? (Utf8.decode?_encode v.write), ofText?_write h]

theorem isBlankBody_encode_object (members : Members) :
    isBlankBody (Utf8.encode (Json.object members).write) = false := by
  rw [Utf8.encode, write, chars, String.toList_ofList]
  rfl

end Gatehouse.Json
