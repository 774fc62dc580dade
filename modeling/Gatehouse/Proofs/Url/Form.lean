import Gatehouse.Proofs.Text.Blank
import Gatehouse.Proofs.Text.Split
import Gatehouse.Proofs.Url.Percent
import Gatehouse.Url.Form

/-!
# What a query says under a name

A query is read pair by pair, and every list of pairs is what some query says. Of the pairs under
one name the first alone decides: if its value is blank, the query says nothing under the name, even
when a later pair has a value.
-/

namespace Gatehouse

/-! ### Encoded bytes -/

namespace Percent

theorem toNat_lt_of_mem_marks {c : Char} (h : c ∈ marks) : c.toNat < 0x80 := by
  have hall : (marks.all fun c => c.toNat < 0x80) = true := by decide
  simpa using List.all_eq_true.mp hall c h

theorem plus_not_mem_marks {c : Char} (h : c ∈ marks) : UInt8.ofNat c.toNat ≠ 0x2B := by
  have hall : (marks.all fun c => UInt8.ofNat c.toNat ≠ 0x2B) = true := by decide
  simpa using List.all_eq_true.mp hall c h

theorem decode_encodeByte (b : UInt8) (rest : Bytes) :
    decode (Utf8.encodeChars (encodeByte b) ++ rest) = b :: decode rest := by
  have hb : b.toNat < 256 := b.toNat_lt
  have hdigit (n : Nat) (h : n < 16) :
      Text.hexDigit? (Char.ofNat (UInt8.ofNat (Text.hexCapital n).toNat).toNat) = some n := by
    revert n
    decide
  rw [Utf8.encodeChars_of_ascii fun c hc => toNat_lt_of_mem_marks (mem_marks_of_mem_encodeByte hc)]
  change decode (0x25 :: UInt8.ofNat (Text.hexCapital (b.toNat / 16)).toNat ::
    UInt8.ofNat (Text.hexCapital (b.toNat % 16)).toNat :: rest) = b :: decode rest
  rw [decode, hdigit _ (by omega), hdigit _ (by omega)]
  have hsum : 16 * (b.toNat / 16) + b.toNat % 16 = b.toNat := by omega
  dsimp only
  rw [hsum, UInt8.ofNat_toNat]

end Percent

namespace Form

/-- A text with every byte of it encoded. -/
def encoded (s : String) : List Char :=
  (Utf8.encode s).flatMap Percent.encodeByte

theorem mem_marks_of_mem_encoded {c : Char} {s : String} (h : c ∈ encoded s) :
    c ∈ Percent.marks := by
  obtain ⟨b, -, hb⟩ := List.mem_flatMap.mp h
  exact Percent.mem_marks_of_mem_encodeByte hb

theorem not_mem_encoded {c : Char} (hc : c ∉ Percent.marks) (s : String) : c ∉ encoded s :=
  fun h => hc (mem_marks_of_mem_encoded h)

theorem spaced_encoded (s : String) :
    spaced (Utf8.encodeChars (encoded s)) = Utf8.encodeChars (encoded s) := by
  have hascii : ∀ c ∈ encoded s, c.toNat < 0x80 :=
    fun c hc => Percent.toNat_lt_of_mem_marks (mem_marks_of_mem_encoded hc)
  rw [Utf8.encodeChars_of_ascii hascii, spaced, List.map_map]
  refine List.map_congr_left fun c hc => ?_
  exact if_neg (Percent.plus_not_mem_marks (mem_marks_of_mem_encoded hc))

theorem decode_encoded (bytes : Bytes) :
    Percent.decode (Utf8.encodeChars (bytes.flatMap Percent.encodeByte)) = bytes := by
  induction bytes with
  | nil => rfl
  | cons b rest ih =>
    rw [List.flatMap_cons, Utf8.encodeChars, List.flatMap_append]
    exact (Percent.decode_encodeByte b _).trans (congrArg (b :: ·) ih)

theorem field_encoded (s : String) : field (encoded s) = s := by
  rw [field, spaced_encoded, encoded, decode_encoded, Utf8.decodeLenient, Utf8.encode,
    Utf8.characters_encodeChars, List.map_map]
  exact (congrArg String.ofList (List.map_id s.toList)).trans String.ofList_toList

/-! ### Pairs -/

def writePair (p : String × String) : List Char :=
  encoded p.1 ++ '=' :: encoded p.2

theorem pair_writePair (p : String × String) : pair (writePair p) = p := by
  have hcut : Text.cutChars '=' (writePair p) = some (encoded p.1, encoded p.2) :=
    Text.cutChars_eq_some_iff.mpr ⟨rfl, not_mem_encoded (by decide) p.1⟩
  rw [pair, hcut]
  dsimp only
  rw [field_encoded, field_encoded]

/-- A query that says some pairs. -/
def ofPairs (ps : List (String × String)) : String :=
  String.ofList ((ps.map writePair).flatMap (fun piece => '&' :: piece) ++ ['&'])

theorem pairs_ofPairs (ps : List (String × String)) : pairs (ofPairs ps) = ps := by
  have hfree : ∀ piece ∈ ps.map writePair, '&' ∉ piece := by
    intro piece hpiece
    obtain ⟨p, -, rfl⟩ := List.mem_map.mp hpiece
    rw [writePair, List.mem_append, List.mem_cons, not_or, not_or]
    exact ⟨not_mem_encoded (by decide) p.1, by decide, not_mem_encoded (by decide) p.2⟩
  have hsome : (ps.map writePair).filter (· ≠ []) = ps.map writePair := by
    refine List.filter_eq_self.mpr fun piece hpiece => ?_
    obtain ⟨p, -, rfl⟩ := List.mem_map.mp hpiece
    simp [writePair]
  have hpieces := Text.splitChars_flatMap hfree []
  rw [pairs, ofPairs, String.toList_ofList, hpieces, Text.splitChars,
    List.filter_cons_of_neg (by simp), List.filter_append, hsome,
    List.filter_cons_of_neg (by simp), List.filter_nil, List.append_nil, List.map_map]
  simp [Function.comp_def, pair_writePair]

/-! ### Under a name -/

/-- The pair of `name` and `value` stands before `after`, and none under this name before it. -/
def First (ps : List (String × String)) (name value : String) (after : List (String × String)) :
    Prop :=
  ∃ before, ps = before ++ (name, value) :: after ∧ ∀ p ∈ before, p.1 ≠ name

/-- The first value under a name that is not blank, trimmed. -/
def firstNonBlank? (ps : List (String × String)) (name : String) : Option String :=
  ps.findSome? fun p => if p.1 = name then Text.nonBlank? p.2 else none

/-- The first value under a name is blank and a later one is not. -/
def Hides (ps : List (String × String)) (name : String) : Prop :=
  ∃ blank after, First ps name blank after ∧ Text.nonBlank? blank = none ∧
    ∃ value v, (name, value) ∈ after ∧ Text.nonBlank? value = some v

variable {ps : List (String × String)} {name value : String}

theorem first_or_absent (ps : List (String × String)) (name : String) :
    (∃ value after, First ps name value after) ∨ ∀ p ∈ ps, p.1 ≠ name := by
  cases hfind : ps.find? fun p => p.1 = name with
  | none => exact .inr fun p hp => by simpa using List.find?_eq_none.mp hfind p hp
  | some p =>
    obtain ⟨hname, before, after, hps, hbefore⟩ := List.find?_eq_some_iff_append.mp hfind
    have hp : p = (name, p.2) := Prod.ext (of_decide_eq_true hname) rfl
    refine .inl ⟨p.2, after, before, hp ▸ hps, fun q hq => ?_⟩
    simpa using hbefore q hq

theorem First.find?_eq {after : List (String × String)} (h : First ps name value after) :
    (ps.find? fun p => p.1 = name) = some (name, value) := by
  obtain ⟨before, hps, hbefore⟩ := h
  refine List.find?_eq_some_iff_append.mpr ⟨decide_eq_true rfl, before, after, hps, fun p hp => ?_⟩
  simpa using hbefore p hp

theorem value?_of_first {query : String} {after : List (String × String)}
    (h : First (pairs query) name value after) :
    value? (some query) name = Text.nonBlank? value := by
  change ((pairs query).find? fun p => p.1 = name).bind (fun p => Text.nonBlank? p.2) = _
  rw [h.find?_eq, Option.bind_some]

theorem value?_of_absent {query : String} (h : ∀ p ∈ pairs query, p.1 ≠ name) :
    value? (some query) name = none := by
  change ((pairs query).find? fun p => p.1 = name).bind (fun p => Text.nonBlank? p.2) = _
  rw [List.find?_eq_none.mpr fun p hp => by simpa using h p hp, Option.bind_none]

/-- The query says the value that stands first under the name, if that is not blank. -/
theorem value?_eq_some_iff {query v : String} :
    value? (some query) name = some v ↔
      ∃ value after, First (pairs query) name value after ∧ Text.nonBlank? value = some v := by
  constructor
  · intro h
    rcases first_or_absent (pairs query) name with ⟨value, after, hfirst⟩ | habsent
    · rw [value?_of_first hfirst] at h
      exact ⟨value, after, hfirst, h⟩
    · rw [value?_of_absent habsent] at h
      cases h
  · rintro ⟨value, after, hfirst, hvalue⟩
    rw [value?_of_first hfirst, hvalue]

theorem firstNonBlank?_of_absent (h : ∀ p ∈ ps, p.1 ≠ name) : firstNonBlank? ps name = none :=
  List.findSome?_eq_none_iff.mpr fun p hp => if_neg (h p hp)

theorem First.firstNonBlank?_eq {after : List (String × String)} (h : First ps name value after) :
    firstNonBlank? ps name = (Text.nonBlank? value).or (firstNonBlank? after name) := by
  obtain ⟨before, rfl, hbefore⟩ := h
  rw [firstNonBlank?, List.findSome?_append]
  change (firstNonBlank? before name).or _ = _
  rw [firstNonBlank?_of_absent hbefore, Option.none_or, List.findSome?_cons, if_pos rfl]
  cases Text.nonBlank? value <;> rfl

theorem firstNonBlank?_isSome_iff :
    (firstNonBlank? ps name).isSome ↔
      ∃ value v, (name, value) ∈ ps ∧ Text.nonBlank? value = some v := by
  rw [firstNonBlank?, List.findSome?_isSome_iff]
  constructor
  · rintro ⟨p, hp, hsome⟩
    split at hsome
    · next hname =>
      obtain ⟨v, hv⟩ := Option.isSome_iff_exists.mp hsome
      exact ⟨p.2, v, hname ▸ hp, hv⟩
    · cases hsome
  · rintro ⟨value, v, hmem, hv⟩
    refine ⟨(name, value), hmem, ?_⟩
    rw [if_pos rfl, hv]
    rfl

theorem Hides.isSome (h : Hides ps name) : (firstNonBlank? ps name).isSome := by
  obtain ⟨blank, after, ⟨before, rfl, -⟩, -, value, v, hmem, hv⟩ := h
  refine firstNonBlank?_isSome_iff.mpr ⟨value, v, ?_, hv⟩
  exact List.mem_append_right before (List.mem_cons_of_mem _ hmem)

theorem Hides.value?_eq {query : String} (h : Hides (pairs query) name) :
    value? (some query) name = none := by
  obtain ⟨blank, after, hfirst, hblank, -⟩ := h
  rw [value?_of_first hfirst, hblank]

theorem hides_or_value?_eq (query name : String) :
    Hides (pairs query) name ∨ value? (some query) name = firstNonBlank? (pairs query) name := by
  rcases first_or_absent (pairs query) name with ⟨value, after, hfirst⟩ | habsent
  · rw [value?_of_first hfirst, hfirst.firstNonBlank?_eq]
    cases hvalue : Text.nonBlank? value with
    | some v => exact .inr rfl
    | none =>
      rw [Option.none_or]
      cases hafter : firstNonBlank? after name with
      | none => exact .inr rfl
      | some v =>
        have hlater := firstNonBlank?_isSome_iff.mp (Option.isSome_of_eq_some hafter)
        exact .inl ⟨value, after, hfirst, hvalue, hlater⟩
  · rw [value?_of_absent habsent, firstNonBlank?_of_absent habsent]
    exact .inr rfl

/-- A query says the value that stands first under a name, if that is not blank. This is the first
value that is not blank, unless a blank one hides it. -/
theorem value?_spec (query name : String) :
    (∀ v, value? (some query) name = some v ↔
      ∃ value after, First (pairs query) name value after ∧ Text.nonBlank? value = some v) ∧
    (value? (some query) name = firstNonBlank? (pairs query) name ↔ ¬Hides (pairs query) name) := by
  refine ⟨fun v => value?_eq_some_iff, ?_, (hides_or_value?_eq query name).resolve_left⟩
  intro heq hhides
  have hsome := hhides.isSome
  rw [← heq, hhides.value?_eq] at hsome
  cases hsome

/-- Any blank value can hide any other under its name, since a query can say any pairs. -/
theorem hides_ofPairs {blank value v : String} (hblank : Text.nonBlank? blank = none)
    (hvalue : Text.nonBlank? value = some v) (name : String) :
    Hides (pairs (ofPairs [(name, blank), (name, value)])) name := by
  rw [pairs_ofPairs]
  exact ⟨blank, [(name, value)], ⟨[], rfl, by simp⟩, hblank, value, v, by simp, hvalue⟩

end Form

end Gatehouse
