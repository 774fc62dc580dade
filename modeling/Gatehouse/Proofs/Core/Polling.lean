import Gatehouse.Proofs.Core.Exchange
import Gatehouse.Proofs.Text.Digits
import Gatehouse.Proofs.Url.Form

/-!
# What a poll asks for

The query of a poll is three numbers under their names. Numbers and names are written in characters
that stand for themselves in a query, so whoever reads the query finds under `since_id` the number
that the poll was made for.
-/

namespace Gatehouse

/-! ### Characters that stand for themselves -/

namespace Form

/-- Letters, digits, and some marks that mean nothing in a query. -/
def plainChars : List Char :=
  "-.0123456789ABCDEFGHIJKLMNOPQRSTUVWXYZ_abcdefghijklmnopqrstuvwxyz".toList

def IsPlain (l : List Char) : Prop :=
  ∀ c ∈ l, c ∈ plainChars

/-- What holds of each plain character can be tried. -/
theorem of_mem_plainChars {p : Char → Bool} (h : plainChars.all p = true) {c : Char}
    (hc : c ∈ plainChars) : p c = true :=
  List.all_eq_true.mp h c hc

theorem IsPlain.append {a b : List Char} (ha : IsPlain a) (hb : IsPlain b) : IsPlain (a ++ b) := by
  intro c hc
  rcases List.mem_append.mp hc with hc | hc
  · exact ha c hc
  · exact hb c hc

theorem IsPlain.not_mem {l : List Char} (h : IsPlain l) {c : Char} (hc : c ∉ plainChars) : c ∉ l :=
  fun hmem => hc (h c hmem)

theorem isPlain_of_all {l : List Char} (h : l.all (plainChars.contains ·) = true) : IsPlain l := by
  intro c hc
  simpa using List.all_eq_true.mp h c hc

theorem mem_plainChars_of_isDigit {c : Char} (h : c.isDigit = true) : c ∈ plainChars := by
  have hdigits : ∀ n < 0x3A, (Char.ofNat n).isDigit = true → Char.ofNat n ∈ plainChars := by decide
  have hle : c.toNat ≤ 0x39 := by
    simp only [Char.isDigit, Bool.and_eq_true, decide_eq_true_eq] at h
    exact h.2
  have hmem := hdigits c.toNat (by omega)
  rw [Char.ofNat_toNat] at hmem
  exact hmem h

theorem isPlain_toDigits (n : Nat) : IsPlain (Nat.toDigits 10 n) :=
  fun _ hc => mem_plainChars_of_isDigit (Text.isDigit_of_mem_toDigits hc)

theorem decode_of_not_mem {bytes : Bytes} (h : 0x25 ∉ bytes) : Percent.decode bytes = bytes := by
  induction bytes with
  | nil => rfl
  | cons b rest ih =>
    obtain ⟨hb, hrest⟩ := not_or.mp (mt List.mem_cons.mpr h)
    rw [Percent.decode, ih hrest]
    rintro _ _ _ rfl _
    exact hb rfl

theorem field_of_isPlain {l : List Char} (h : IsPlain l) : field l = String.ofList l := by
  have hbytes : Utf8.encodeChars l = l.map fun c => UInt8.ofNat c.toNat := by
    refine Utf8.encodeChars_of_ascii fun c hc => ?_
    have hascii : (plainChars.all fun c => decide (c.toNat < 0x80)) = true := by decide
    simpa using of_mem_plainChars hascii (h c hc)
  have hplus : spaced (Utf8.encodeChars l) = Utf8.encodeChars l := by
    have hfree : (plainChars.all fun c => decide (UInt8.ofNat c.toNat ≠ 0x2B)) = true := by decide
    rw [hbytes, spaced, List.map_map]
    refine List.map_congr_left fun c hc => if_neg ?_
    simpa using of_mem_plainChars hfree (h c hc)
  have hpercent : Percent.decode (Utf8.encodeChars l) = Utf8.encodeChars l := by
    have hfree : (plainChars.all fun c => decide (UInt8.ofNat c.toNat ≠ 0x25)) = true := by decide
    refine decode_of_not_mem ?_
    rw [hbytes, List.mem_map]
    rintro ⟨c, hc, heq⟩
    have hne := of_mem_plainChars hfree (h c hc)
    simp [heq] at hne
  rw [field, hplus, hpercent, Utf8.decodeLenient, Utf8.characters_encodeChars, List.map_map]
  exact congrArg String.ofList (List.map_id l)

/-- A name and a value as they stand. -/
def plainPair (p : String × String) : List Char :=
  p.1.toList ++ '=' :: p.2.toList

theorem pair_plainPair {p : String × String} (hname : IsPlain p.1.toList)
    (hvalue : IsPlain p.2.toList) : pair (plainPair p) = p := by
  have hcut : Text.cutChars '=' (plainPair p) = some (p.1.toList, p.2.toList) :=
    Text.cutChars_eq_some_iff.mpr ⟨rfl, hname.not_mem (by decide)⟩
  rw [pair, hcut]
  dsimp only
  rw [field_of_isPlain hname, field_of_isPlain hvalue, String.ofList_toList, String.ofList_toList]

theorem not_mem_plainPair {p : String × String} (hname : IsPlain p.1.toList)
    (hvalue : IsPlain p.2.toList) : '&' ∉ plainPair p := by
  rw [plainPair, List.mem_append, List.mem_cons, not_or, not_or]
  exact ⟨hname.not_mem (by decide), by decide, hvalue.not_mem (by decide)⟩

end Form

/-! ### Numbers -/

open Form (IsPlain)

theorem Decimal.isPlain_positional (d : Digits) : IsPlain (d.positional "").toList := by
  have hzeros (n : Nat) : IsPlain (zeros n) := by
    intro c hc
    rw [List.eq_of_mem_replicate hc]
    decide
  have hdigits : IsPlain (Nat.toDigits 10 d.digits) := Form.isPlain_toDigits d.digits
  have hpoint : IsPlain ['.'] := Form.isPlain_of_all (by decide)
  rw [Digits.positional]
  split
  · rw [String.append_empty, String.toList_ofList]
    exact hdigits.append (hzeros _)
  · split
    · rw [String.toList_ofList]
      have hfront (k : Nat) : IsPlain ((Nat.toDigits 10 d.digits).take k) :=
        fun c hc => hdigits c (List.mem_of_mem_take hc)
      have hback (k : Nat) : IsPlain ((Nat.toDigits 10 d.digits).drop k) :=
        fun c hc => hdigits c (List.mem_of_mem_drop hc)
      exact (hfront _).append (hpoint.append (hback _))
    · rw [String.toList_ofList]
      exact (Form.isPlain_of_all (by decide : ['0', '.'].all _ = true)).append
        ((hzeros _).append hdigits)

theorem Decimal.isPlain_write (x : Float) : IsPlain (Layout.plain.write x).toList := by
  rw [Layout.write]
  split
  · exact Form.isPlain_of_all (by decide)
  · have hbody : IsPlain (if x.isInf then "inf"
        else if (ofFloat x).digits = 0 then "0" ++ Layout.plain.wholeMark
        else (ofFloat x).positional Layout.plain.wholeMark).toList := by
      split
      · exact Form.isPlain_of_all (by decide)
      · split
        · exact Form.isPlain_of_all (by decide)
        · exact isPlain_positional _
    dsimp only
    split
    · rw [String.toList_append]
      exact (Form.isPlain_of_all (by decide : "-".toList.all _ = true)).append hbody
    · exact hbody

theorem isPlain_int (n : Int) : IsPlain (toString n).toList := by
  rw [Int.toString_eq_repr, Int.repr_eq_if]
  split
  · rw [Nat.toList_repr]
    exact Form.isPlain_toDigits _
  · rw [String.toList_append, Nat.toList_repr]
    exact (Form.isPlain_of_all (by decide : "-".toList.all _ = true)).append
      (Form.isPlain_toDigits _)

/-! ### Polls -/

namespace PollSettings

/-- What the query of a poll says. -/
def pairs (p : PollSettings) (since : Int) : List (String × String) :=
  [("timeout", Decimal.Layout.plain.write p.timeout),
    ("interval", Decimal.Layout.plain.write p.interval), ("since_id", toString since)]

theorem isPlain_of_mem_pairs {p : PollSettings} {since : Int} {q : String × String}
    (h : q ∈ p.pairs since) : IsPlain q.1.toList ∧ IsPlain q.2.toList := by
  have hname : ∀ q ∈ p.pairs since, q.1 ∈ ["timeout", "interval", "since_id"] := by
    simp [pairs]
  have hplain : ∀ name ∈ ["timeout", "interval", "since_id"], IsPlain name.toList := by
    have hall : (["timeout", "interval", "since_id"].all fun name =>
        name.toList.all (Form.plainChars.contains ·)) = true := by decide
    exact fun name h => Form.isPlain_of_all (List.all_eq_true.mp hall name h)
  refine ⟨hplain _ (hname q h), ?_⟩
  rw [pairs, List.mem_cons, List.mem_cons, List.mem_singleton] at h
  obtain rfl | rfl | rfl := h
  · exact Decimal.isPlain_write p.timeout
  · exact Decimal.isPlain_write p.interval
  · exact isPlain_int since

theorem flatMap_pairs (p : PollSettings) (since : Int) :
    ((p.pairs since).map Form.plainPair).flatMap (fun piece => '&' :: piece)
      = '&' :: (p.query since).toList := by
  simp [query, pairs, Form.plainPair]

theorem query_ne_empty (p : PollSettings) (since : Int) : p.query since ≠ "" := by
  intro hempty
  have hlist := flatMap_pairs p since
  rw [hempty] at hlist
  simp [pairs, Form.plainPair] at hlist

/-- The query of a poll has no character that is rewritten where a query is put into a URL. -/
theorem encodeQuery_query (special : Bool) (p : PollSettings) (since : Int) :
    Url.encodeQuery special (Url.joinedLines (p.query since).toList) = p.query since := by
  have hchars : ∀ c ∈ (p.query since).toList, c ∈ '&' :: '=' :: Form.plainChars := by
    intro c hc
    have hmem := List.mem_cons_of_mem '&' hc
    rw [← flatMap_pairs] at hmem
    obtain ⟨piece, hpiece, hmem⟩ := List.mem_flatMap.mp hmem
    obtain ⟨q, hq, rfl⟩ := List.mem_map.mp hpiece
    obtain ⟨hname, hvalue⟩ := isPlain_of_mem_pairs hq
    rw [Form.plainPair, List.mem_cons, List.mem_append, List.mem_cons] at hmem
    obtain rfl | hc | rfl | hc := hmem
    · exact List.mem_cons_self
    · exact List.mem_cons_of_mem _ (List.mem_cons_of_mem _ (hname c hc))
    · exact List.mem_cons_of_mem _ List.mem_cons_self
    · exact List.mem_cons_of_mem _ (List.mem_cons_of_mem _ (hvalue c hc))
  have hkept : (('&' :: '=' :: Form.plainChars).all fun c =>
      !Percent.inSpecialQuery c && c ≠ '\t' && c ≠ '\n' && c ≠ '\r') = true := by decide
  have hjoined : Url.joinedLines (p.query since).toList = (p.query since).toList := by
    refine List.filter_eq_self.mpr fun c hc => ?_
    have h := List.all_eq_true.mp hkept c (hchars c hc)
    simp_all
  rw [hjoined, Url.encodeQuery, Percent.encode_eq_self fun c hc => ?_, String.ofList_toList]
  have h := List.all_eq_true.mp hkept c (hchars c hc)
  cases special <;> simp_all [Percent.inSpecialQuery]

/-- The query of a poll is read as the pairs that it was written for. -/
theorem pairs_query (p : PollSettings) (since : Int) :
    Form.pairs (p.query since) = p.pairs since := by
  have hfree : ∀ piece ∈ (p.pairs since).map Form.plainPair, '&' ∉ piece := by
    intro piece hpiece
    obtain ⟨q, hq, rfl⟩ := List.mem_map.mp hpiece
    obtain ⟨hname, hvalue⟩ := isPlain_of_mem_pairs hq
    exact Form.not_mem_plainPair hname hvalue
  have hsplit : Text.splitChars '&' (p.query since).toList = (p.pairs since).map Form.plainPair := by
    have hpieces := Text.splitChars_pieces hfree
    rw [flatMap_pairs, Text.splitChars_cons_sep] at hpieces
    exact (List.cons.inj hpieces).2
  have hfull : ∀ piece ∈ (p.pairs since).map Form.plainPair, decide (piece ≠ []) = true := by
    intro piece hpiece
    obtain ⟨q, -, rfl⟩ := List.mem_map.mp hpiece
    simp [Form.plainPair]
  have hread : ∀ q ∈ p.pairs since, Form.pair (Form.plainPair q) = q := by
    intro q hq
    obtain ⟨hname, hvalue⟩ := isPlain_of_mem_pairs hq
    exact Form.pair_plainPair hname hvalue
  rw [Form.pairs, hsplit, List.filter_eq_self.mpr hfull, List.map_map]
  exact (List.map_congr_left hread).trans (List.map_id _)

end PollSettings

namespace Core.Client

/-- A request for the events after `since`. -/
structure IsPoll (c : Client) (since : Int) (r : Request) : Prop where
  method : r.method = .get
  url : c.url? "/events/stream" none = some (r.url.withQuery none)
  since : Form.value? r.url.query "since_id" = some (toString since)

/-- A request is a poll for the events after one number. -/
theorem IsPoll.since_unique {c : Client} {since since' : Int} {r : Request} (h : c.IsPoll since r)
    (h' : c.IsPoll since' r) : since = since' :=
  Text.toString_int_injective (Option.some.inj (h.since.symm.trans h'.since))

theorem isPoll_of_poll {c : Client} {since : Int} {settings : PollSettings} {requestId : String}
    {r : Request} (h : c.poll since settings requestId = some r) : c.IsPoll since r := by
  have hnumber : Text.nonBlank? (toString since) = some (toString since) := by
    have hvisible : (Form.plainChars.all fun c => !Text.isBlank c) = true := by decide
    refine Text.nonBlank?_of_forall (Text.toString_int_ne_empty since) fun c hc => ?_
    simpa using Form.of_mem_plainChars hvisible (isPlain_int since c hc)
  obtain ⟨hurl, hmethod, -⟩ := of_fetch h
  rw [url?] at hurl
  cases hpath : c.base.path with
  | rootless s =>
    rw [hpath] at hurl
    cases hurl
  | segments l =>
    rw [hpath] at hurl
    have hquery : r.url.query = some (settings.query since) := by
      have hsome : (some (settings.query since)).filter (· ≠ "") = some (settings.query since) :=
        Option.filter_eq_some_iff.mpr ⟨rfl, decide_eq_true (settings.query_ne_empty since)⟩
      rw [← Option.some.inj hurl, hsome]
      exact congrArg some (settings.encodeQuery_query _ since)
    refine ⟨hmethod, ?_, ?_⟩
    · rw [url?, hpath, ← Option.some.inj hurl]
      rfl
    · have hfirst : Form.First (Form.pairs (settings.query since)) "since_id" (toString since) [] := by
        rw [settings.pairs_query]
        exact ⟨[_, _], rfl, by simp⟩
      rw [hquery, Form.value?_of_first hfirst, hnumber]

end Core.Client

end Gatehouse
