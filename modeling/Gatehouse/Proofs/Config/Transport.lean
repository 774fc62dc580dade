import Gatehouse.Core.Setup
import Gatehouse.Proofs.Core.Client
import Gatehouse.Proofs.Text.Split
import Gatehouse.Proofs.Url.Scheme

/-!
# Whether the core is said to be reached over TLS

The relay tells from the text of the core's URL whether the core is reached over TLS, while its calls
go where the URL leads that was read from this text. TLS is never claimed for a plain connection, but
a TLS connection is recognized only if the URL is spelt the plain way: reading puts up with slashes
that are missing or lean the other way and with control characters in between, and a look at the
first characters does not.
-/

namespace Gatehouse

namespace Url

/-- A text whose first eight characters hold neither blanks nor control characters, the last two of
them being slashes. -/
def PlainlySpelt (s : String) : Prop :=
  (∀ c ∈ s.toList.take 8, 0x20 < c.toNat) ∧ (s.toList.drop 6).take 2 = ['/', '/']

-- the characters of the text are tried, not all characters
instance (s : String) : Decidable (PlainlySpelt s) :=
  have := List.decidableBAll (fun c : Char => 0x20 < c.toNat) (s.toList.take 8)
  inferInstanceAs (Decidable (_ ∧ _))

theorem plainlySpelt_iff {s : String} :
    PlainlySpelt s ↔ ∃ start rest, s.toList = start ++ '/' :: '/' :: rest ∧ start.length = 6 ∧
      ∀ c ∈ start, 0x20 < c.toNat := by
  constructor
  · rintro ⟨hhigh, hslashes⟩
    obtain ⟨rest, hrest⟩ : ∃ rest, s.toList.drop 6 = '/' :: '/' :: rest := by
      refine ⟨(s.toList.drop 6).drop 2, ?_⟩
      rw [← List.take_append_drop 2 (s.toList.drop 6), hslashes]
      rfl
    have hlength := congrArg List.length hrest
    rw [List.length_drop, List.length_cons] at hlength
    refine ⟨s.toList.take 6, rest, ?_, ?_, fun c hc => hhigh c ?_⟩
    · rw [← hrest, List.take_append_drop]
    · rw [List.length_take]
      omega
    · exact List.take_subset_take_left s.toList (by omega) hc
  · rintro ⟨start, rest, hs, hlength, hhigh⟩
    have height : (start ++ '/' :: '/' :: rest).take 8 = start ++ ['/', '/'] := by
      rw [List.take_append, List.take_of_length_le (by omega), hlength]
      rfl
    rw [PlainlySpelt, hs, height, List.drop_left' hlength]
    exact ⟨List.forall_mem_append.mpr ⟨hhigh, by simp⟩, rfl⟩

/-! ### A look at the first characters -/

theorem after?_https_iff {s : String} :
    (Text.after? "https://" (Text.lower s)).isSome = true ↔
      ∃ spelling rest, s.toList = spelling ++ ':' :: '/' :: '/' :: rest ∧
        Text.lower (String.ofList spelling) = "https" := by
  simp only [Option.isSome_iff_exists, Text.after?_eq_some_iff, ← String.toList_inj, Text.lower,
    String.toList_append, String.toList_ofList]
  constructor
  · rintro ⟨rest, h⟩
    obtain ⟨spelling, behind, hs, hspelling, hbehind⟩ := List.map_eq_append_iff.mp
      (h.trans (List.append_assoc "https".toList [':', '/', '/'] rest.toList))
    obtain ⟨colon, l, rfl, hcolon, hl⟩ := List.map_eq_cons_iff.mp hbehind
    obtain ⟨first, l, rfl, hfirst, hl⟩ := List.map_eq_cons_iff.mp hl
    obtain ⟨second, l, rfl, hsecond, -⟩ := List.map_eq_cons_iff.mp hl
    obtain rfl := eq_of_toLower_eq hcolon (by decide)
    obtain rfl := eq_of_toLower_eq hfirst (by decide)
    obtain rfl := eq_of_toLower_eq hsecond (by decide)
    exact ⟨spelling, l, hs, hspelling⟩
  · rintro ⟨spelling, rest, hs, hspelling⟩
    refine ⟨String.ofList (rest.map Char.toLower), ?_⟩
    rw [hs, List.map_append, hspelling]
    simp

section Https

variable {spelling : List Char} (h : Text.lower (String.ofList spelling) = "https")

include h

theorem map_toLower_https : spelling.map Char.toLower = ['h', 't', 't', 'p', 's'] := by
  rw [Text.lower, String.toList_ofList] at h
  rw [← String.toList_ofList (l := spelling.map Char.toLower), h]
  rfl

theorem length_https : spelling.length = 5 := by
  rw [← List.length_map Char.toLower, map_toLower_https h]
  rfl

theorem isSchemeChar_https : ∀ c ∈ spelling, isSchemeChar c = true := by
  intro c hc
  have hall : ∀ d ∈ ['h', 't', 't', 'p', 's'], isSchemeChar d = true :=
    List.all_eq_true.mp (by decide)
  rw [← isSchemeChar_toLower]
  apply hall
  rw [← map_toLower_https h]
  exact List.mem_map_of_mem hc

theorem scheme?_https (rest : List Char) :
    scheme? (spelling ++ ':' :: rest) = some ("https", rest) := by
  obtain ⟨c, tail, rfl, hc, -⟩ := List.map_eq_cons_iff.mp (map_toLower_https h)
  have halpha : c.isAlpha = true := by
    rw [← isAlpha_toLower, hc]
    rfl
  exact scheme?_eq_some_iff.mpr
    ⟨c :: tail, rfl, isSchemeChar_https h, ⟨c, rfl, halpha⟩, h⟩

end Https

/-- Of the URLs that are read, those that start with `https://` in letters of either case are those
with that scheme that are plainly spelt. -/
theorem after?_https_iff_of_ofText? [CharTables] {s : String} {u : Url} (hread : ofText? s = .ok u) :
    (Text.after? "https://" (Text.lower s)).isSome = true ↔
      u.scheme = "https" ∧ PlainlySpelt s := by
  obtain ⟨behind, hscheme⟩ := scheme?_of_ofText? hread
  rw [after?_https_iff, plainlySpelt_iff]
  constructor
  · rintro ⟨spelling, rest, hs, hlower⟩
    have hhigh : ∀ c ∈ spelling ++ [':'], 0x20 < c.toNat :=
      List.forall_mem_append.mpr
        ⟨fun c hc => lt_of_isSchemeChar (isSchemeChar_https hlower c hc), by simp⟩
    rw [List.append_cons] at hs
    obtain ⟨kept, hkept⟩ := cleaned_append hhigh (by simp) ('/' :: '/' :: rest)
    rw [hs, hkept, ← List.append_cons, scheme?_https hlower] at hscheme
    refine ⟨(Prod.mk.inj (Option.some.inj hscheme)).1.symm, spelling ++ [':'], rest, hs, ?_, hhigh⟩
    rw [List.length_append, length_https hlower]
    rfl
  · rintro ⟨hhttps, start, rest, hs, hlength, hhigh⟩
    obtain ⟨kept, hkept⟩ := cleaned_append hhigh (by rintro rfl; cases hlength)
      ('/' :: '/' :: rest)
    rw [hhttps, hs, hkept] at hscheme
    obtain ⟨spelling, hclean, -, -, hlower⟩ := scheme?_eq_some_iff.mp hscheme
    -- Both start with six characters, five of a scheme and a colon.
    rw [List.append_cons] at hclean
    have hstart : start = spelling ++ [':'] := by
      apply List.append_inj_left hclean
      rw [hlength, List.length_append, length_https hlower]
      rfl
    exact ⟨spelling, rest, by rw [hs, hstart, ← List.append_cons], hlower⟩

end Url

/-! ### Where calls go -/

theorem Url.scheme_of_withHost? [CharTables] {u v : Url} {name : String} (h : u.withHost? name = .ok v) :
    v.scheme = u.scheme := by
  have hmapped {read : Except UrlError Host}
      (hread : read.map (fun host => { u with host := some host }) = .ok v) :
      v.scheme = u.scheme := by
    obtain ⟨host, -, rfl⟩ := of_map_eq_ok hread
    rfl
  simp only [withHost?] at h
  split at h
  · cases h
  · split at h
    · exact hmapped h
    · split at h
      · cases h
      · exact hmapped h

namespace Core

theorem Client.scheme_of_url? {client : Client} {path : String} {query : Option String} {url : Url}
    (h : client.url? path query = some url) : url.scheme = client.base.scheme := by
  rw [url?] at h
  split at h
  · cases h
  · cases h
    rfl

theorem Surroundings.scheme_of_renamed [CharTables] {s : Surroundings} {u base : Url} {name : String}
    (h : s.renamed u name = .ok base) : base.scheme = u.scheme := by
  rw [renamed] at h
  split at h
  · cases h
  · split at h
    · cases h
    · split at h
      · next hnamed =>
        cases h
        exact Url.scheme_of_withHost? hnamed
      · cases h

theorem Client.scheme_of_ofConfig [CharTables] {s : Surroundings} {c : Config} {u : Url} {client : Client}
    (hvalid : c.validate = .ok u) (h : ofConfig s c = .ok client) :
    client.base.scheme = u.scheme := by
  cases hname : c.serverName with
  | none =>
    simp only [ofConfig, hvalid, hname, bind, Except.bind, pure, Except.pure] at h
    repeat' split at h
    all_goals cases h
    all_goals rfl
  | some name =>
    simp only [ofConfig, hvalid, hname, bind, Except.bind, pure, Except.pure] at h
    repeat' split at h
    all_goals cases h
    all_goals exact Surroundings.scheme_of_renamed ‹_›

end Core

namespace Config

/-- The settings say TLS just for a URL with the scheme `https` that is plainly spelt; every URL that a
client calls has the scheme of the URL that was read. -/
theorem usesTls_iff [CharTables] {c : Config} {u : Url} (hvalid : c.validate = .ok u) :
    (c.usesTls = true ↔ u.scheme = "https" ∧ Url.PlainlySpelt (Text.trim c.coreUrl)) ∧
      ∀ surroundings client, Core.Client.ofConfig surroundings c = .ok client →
        ∀ path query url, client.url? path query = some url → url.scheme = u.scheme := by
  obtain ⟨hread, -⟩ := ofText?_of_validate hvalid
  refine ⟨Url.after?_https_iff_of_ofText? hread, ?_⟩
  intro surroundings client hclient path query url hurl
  rw [Core.Client.scheme_of_url? hurl, Core.Client.scheme_of_ofConfig hvalid hclient]

/-- The settings that name a core by a URL with no slash after its scheme. -/
def slashless : Config :=
  { default with coreUrl := "https:core.internal" }

/-- The URL that is read for it. -/
def slashlessBase : Url where
  scheme := "https"
  username := ""
  password := ""
  host := some (.domain "core.internal")
  portNumber := none
  path := .segments [""]
  query := none
  fragment := none

theorem usesTls_iff_slashless :
    slashless.validate = .ok slashlessBase ∧ slashlessBase.scheme = "https" ∧
      ¬Url.PlainlySpelt (Text.trim slashless.coreUrl) ∧ slashless.usesTls = false := by
  have hvalid : slashless.validate = .ok slashlessBase := validate_of_toOption (by decide +kernel)
  have hplain : ¬Url.PlainlySpelt (Text.trim slashless.coreUrl) := by decide
  refine ⟨hvalid, rfl, hplain, ?_⟩
  rw [Bool.eq_false_iff]
  intro htls
  exact hplain ((usesTls_iff hvalid).1.mp htls).2

end Config

end Gatehouse
