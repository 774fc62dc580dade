import Gatehouse.Config.Basic
import Gatehouse.Core.Client
import Gatehouse.Proofs.Url.Below
import Gatehouse.Url.International

/-!
# What the core is asked for

A path that the grammar of routes accepts is put below the base path of the core. The two read a path
differently: the grammar cuts it at slashes only, while a URL takes a backslash for a slash and drops
tabs and line ends. Where none of these occurs, the core is asked for the segments that were
classified, and for nothing else.
-/

namespace Gatehouse

/-! ### Settings that are accepted -/

theorem Config.validate_eq_ok_iff [CharTables] {c : Config} {u : Url} :
    c.validate = .ok u ↔ c.coreAddress = .ok u ∧
      c.clientCertFile.isSome = c.clientKeyFile.isSome ∧
      (∃ networks, c.proxyNetworks = .ok networks) ∧ c.checkRate = .ok () := by
  simp only [validate, bind, Except.bind]
  cases c.coreAddress with
  | error e => simp
  | ok v =>
    by_cases hidentity : c.clientCertFile.isSome = c.clientKeyFile.isSome
    · cases c.proxyNetworks with
      | error e => simp [hidentity]
      | ok networks =>
        cases c.checkRate with
        | error e => simp [hidentity]
        | ok done => simp [hidentity, pure, Except.pure]
    · simp [hidentity]

theorem Config.coreAddress_congr [CharTables] {c c' : Config} (h : c.coreUrl = c'.coreUrl) :
    c.coreAddress = c'.coreAddress := by
  rw [coreAddress, coreAddress, h]

theorem Config.checkRate_congr {c c' : Config} (hrate : c.rate = c'.rate)
    (hburst : c.burst = c'.burst) : c.checkRate = c'.checkRate := by
  rw [checkRate, checkRate, hrate, hburst]

/-- The URL of accepted settings is read from the text that they give for it. -/
theorem Config.ofText?_of_validate [CharTables] {c : Config} {u : Url} (h : c.validate = .ok u) :
    Url.ofText? (Text.trim c.coreUrl) = .ok u ∧ (u.scheme = "http" ∨ u.scheme = "https") := by
  obtain ⟨haddress, -⟩ := validate_eq_ok_iff.mp h
  rw [coreAddress] at haddress
  repeat' split at haddress
  all_goals cases haddress
  next hread hscheme => exact ⟨hread, hscheme⟩

theorem Config.scheme_of_validate [CharTables] {c : Config} {u : Url} (h : c.validate = .ok u) :
    ∃ s n, Url.ofText? s = .ok u ∧ Url.schemeKind u.scheme = .special n := by
  obtain ⟨hread, hhttp | hhttps⟩ := ofText?_of_validate h
  · exact ⟨_, 80, hread, by rw [hhttp]; rfl⟩
  · exact ⟨_, 443, hread, by rw [hhttps]; rfl⟩

theorem Config.validate_of_toOption [CharTables] {c : Config} {u : Url} (h : c.validate.toOption = some u) :
    c.validate = .ok u := by
  revert h
  cases c.validate with
  | error e => simp [Except.toOption]
  | ok v => simp [Except.toOption]

namespace Core.Client

/-- Segments without the empty ones at their end, which are the slashes that a path ends in. -/
def stem (base : List String) : List String :=
  Text.dropEnd (· == "") base

def below (path : String) : List String :=
  (Text.split '/' path).drop 1

/-- A segment as it stands in a URL. -/
def encodedSegment (s : String) : String :=
  String.ofList (Percent.encode Percent.inPath s.toList)

theorem below_eq {path : String} {rest : List Char} (h : path.toList = '/' :: rest) :
    below path = (Text.splitChars '/' rest).map String.ofList := by
  rw [below, Text.split, h, Text.splitChars_cons_sep]
  rfl

theorem map_toList_stem (base : List String) :
    (stem base).map String.toList = Text.dropEnd (· == []) (base.map String.toList) := by
  have hempty : (fun s : String => s == "") = (· == []) ∘ String.toList := by
    funext s
    rw [Function.comp_apply, Bool.eq_iff_iff, beq_iff_eq, beq_iff_eq, ← String.toList_inj]
    rfl
  rw [stem, hempty, Text.dropEnd_map]

theorem toList_joinedPath {base : List String} {path : String} {rest : List Char}
    (hbase : ∀ s ∈ base, Url.IsCanonical s.toList) (hpath : path.toList = '/' :: rest)
    (hrest : rest.head? ≠ some '/') :
    (joinedPath (Url.pathText base) path).toList
      = ((stem base).map String.toList).flatMap (fun s => '/' :: s) ++ '/' :: rest := by
  have hfree : ∀ s ∈ base.map String.toList, '/' ∉ s := by
    intro s hs
    obtain ⟨t, ht, rfl⟩ := List.mem_map.mp hs
    exact (hbase t ht).slash
  have hdrop : path.toList.dropWhile (· == '/') = rest := by
    rw [hpath, List.dropWhile_cons_of_pos rfl]
    cases rest with
    | nil => rfl
    | cons c rest => exact List.dropWhile_cons_of_neg (by simpa using hrest)
  rw [map_toList_stem, ← Url.dropEnd_slash_flatMap hfree, List.flatMap_map, joinedPath, hdrop,
    Url.pathText]
  simp

theorem url?_of_segments {u : Url} {base : List String} (h : u.path = .segments base)
    (token : Option String) (path : String) (query : Option String) :
    (Client.mk u token).url? path query
      = some ((u.withPath (joinedPath (Url.pathText base) path)).withQuery
          (query.filter (· ≠ ""))) := by
  simp only [url?, h, Url.Path.text]

/-- The core is asked for the segments that were classified, encoded, below its base path exactly if
the path holds nothing that a URL reads in another way. -/
theorem url?_path_iff [CharTables] {c : Config} {u : Url} {path : String} {kind : ForwardKind}
    (hvalid : c.validate = .ok u) (hroute : Route.classify path = some kind)
    (token query : Option String) :
    ∃ base url, u.path = .segments base ∧ (Client.mk u token).url? path query = some url ∧
      (url.path = .segments (stem base ++ (below path).map encodedSegment)
        ↔ ∀ ch ∈ path.toList, Url.isRewritten ch = false) := by
  obtain ⟨s, n, hread, hspecial⟩ := Config.scheme_of_validate hvalid
  obtain ⟨l, hsegments⟩ := Url.path_of_ofText? hread hspecial
  obtain ⟨route, hpath, -⟩ := Option.map_eq_some_iff.mp hroute
  obtain ⟨rest, hrest, hnaming⟩ := Route.isNaming_of_ofPath? hpath
  have hcanonical : ∀ s ∈ Url.segments true l, Url.IsCanonical s.toList :=
    fun s hs => Url.isCanonical_of_mem_segments hs
  generalize Url.segments true l = base at hsegments hcanonical
  have hstem : ∀ s ∈ (stem base).map String.toList, Url.IsCanonical s := by
    intro s hs
    obtain ⟨t, ht, rfl⟩ := List.mem_map.mp hs
    exact hcanonical t (Text.mem_of_mem_dropEnd ht)
  have hhead : rest.head? ≠ some '/' := by
    intro hhead
    obtain ⟨tail, rfl⟩ := List.head?_eq_some_iff.mp hhead
    exact (hnaming [] (by rw [Text.splitChars_cons_sep]; simp)).1 rfl
  have hsame : (∀ ch ∈ path.toList, Url.isRewritten ch = false)
      ↔ ∀ ch ∈ rest, Url.isRewritten ch = false := by
    rw [hrest, List.forall_mem_cons]
    exact and_iff_right rfl
  have hwritten : stem base ++ (below path).map encodedSegment
      = ((stem base).map String.toList
          ++ (Text.splitChars '/' rest).map (Percent.encode Percent.inPath)).map String.ofList := by
    simp [below_eq hrest, Function.comp_def, encodedSegment]
  refine ⟨base, _, hsegments, url?_of_segments hsegments token path query, ?_⟩
  rw [hsame, ← Url.walk_below_iff hstem hnaming, Url.path_withQuery,
    Url.path_withPath hspecial, toList_joinedPath hcanonical hrest hhead,
    Url.segments_below hstem, hwritten, Url.Path.segments.injEq]
  exact List.map_inj_right fun _ _ h => String.ofList_inj.mp h

def localBase : Url where
  scheme := "http"
  username := ""
  password := ""
  host := some (.address (.v4 0x7F000001))
  portNumber := some 8787
  path := .segments [""]
  query := none
  fragment := none

theorem validate_default : Config.default.validate = .ok localBase :=
  Config.validate_of_toOption (by decide +kernel)

theorem url?_path_iff_undo :
    Config.default.validate = .ok localBase ∧ Route.classify "/plans/.\t./undo" = some .json ∧
      ∃ base url, localBase.path = .segments base ∧
        (Client.mk localBase none).url? "/plans/.\t./undo" none = some url ∧
        (url.path = .segments (stem base ++ (below "/plans/.\t./undo").map encodedSegment)
          ↔ ∀ ch ∈ "/plans/.\t./undo".toList, Url.isRewritten ch = false) := by
  have hroute : Route.classify "/plans/.\t./undo" = some .json := by decide
  exact ⟨validate_default, hroute, url?_path_iff validate_default hroute none none⟩

-- The id of this plan holds a tab, and the core is asked to undo something else.
example : (below "/plans/.\t./undo").map encodedSegment = ["plans", ".%09.", "undo"] ∧
    ((Client.mk localBase none).url? "/plans/.\t./undo" none).map Url.path
      = some (.segments ["undo"]) := by
  decide

end Core.Client

end Gatehouse
