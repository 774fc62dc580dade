import Gatehouse.Proofs.Url.Host
import Gatehouse.Proofs.Url.Scheme

/-!
# The site of a URL

The scheme, the host and the port of a URL say to which site it belongs. Reading a URL keeps three
things of them, whichever way the URL is read: no colon in the scheme, a host whose end can be found,
and no port that the scheme has anyway.
-/

namespace Gatehouse.Url

/-- What holds of the site of every URL that is read. -/
structure Sited (u : Url) : Prop where
  scheme : ':' ∉ u.scheme.toList
  host : ∀ h, u.host = some h → Host.Ends h.text.toList
  portNumber : ∀ n, u.portNumber = some n → schemeKind u.scheme ≠ .special n

/-! ### The parts -/

theorem colon_not_mem_of_scheme? {l rest : List Char} {scheme : String}
    (h : scheme? l = some (scheme, rest)) : ':' ∉ scheme.toList := by
  obtain ⟨spelling, -, hallowed, -, rfl⟩ := scheme?_eq_some_iff.mp h
  rw [Text.lower, String.toList_ofList, String.toList_ofList]
  intro hcolon
  obtain ⟨c, hc, hlower⟩ := List.mem_map.mp hcolon
  have hsmall := (isSchemeChar_toLower c).trans (hallowed c hc)
  rw [hlower] at hsmall
  cases hsmall

theorem ends_of_host? [CharTables] {kind : SchemeKind} {l : List Char} {h : Host}
    (hread : host? kind l = .ok (some h)) : Host.Ends h.text.toList := by
  rw [host?.eq_def] at hread
  split at hread
  · exact Host.ends_of_ofOther? hread
  · split at hread
    · cases hread
    · cases hhost : Host.ofSpecial? l with
      | error e =>
        rw [hhost] at hread
        cases hread
      | ok other =>
        rw [hhost] at hread
        obtain rfl := Option.some.inj (Except.ok.inj hread)
        exact Host.ends_of_ofSpecial? hhost

theorem ne_default_of_portNumber? {kind : SchemeKind} {l : List Char} {n : Nat}
    (hread : portNumber? kind l = .ok (some n)) : kind ≠ .special n := by
  rw [portNumber?.eq_def] at hread
  split at hread
  · cases hread
  · split at hread
    · cases hread
    · split at hread
      · cases hread
      · split at hread
        · cases hread
        · next hkind =>
          obtain rfl := Option.some.inj (Except.ok.inj hread)
          exact hkind

/-! ### Reading a URL -/

theorem host_and_portNumber_of_withAuthority? [CharTables] {scheme : String} {l : List Char} {u : Url}
    (h : withAuthority? scheme l = .ok u) :
    (∃ a, host? (schemeKind scheme) a = .ok u.host) ∧
      ∃ b, portNumber? (schemeKind scheme) b = .ok u.portNumber := by
  simp only [withAuthority?, bind, Except.bind, pure, Except.pure] at h
  repeat' split at h
  all_goals
    try cases h
  all_goals exact ⟨⟨_, ‹_›⟩, _, ‹_›⟩

theorem sited_of_withAuthority? [CharTables] {scheme : String} {l : List Char} {u : Url}
    (h : withAuthority? scheme l = .ok u) (hscheme : ':' ∉ scheme.toList) : u.Sited := by
  obtain ⟨hsame, -⟩ := scheme_and_path_of_withAuthority? h
  obtain ⟨⟨a, ha⟩, b, hb⟩ := host_and_portNumber_of_withAuthority? h
  refine ⟨hsame ▸ hscheme, fun h hh => ?_, fun n hn => ?_⟩
  · rw [hh] at ha
    exact ends_of_host? ha
  · rw [hn] at hb
    rw [hsame]
    exact ne_default_of_portNumber? hb

theorem sited_build {scheme : String} (hscheme : ':' ∉ scheme.toList) (user : String × String)
    (l : List Char) (path : List Char → Path) :
    (build scheme user none none l path).Sited := by
  refine ⟨hscheme, fun h hh => ?_, fun n hn => ?_⟩
  · cases hh
  · cases hn

theorem sited_of_ofFile? [CharTables] {l : List Char} {u : Url} (h : ofFile? l = .ok u) : u.Sited := by
  have hscheme : ':' ∉ "file".toList := by decide
  simp only [ofFile?, bind, Except.bind, pure, Except.pure] at h
  split at h
  · split at h
    · obtain rfl := Except.ok.inj h
      exact sited_build hscheme _ _ _
    · split at h
      · cases h
      · next host hhost =>
        obtain rfl := Except.ok.inj h
        refine ⟨hscheme, fun k hk => ?_, fun n hn => ?_⟩
        · -- A host that is this machine is left out, and any other one stands as it was read.
          change (if host = Host.domain "localhost" then none else some host) = some k at hk
          split at hk
          · cases hk
          · obtain rfl := Option.some.inj hk
            exact Host.ends_of_ofSpecial? hhost
        · cases hn
  · obtain rfl := Except.ok.inj h
    exact sited_build hscheme _ _ _

theorem sited_of_ofText? [CharTables] {s : String} {u : Url} (h : ofText? s = .ok u) : u.Sited := by
  rw [ofText?] at h
  split at h
  · cases h
  · next scheme rest hread =>
    have hscheme := colon_not_mem_of_scheme? hread
    split at h
    · exact sited_of_withAuthority? h hscheme
    · exact sited_of_ofFile? h
    · split at h
      · exact sited_of_withAuthority? h hscheme
      · obtain rfl := Except.ok.inj h
        exact sited_build hscheme _ _ _
      · obtain rfl := Except.ok.inj h
        exact sited_build hscheme _ _ _

end Gatehouse.Url
