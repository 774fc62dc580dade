import Gatehouse.Proofs.Core.Client
import Gatehouse.Proofs.Net.Network
import Gatehouse.Proofs.Text.Items
import Mathlib.Data.List.ReduceOption

/-!
# Normal settings

Normalizing brings settings into a form that it leaves alone: texts without blanks around them and
sizes that can be worked with. Settings that are accepted stay so, since whatever is checked of them
is either left alone or, in the case of the trusted proxies, had nothing to trim.
-/

namespace Gatehouse

namespace Text

theorem mem_trimmedItems {items : List String} {s : String} :
    s ∈ trimmedItems items ↔ ∃ item ∈ items, trim item = s ∧ s ≠ "" := by
  simp only [trimmedItems, List.mem_filterMap, nonBlank?_eq_some_iff]

theorem trimmedItems_eq_self {items : List String} (h : ∀ s ∈ items, nonBlank? s = some s) :
    trimmedItems items = items := by
  rw [trimmedItems, List.filterMap_congr h, List.filterMap_some]

theorem trimmedItems_append (items more : List String) :
    trimmedItems (items ++ more) = trimmedItems items ++ trimmedItems more :=
  List.filterMap_append

end Text

namespace Config

variable {c : Config} {u : Url}

/-- The secrets, the name of the core's server, and the items of the lists. -/
def texts (c : Config) : List String :=
  [c.coreToken, c.staticToken, c.signingKey, c.serverName].reduceOption ++ c.allowedDevices ++
    c.allowedOrigins ++ c.trustedProxies

/-- Settings that normalizing leaves alone. -/
structure IsNormal (c : Config) : Prop where
  texts : ∀ s ∈ c.texts, Text.trim s = s ∧ s ≠ ""
  sessionLife : 60 ≤ c.sessionLife
  maxConnections : 0 < c.maxConnections
  maxBody : 0 < c.maxBody
  timeout : 0 < c.timeout

theorem pos_of_default {default : Nat} (h : 0 < default) (n : Nat) :
    0 < if n = 0 then default else n := by
  split
  · exact h
  · omega

/-- Normalizing trims the texts, and leaves out those of which nothing is left. -/
theorem texts_normalized (c : Config) : c.normalized.texts = Text.trimmedItems c.texts := by
  have hoptional (l : List (Option String)) :
      (l.map (Option.bind · Text.nonBlank?)).reduceOption = Text.trimmedItems l.reduceOption := by
    simp only [Text.trimmedItems, List.reduceOption, List.filterMap_map, List.filterMap_filterMap]
    rfl
  simp only [texts, Text.trimmedItems_append]
  rw [← hoptional]
  rfl

theorem isNormal_normalized (c : Config) : c.normalized.IsNormal where
  texts s hs := by
    rw [texts_normalized] at hs
    obtain ⟨item, -, rfl, hne⟩ := Text.mem_trimmedItems.mp hs
    exact ⟨Text.trim_trim item, hne⟩
  sessionLife := Int.le_max_left _ _
  maxConnections := pos_of_default (by decide) c.maxConnections
  maxBody := pos_of_default (by decide) c.maxBody
  timeout := pos_of_default (by decide) c.timeout

theorem normalized_of_isNormal (h : c.IsNormal) : c.normalized = c := by
  have hkept : ∀ s ∈ c.texts, Text.nonBlank? s = some s :=
    fun s hs => Text.nonBlank?_eq_some_iff.mpr (h.texts s hs)
  simp only [texts, List.forall_mem_append] at hkept
  obtain ⟨⟨⟨hsecrets, hdevices⟩, horigins⟩, hproxies⟩ := hkept
  have hoptional (o : Option String)
      (ho : o ∈ [c.coreToken, c.staticToken, c.signingKey, c.serverName]) :
      o.bind Text.nonBlank? = o := by
    cases o with
    | none => rfl
    | some s => exact hsecrets s (List.reduceOption_mem_iff.mpr ho)
  have hlife : max 60 (if c.sessionLife ≤ 0 then 900 else c.sessionLife) = c.sessionLife := by
    have := h.sessionLife
    rw [if_neg (by omega)]
    omega
  rw [normalized, hoptional c.coreToken (by simp), hoptional c.staticToken (by simp),
    hoptional c.signingKey (by simp), hoptional c.serverName (by simp), hlife,
    if_neg h.timeout.ne', if_neg h.maxConnections.ne', if_neg h.maxBody.ne',
    Text.trimmedItems_eq_self hdevices, Text.trimmedItems_eq_self horigins,
    Text.trimmedItems_eq_self hproxies]

/-! ### Accepted settings -/

theorem nonBlank?_of_proxyNetworks {networks : List Network} (h : c.proxyNetworks = .ok networks) :
    ∀ item ∈ c.trustedProxies, Text.nonBlank? item = some item := by
  intro item hitem
  obtain ⟨network, hread⟩ := exists_of_mapM_eq_ok h item hitem
  split at hread
  · next hnetwork => exact Network.nonBlank?_of_ofText? hnetwork
  · cases hread

theorem proxyNetworks_normalized {networks : List Network} (h : c.proxyNetworks = .ok networks) :
    c.normalized.proxyNetworks = .ok networks := by
  have hkept : c.normalized.trustedProxies = c.trustedProxies :=
    Text.trimmedItems_eq_self (nonBlank?_of_proxyNetworks h)
  rw [proxyNetworks, hkept]
  exact h

theorem validate_normalized [CharTables] (h : c.validate = .ok u) : c.normalized.validate = .ok u := by
  obtain ⟨haddress, hidentity, ⟨networks, hnetworks⟩, hrate⟩ := validate_eq_ok_iff.mp h
  have hsameAddress : c.normalized.coreAddress = c.coreAddress := coreAddress_congr rfl
  have hsameRate : c.normalized.checkRate = c.checkRate := checkRate_congr rfl rfl
  exact validate_eq_ok_iff.mpr ⟨hsameAddress.trans haddress, hidentity,
    ⟨networks, proxyNetworks_normalized hnetworks⟩, hsameRate.trans hrate⟩

/-- Normalizing is done once and for all: what comes out of it is normal, and what is normal is left
alone. Accepted settings stay accepted, with the same URL and the same trusted networks. Apart from
the texts and four numbers nothing changes. -/
theorem normalized_closes [CharTables] (c : Config) :
    c.normalized.normalized = c.normalized ∧
      (∀ u, c.validate = .ok u → c.normalized.validate = .ok u ∧
        ∃ networks, c.proxyNetworks = .ok networks ∧
          c.normalized.proxyNetworks = .ok networks) ∧
      c.normalized.IsNormal ∧ (c.normalized = c ↔ c.IsNormal) ∧
      c.normalized.texts = Text.trimmedItems c.texts ∧
      c.normalized = { c with
        coreToken := c.normalized.coreToken
        staticToken := c.normalized.staticToken
        signingKey := c.normalized.signingKey
        serverName := c.normalized.serverName
        timeout := c.normalized.timeout
        sessionLife := c.normalized.sessionLife
        maxConnections := c.normalized.maxConnections
        maxBody := c.normalized.maxBody
        allowedDevices := c.normalized.allowedDevices
        allowedOrigins := c.normalized.allowedOrigins
        trustedProxies := c.normalized.trustedProxies } := by
  refine ⟨normalized_of_isNormal (isNormal_normalized c), fun u hvalid => ?_,
    isNormal_normalized c, ⟨fun hsame => hsame ▸ isNormal_normalized c, normalized_of_isNormal⟩,
    texts_normalized c, rfl⟩
  obtain ⟨-, -, ⟨networks, hnetworks⟩, -⟩ := validate_eq_ok_iff.mp hvalid
  exact ⟨validate_normalized hvalid, networks, hnetworks, proxyNetworks_normalized hnetworks⟩

/-- Settings with blanks around their texts and zeros for their numbers. -/
def untidy : Config :=
  { default with
    staticToken := some " secret\n"
    signingKey := some "  "
    sessionLife := 0
    allowedDevices := [" phone ", "\t"]
    trustedProxies := ["10.0.0.0/8", "::1"]
    maxConnections := 0
    timeout := 0 }

theorem normalized_closes_untidy :
    untidy.validate = .ok Core.Client.localBase ∧
      untidy.normalized.validate = .ok Core.Client.localBase ∧ untidy.normalized ≠ untidy ∧
      untidy.normalized.texts = ["secret", "phone", "10.0.0.0/8", "::1"] := by
  have hvalid : untidy.validate = .ok Core.Client.localBase :=
    validate_of_toOption (by decide +kernel)
  obtain ⟨-, hkept, -, hsame, htexts, -⟩ := normalized_closes untidy
  refine ⟨hvalid, (hkept _ hvalid).1, fun heq => ?_, htexts.trans (by decide)⟩
  exact absurd (hsame.mp heq).timeout (by decide)

end Config

end Gatehouse
