import Gatehouse.Proofs.Core.Client
import Gatehouse.Relay.Basic

/-!
# Rates that can be enforced

Settings are accepted where the period of their rate fits in 64 bits and their burst is not nothing.
A bucket asks for more: the period times the burst has to fit. So a limiter that was set up from
accepted settings answers every request, or it breaks at the first one, and what was checked when the
settings were accepted does not tell which.
-/

namespace Gatehouse

/-! ### Positive rates -/

theorem unpack_zero : (0 : Float).toModel.unpack = .zero .positive := rfl

/-- The comparisons with zero, for the numbers that are ordered. -/
theorem not_le_zero_of_pos {x : Float} (h : 0 < x) : ¬x ≤ 0 := by
  have hlt : (Float.Model.UnpackedFloat.zero .positive).lt x.toModel.unpack = true := by
    rw [← unpack_zero]
    exact of_decide_eq_true h
  intro hle
  have hnonpos : x.toModel.unpack.le (.zero .positive) = true := by
    rw [← unpack_zero]
    exact of_decide_eq_true hle
  cases hx : x.toModel.unpack with
  | notANumber | zero sign =>
    rw [hx] at hlt
    cases hlt
  | infinity sign | finite sign mantissa exponent hmantissa =>
    rw [hx] at hlt hnonpos
    cases sign with
    | positive => cases hnonpos
    | negative => cases hlt

namespace Limit

variable {q : Quota}

/-! ### Checks -/

theorem check?_of_fits (hfits : q.Fits) (bs : Buckets) (client : String) (now : Nat) :
    check? (some q) bs client now = some (check (some q) bs client now) :=
  if_pos (.inl hfits)

theorem isSome_check? {quota : Option Quota} (hfits : ∀ q ∈ quota, q.Fits) (bs : Buckets)
    (client : String) (now : Nat) : (check? quota bs client now).isSome := by
  cases quota with
  | none => rfl
  | some q =>
    rw [check?_of_fits (hfits q rfl)]
    rfl

theorem check?_nil_of_not_fits (hfits : ¬q.Fits) (client : String) (now : Nat) :
    check? (some q) [] client now = none := by
  rw [check?, if_neg]
  rintro (hq | hold)
  · exact hfits hq
  · cases hold

/-- The answers to requests of clients at given times, one after the other. -/
def run? (quota : Option Quota) (bs : Buckets) :
    List (String × Nat) → Option (List Admission × Buckets)
  | [] => some ([], bs)
  | (client, now) :: rest => do
    let (answer, bs) ← check? quota bs client now
    let (answers, bs) ← run? quota bs rest
    return (answer :: answers, bs)

/-- The answers to requests of clients at given times, one after the other, by buckets that can all be
made. -/
def run (quota : Option Quota) (bs : Buckets) :
    List (String × Nat) → List Admission × Buckets
  | [] => ([], bs)
  | (client, now) :: rest =>
    let (answer, bs) := check quota bs client now
    let (answers, bs) := run quota bs rest
    (answer :: answers, bs)

theorem run?_eq_some_run (hfits : q.Fits) (bs : Buckets) (requests : List (String × Nat)) :
    run? (some q) bs requests = some (run (some q) bs requests) := by
  induction requests generalizing bs with
  | nil => rfl
  | cons request rest ih =>
    obtain ⟨client, now⟩ := request
    have hrest := ih (check (some q) bs client now).2
    rw [run?, check?_of_fits hfits]
    simp [hrest, run]

theorem length_run (quota : Option Quota) (bs : Buckets) (requests : List (String × Nat)) :
    (run quota bs requests).1.length = requests.length := by
  induction requests generalizing bs with
  | nil => rfl
  | cons request rest ih => exact congrArg (· + 1) (ih _)

theorem run?_of_fits (hfits : q.Fits) (bs : Buckets) (requests : List (String × Nat)) :
    ∃ answers bs', run? (some q) bs requests = some (answers, bs') ∧
      answers.length = requests.length :=
  ⟨_, _, run?_eq_some_run hfits bs requests, length_run _ bs requests⟩

theorem run?_of_not_fits (hfits : ¬q.Fits) (request : String × Nat)
    (requests : List (String × Nat)) : run? (some q) [] (request :: requests) = none := by
  rw [run?, check?_nil_of_not_fits hfits]
  rfl

/-- The longest period that fits with every burst of 32 bits. -/
def safePeriod : Nat := 0x100000001

theorem fits_all_iff {period : Nat} :
    (∀ burst ≤ 0xFFFFFFFF, (Quota.mk period burst).Fits) ↔ period ≤ safePeriod := by
  simp only [Quota.Fits, Quota.tolerance, maxPeriod, safePeriod]
  constructor
  · intro h
    have hmost := h 0xFFFFFFFF (Nat.le_refl _)
    omega
  · intro h burst hburst
    calc period * burst ≤ 0x100000001 * 0xFFFFFFFF := Nat.mul_le_mul h hburst
      _ = 0xFFFFFFFFFFFFFFFF := rfl

end Limit

/-! ### Accepted settings -/

namespace Config

variable {c : Config} {u : Url}

theorem checkRate_eq_ok_iff (hrate : 0 < c.rate) :
    c.checkRate = .ok () ↔ c.rate.isFinite = true ∧ (Limit.period? c.rate).isSome ∧ 0 < c.burst := by
  rw [checkRate]
  by_cases hfinite : c.rate.isFinite = true
  · rw [if_neg (by simp [hfinite]), if_neg (not_le_zero_of_pos hrate)]
    cases hperiod : Limit.period? c.rate with
    | none => simp
    | some period => by_cases hburst : c.burst = 0 <;> simp [hfinite, hburst, Nat.pos_iff_ne_zero]
  · simp [hfinite]

theorem quota_of_validate [CharTables] (hvalid : c.normalized.validate = .ok u) (hrate : 0 < c.rate) :
    ∃ q, Limit.Quota.ofRate? c.rate c.burst = some q ∧ Limit.period? c.rate = some q.period ∧
      q.burst = c.burst ∧ 0 < c.burst := by
  obtain ⟨-, -, -, hcheck⟩ := validate_eq_ok_iff.mp hvalid
  have hrate' : 0 < c.normalized.rate := hrate
  obtain ⟨-, hkept, hburst⟩ := (checkRate_eq_ok_iff hrate').mp hcheck
  change 0 < c.burst at hburst
  obtain ⟨period, hperiod⟩ : ∃ period, Limit.period? c.rate = some period :=
    Option.isSome_iff_exists.mp hkept
  refine ⟨⟨period, max 1 c.burst⟩, ?_, hperiod, Nat.max_eq_right hburst, hburst⟩
  rw [Limit.Quota.ofRate?, hperiod, Option.map_some]

/-- Settings are accepted with every burst or with none. -/
theorem validate_with_burst [CharTables] (hvalid : c.normalized.validate = .ok u) (hrate : 0 < c.rate)
    {burst : Nat} (hburst : 0 < burst) : { c with burst }.normalized.validate = .ok u := by
  obtain ⟨haddress, hidentity, hproxies, hcheck⟩ := validate_eq_ok_iff.mp hvalid
  have hold : 0 < c.normalized.rate := hrate
  obtain ⟨hfinite, hperiod, -⟩ := (checkRate_eq_ok_iff hold).mp hcheck
  have hsame : { c with burst }.normalized.coreAddress = c.normalized.coreAddress :=
    coreAddress_congr rfl
  have hnew : 0 < { c with burst }.normalized.rate := hrate
  have hchecked : { c with burst }.normalized.checkRate = .ok () :=
    (checkRate_eq_ok_iff hnew).mpr ⟨hfinite, hperiod, hburst⟩
  exact validate_eq_ok_iff.mpr ⟨hsame.trans haddress, hidentity, hproxies, hchecked⟩

/-- The limiter of accepted settings with a positive rate is on. Every request is answered if the
period of the rate times the burst fits in 64 bits, and none by a limiter that has just been set up
if it does not. The settings are accepted with every other burst too, and only with a short period do
all of them fit. -/
theorem enforceable_iff [CharTables] (hvalid : c.normalized.validate = .ok u) (hrate : 0 < c.rate)
    (client : Core.Client) (networks : List Network) :
    ∃ q, (Relay.ofConfig c.normalized client networks).quota = some q ∧
      Limit.period? c.rate = some q.period ∧ (0 < q.period ∧ q.period ≤ Limit.maxPeriod) ∧
      q.burst = c.burst ∧ 0 < c.burst ∧
      (q.period * c.burst ≤ Limit.maxPeriod → ∀ buckets requests,
        ∃ answers after, Limit.run? (some q) buckets requests = some (answers, after) ∧
          answers.length = requests.length) ∧
      (Limit.maxPeriod < q.period * c.burst → ∀ request requests,
        Limit.run? (some q) [] (request :: requests) = none) ∧
      (∀ burst, 0 < burst → { c with burst }.normalized.validate = .ok u) ∧
      ((∀ burst ≤ 0xFFFFFFFF, q.period * burst ≤ Limit.maxPeriod)
        ↔ q.period ≤ Limit.safePeriod) := by
  obtain ⟨q, hquota, hperiod, hburst, hpos⟩ := quota_of_validate hvalid hrate
  have hfits : q.Fits ↔ q.period * c.burst ≤ Limit.maxPeriod := by
    rw [Limit.Quota.Fits, Limit.Quota.tolerance, hburst]
  refine ⟨q, hquota, hperiod, Limit.period?_bounds hperiod, hburst, hpos, ?_, ?_, ?_, ?_⟩
  · intro hproduct buckets requests
    exact Limit.run?_of_fits (hfits.mpr hproduct) buckets requests
  · intro hproduct request requests
    exact Limit.run?_of_not_fits (fun h => absurd (hfits.mp h) (Nat.not_le.mpr hproduct)) request
      requests
  · intro burst hburst
    exact validate_with_burst hvalid hrate hburst
  · exact Limit.fits_all_iff

/-- The default settings with one request in about thirty years. -/
def rare : Config :=
  { default with rate := 1e-9 }

theorem enforceable_iff_rare :
    rare.normalized.validate = .ok Core.Client.localBase ∧ 0 < rare.rate ∧
      ∃ q, (Relay.ofConfig rare.normalized ⟨Core.Client.localBase, none⟩ []).quota = some q ∧
        q.period = 999999999999999881 ∧ ∀ request requests,
          Limit.run? (some q) [] (request :: requests) = none := by
  have hperiod : Limit.period? rare.rate = some 999999999999999881 := by decide +kernel
  have hrate : 0 < rare.rate := by decide +kernel
  have hvalid : rare.normalized.validate = .ok Core.Client.localBase := by
    obtain ⟨haddress, hidentity, hproxies, -⟩ := validate_eq_ok_iff.mp Core.Client.validate_default
    have hsame : rare.normalized.coreAddress = default.coreAddress := coreAddress_congr rfl
    have hkept : (Limit.period? rare.normalized.rate).isSome = true :=
      Option.isSome_iff_exists.mpr ⟨_, hperiod⟩
    have hrate' : 0 < rare.normalized.rate := hrate
    refine validate_eq_ok_iff.mpr ⟨hsame.trans haddress, hidentity, hproxies, ?_⟩
    exact (checkRate_eq_ok_iff hrate').mpr ⟨by decide +kernel, hkept, by decide⟩
  obtain ⟨q, hquota, hsome, -, -, -, -, hbreaks, -, -⟩ :=
    enforceable_iff hvalid hrate ⟨Core.Client.localBase, none⟩ []
  have hq : q.period = 999999999999999881 := by
    rw [hperiod] at hsome
    exact (Option.some.inj hsome).symm
  refine ⟨hvalid, hrate, q, hquota, hq, hbreaks ?_⟩
  rw [hq]
  decide

end Config

end Gatehouse
