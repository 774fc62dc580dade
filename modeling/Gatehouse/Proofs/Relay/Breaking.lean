import Gatehouse.Proofs.Limit.Enforcing
import Gatehouse.Proofs.Relay.Running

/-!
# Where the rate limit breaks off

A relay that goes on for as long as it can leaves what `run` says, so whatever is proved of `run` holds
of it. It goes on for ever if the buckets of its rate limit can be made. If they cannot, it breaks off
at the first request that comes as far as the limit, since none before that one leaves a bucket.
-/

namespace Gatehouse.Relay

variable {r : Relay} {st : State} {m : Moment} {request : Http.Request}

/-! ### One request -/

theorem eq_answer_of_answer? {e : Exchange (Answer × State)} (h : r.answer? st m request = some e) :
    e = r.answer st m request := by
  simp only [answer?] at h
  split at h
  · cases h
  · exact (Option.some.inj h).symm

theorem answer?_of_fits (hfits : ∀ q ∈ r.quota, q.Fits) (st : State) (m : Moment)
    (request : Http.Request) : r.answer? st m request = some (r.answer st m request) := by
  have hcheck := Limit.isSome_check? hfits st.buckets
    (r.proxies.client request.headers request.peer) m.clock
  simp [answer?, Option.isNone_eq_false_iff.mpr hcheck]

theorem answer?_of_not_reachesLimit (h : r.reachesLimit request = false) (st : State) (m : Moment) :
    r.answer? st m request = some (r.answer st m request) := by
  simp [answer?, h]

theorem answer?_eq_none {q : Limit.Quota} (hquota : r.quota = some q) (hfits : ¬q.Fits)
    (hnew : st.buckets = []) (h : r.reachesLimit request = true) :
    r.answer? st m request = none := by
  simp [answer?, h, hquota, hnew, Limit.check?_nil_of_not_fits hfits]

theorem buckets_health (r : Relay) (st : State) (requestId : String) (query : Option String)
    (o : Outside) : ((health r st requestId query).result o.core o.disk).2.buckets = st.buckets := by
  rw [health]
  split
  · rfl
  · rw [Exchange.result_ask_eq]
  · rfl

theorem buckets_routed (h : (Endpoint.ofPath request.path).isGuarded = false) (r : Relay)
    (st : State) (m : Moment) (requestId : String) (o : Outside) :
    ((r.routed st m requestId request).result o.core o.disk).2.buckets = st.buckets := by
  simp only [routed]
  split
  · split
    · exact buckets_health r st requestId _ o
    · rfl
  · rfl
  · next hhealth hmetrics =>
    -- every other endpoint is guarded
    cases hendpoint : Endpoint.ofPath request.path with
    | health => exact absurd hendpoint hhealth
    | metrics => exact absurd hendpoint hmetrics
    | issue | revoke | realtime | forward =>
      rw [hendpoint] at h
      cases h

/-- A request that does not come as far as the limit leaves the buckets as they are. -/
theorem buckets_answer (h : r.reachesLimit request = false) (st : State) (m : Moment) (o : Outside) :
    ((r.answer st m request).result o.core o.disk).2.buckets = st.buckets := by
  simp only [answer, Exchange.result_map]
  cases hdecision : r.originDecision request with
  | denied => rfl
  | allowed site =>
    by_cases hmethod : request.method = .options
    · simp only [if_pos hmethod]
      rfl
    · simp only [if_neg hmethod]
      exact buckets_routed (by simpa [reachesLimit, hdecision, hmethod] using h) r _ m _ o
  | notApplicable =>
    exact buckets_routed (by simpa [reachesLimit, hdecision] using h) r _ m _ o

/-! ### A relay at work -/

def Input.reachesLimit (r : Relay) : Input → Bool
  | .request _ request => r.reachesLimit request
  | _ => false

namespace Running

variable {w : Running} {o : Outside} {input : Input}

/-- What one input leaves, if the relay does not break off. -/
def step? (r : Relay) (w : Running) (o : Outside) : Input → Option Running
  | .request m request =>
    (r.answer? w.state m request).map fun e =>
      let (a, state) := e.result o.core o.disk
      ⟨state, w.links ++ a.link?.toList⟩
  | input => some (w.step r o input)

def run? (r : Relay) (w : Running) (history : History) : Option Running :=
  history.foldlM (fun w (o, input) => w.step? r o input) w

theorem eq_step_of_step? {after : Running} (h : w.step? r o input = some after) :
    after = w.step r o input := by
  cases input with
  | request m request =>
    obtain ⟨e, he, rfl⟩ := Option.map_eq_some_iff.mp h
    rw [eq_answer_of_answer? he]
    rfl
  | frame i commandId text => exact (Option.some.inj h).symm
  | poll i since => exact (Option.some.inj h).symm
  | close i => exact (Option.some.inj h).symm

/-- Where a relay has not broken off, it has come to what `run` says. -/
theorem eq_run_of_run? {history : History} {after : Running} (h : w.run? r history = some after) :
    after = w.run r history := by
  induction history generalizing w with
  | nil => exact (Option.some.inj h).symm
  | cons happened history ih =>
    obtain ⟨o, input⟩ := happened
    rw [run?, List.foldlM_cons] at h
    obtain ⟨next, hnext, hrest⟩ := Option.bind_eq_some_iff.mp h
    rw [eq_step_of_step? hnext] at hrest
    exact ih hrest

theorem step?_of_answer? (h : ∀ m request, input = .request m request →
      r.answer? w.state m request = some (r.answer w.state m request)) :
    w.step? r o input = some (w.step r o input) := by
  cases input with
  | request m request =>
    rw [step?, h m request rfl]
    rfl
  | frame i commandId text => rfl
  | poll i since => rfl
  | close i => rfl

theorem step?_eq_none {q : Limit.Quota} (hquota : r.quota = some q) (hfits : ¬q.Fits)
    (hnew : w.state.buckets = []) (h : input.reachesLimit r = true) : w.step? r o input = none := by
  cases input with
  | request m request => rw [step?, answer?_eq_none hquota hfits hnew h, Option.map_none]
  | frame i commandId text => cases h
  | poll i since => cases h
  | close i => cases h

theorem buckets_step (h : input.reachesLimit r = false) (w : Running) (o : Outside) :
    (w.step r o input).state.buckets = w.state.buckets := by
  cases input with
  | request m request => exact buckets_answer h w.state m o
  | frame i commandId text =>
    simp only [step]
    split <;> rfl
  | poll i since =>
    simp only [step]
    split <;> rfl
  | close i =>
    simp only [step]
    split <;> rfl

/-- A relay whose buckets can be made never breaks off. -/
theorem run?_of_fits (hfits : ∀ q ∈ r.quota, q.Fits) (w : Running) (history : History) :
    w.run? r history = some (w.run r history) := by
  induction history generalizing w with
  | nil => rfl
  | cons happened history ih =>
    obtain ⟨o, input⟩ := happened
    have hstep : w.step? r o input = some (w.step r o input) :=
      step?_of_answer? fun m request _ => answer?_of_fits hfits w.state m request
    rw [run?, List.foldlM_cons]
    simp only [hstep, Option.bind_eq_bind, Option.bind_some]
    exact ih (w.step r o input)

/-- A new relay whose buckets cannot be made breaks off just if something comes as far as the limit. -/
theorem run?_of_not_fits {q : Limit.Quota} (hquota : r.quota = some q) (hfits : ¬q.Fits)
    (hnew : w.state.buckets = []) (history : History) :
    w.run? r history
      = if history.any fun happened => happened.2.reachesLimit r then none
        else some (w.run r history) := by
  induction history generalizing w with
  | nil => rfl
  | cons happened history ih =>
    obtain ⟨o, input⟩ := happened
    rw [run?, List.foldlM_cons, List.any_cons]
    cases hlimit : input.reachesLimit r with
    | true =>
      have hnone : w.step? r o input = none := step?_eq_none hquota hfits hnew hlimit
      simp [hnone]
    | false =>
      have hstep : w.step? r o input = some (w.step r o input) := by
        refine step?_of_answer? fun m request hinput => ?_
        subst hinput
        exact answer?_of_not_reachesLimit hlimit w.state m
      have hkept : (w.step r o input).state.buckets = [] := by
        rw [buckets_step hlimit, hnew]
      simp only [hstep, Option.bind_eq_bind, Option.bind_some, Bool.false_or]
      exact ih hkept

end Running

end Gatehouse.Relay
