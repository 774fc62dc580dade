import Gatehouse.Proofs.Core.Client
import Gatehouse.Proofs.Core.Exchange
import Gatehouse.Relay.Answer

/-!
# What a request must pass before the core is called

A request reaches the core by one of two ways: a deep look at health, or forwarding behind the rate
limit and the gate. Each stage of the answer either ends it without a call or hands the request on,
so the conditions are collected stage by stage, from the call outwards.
-/

namespace Gatehouse.Relay

/-! ### The two ways to the core -/

/-- A deep look at health, and the call that it makes. -/
structure Probing (r : Relay) (request : Http.Request) (call : Core.Request) : Prop where
  path : request.path = "/health"
  method : request.method = .get ∨ request.method = .head
  deep : ((request.query.map Form.pairs).getD []).filter (fun (key, _) => key = "deep")
    = [("deep", "1")]
  callMethod : call.method = .get
  url : r.client.url? "/health" none = some call.url
  body : call.body = none

/-- The record of a body that is short enough: of a blank one, or of a JSON object. -/
structure Decodes (limit : Nat) (body : Bytes) (members : Json.Members) : Prop where
  short : body.length ≤ limit
  record : Json.isBlankBody body = true ∧ members = [] ∨
    Json.ofBytes? body = some (.object members)

/-- The body with which a request of a kind is passed on. -/
inductive PassesOn (r : Relay) (request : Http.Request) : ForwardKind → Option String → Prop where
  | get (kind : ForwardKind) (method : request.method = .get) : PassesOn r request kind none
  | post (members : Json.Members) (method : request.method = .post)
    (record : Decodes r.config.maxBody request.body members) :
    PassesOn r request .json (some (Json.object members).write)

/-- A request that a caller may have forwarded, and the call that it makes. -/
structure Forwarded (r : Relay) (caller : Caller) (request : Http.Request)
    (call : Core.Request) : Prop where
  route : ∃ kind, Route.classify request.path = some kind ∧ PassesOn r request kind call.body
  access : caller.mayAccess r.config.unscopedPolicy request.method request.path = true
  method : call.method = request.method
  url : r.client.url? request.path request.query = some call.url

def isWithinLimit (r : Relay) (st : State) (m : Moment) (request : Http.Request) : Prop :=
  (Limit.check r.quota st.buckets (r.proxies.client request.headers request.peer) m.clock).1
    = .allowed

def callerOf (r : Relay) (st : State) (m : Moment) (request : Http.Request) :
    Except AuthFailure Caller :=
  (r.gate.authenticate st.store
    (Credentials.ofRequest request.headers request.path request.query) m.now).1

/-- A request that passed every gate before a call. -/
structure Gated (r : Relay) (st : State) (m : Moment) (request : Http.Request)
    (call : Core.Request) : Prop where
  origin : r.originDecision request ≠ .denied
  preflight : ∀ site, r.originDecision request = .allowed site → request.method ≠ .options
  passage : Probing r request call ∨
    r.isWithinLimit st m request ∧
      ∃ caller, r.callerOf st m request = .ok caller ∧ Forwarded r caller request call

variable {r : Relay} {st : State} {m : Moment} {requestId : String} {caller : Caller}
  {request : Http.Request} {call : Core.Request}

/-! ### Endpoints -/

theorem Endpoint.path_of_health {path : String} (h : ofPath path = .health) : path = "/health" := by
  rw [ofPath.eq_def] at h
  split at h
  all_goals first | rfl | cases h

theorem Endpoint.method_of_health {method : Method} (h : (disallowed? .health method).isNone) :
    method = .get ∨ method = .head := by
  simp only [disallowed?, methods?, List.mem_cons, List.not_mem_nil, or_false] at h
  split at h
  · next hmethod => exact hmethod
  · cases h

/-! ### From the call outwards -/

theorem probing_of_health (h : (health r st requestId request.query).call? = some call)
    (hpath : request.path = "/health") (hmethod : request.method = .get ∨ request.method = .head) :
    Probing r request call := by
  rw [health] at h
  split at h
  · cases h
  · next key hdeep =>
    obtain ⟨hurl, hcall, hbody⟩ := Core.Client.of_fetch (Exchange.of_call?_ask h)
    have hkey : key = "deep" := by
      have hmem : (key, "1") ∈ [(key, "1")] := List.mem_singleton_self _
      rw [← hdeep] at hmem
      simpa using (List.mem_filter.mp hmem).2
    exact ⟨hpath, hmethod, hkey ▸ hdeep, hcall, hurl, hbody⟩
  · cases h

theorem decodes_of_readRecord {limit : Nat} {body : Bytes} {members : Json.Members}
    (h : readRecord limit body = .ok members) : Decodes limit body members := by
  rw [readRecord] at h
  split at h
  · cases h
  · next hshort =>
    refine ⟨Nat.le_of_not_lt hshort, ?_⟩
    split at h
    · next hblank =>
      cases h
      exact .inl ⟨hblank, rfl⟩
    · split at h
      · next hrecord =>
        cases h
        exact .inr hrecord
      · cases h

theorem forwarded_of_forwardRaw (h : (forwardRaw r st requestId request).call? = some call)
    (hroute : Route.classify request.path = some .raw)
    (haccess : caller.mayAccess r.config.unscopedPolicy request.method request.path = true) :
    Forwarded r caller request call := by
  rw [forwardRaw] at h
  split at h
  · cases h
  · next hmethod =>
    rw [Decidable.not_not] at hmethod
    obtain ⟨hurl, hcall, hbody⟩ := Core.Client.of_fetch (Exchange.of_call?_ask h)
    exact ⟨⟨_, hroute, hbody ▸ .get _ hmethod⟩, haccess, hcall.trans hmethod.symm, hurl⟩

theorem passesOn_of_forwardBody {body : Option Json.Members} (h : forwardBody r request = .ok body) :
    PassesOn r request .json
      (if request.method = .post then some (Json.object (body.getD [])).write else none) := by
  rw [forwardBody] at h
  split at h
  · next hget =>
    rw [hget, if_neg (by decide)]
    exact .get _ hget
  · split at h
    · next hpost =>
      rw [if_pos hpost]
      cases hread : readRecord r.config.maxBody request.body with
      | error e =>
        rw [hread] at h
        cases h
      | ok members =>
        rw [hread] at h
        cases h
        exact .post members hpost (decodes_of_readRecord hread)
    · cases h

theorem forwarded_of_forwardJson (h : (forwardJson r st requestId request).call? = some call)
    (hroute : Route.classify request.path = some .json)
    (haccess : caller.mayAccess r.config.unscopedPolicy request.method request.path = true) :
    Forwarded r caller request call := by
  rw [forwardJson] at h
  split at h
  · cases h
  · next body hbody =>
    obtain ⟨hurl, hcall, hwritten⟩ := Core.Client.of_command (Exchange.of_call?_ask h)
    exact ⟨⟨_, hroute, hwritten ▸ passesOn_of_forwardBody hbody⟩, haccess, hcall, hurl⟩

theorem forwarded_of_forward (h : (forward r st requestId caller request).call? = some call) :
    Forwarded r caller request call := by
  rw [forward] at h
  split at h
  · cases h
  · next kind hroute =>
    split at h
    · cases h
    · next haccess =>
      rw [Bool.not_eq_true, Bool.not_eq_false'] at haccess
      cases kind with
      | raw => exact forwarded_of_forwardRaw h hroute haccess
      | json => exact forwarded_of_forwardJson h hroute haccess

theorem call?_deskRevoke (d : Desk) (store : Store) (payload : Json.Members) (now : Int) :
    (d.revoke store payload now).call? = none := by
  rw [Desk.revoke]
  split
  · rfl
  · next revocation _ =>
    rw [Exchange.call?_map, Store.revoke]
    split
    · rfl
    · split
      all_goals rfl

theorem call?_revoke (r : Relay) (st : State) (m : Moment) (requestId : String) (caller : Caller)
    (body : Bytes) : (revoke r st m requestId caller body).call? = none := by
  rw [revoke]
  split
  · rfl
  · rw [Exchange.call?_map, call?_deskRevoke]

theorem forwarded_of_admitted (h : (admitted r st m requestId caller request).call? = some call) :
    Forwarded r caller request call := by
  simp only [admitted] at h
  split at h
  · cases h
  · split at h
    · cases h
    · rw [call?_revoke] at h
      cases h
    · cases h
    · exact forwarded_of_forward h

theorem forwarded_of_guarded (h : (guarded r st m requestId request).call? = some call) :
    r.isWithinLimit st m request ∧
      ∃ caller, r.callerOf st m request = .ok caller ∧ Forwarded r caller request call := by
  rw [isWithinLimit, callerOf]
  simp only [guarded] at h
  split at h
  · cases h
  · next hlimit =>
    refine ⟨hlimit, ?_⟩
    split at h
    · cases h
    · next caller hcaller => exact ⟨caller, hcaller, forwarded_of_admitted h⟩

theorem passage_of_routed (st : State) (h : (routed r st m requestId request).call? = some call) :
    Probing r request call ∨
      r.isWithinLimit st m request ∧
        ∃ caller, r.callerOf st m request = .ok caller ∧ Forwarded r caller request call := by
  simp only [routed] at h
  split at h
  · next hhealth =>
    rw [hhealth] at h
    split at h
    · next hallowed =>
      exact .inl (probing_of_health h (Endpoint.path_of_health hhealth)
        (Endpoint.method_of_health hallowed))
    · cases h
  · cases h
  · exact .inr (forwarded_of_guarded h)

theorem gated_of_answer (h : (r.answer st m request).call? = some call) :
    Gated r st m request call := by
  simp only [answer, Exchange.call?_map] at h
  split at h
  · cases h
  · next site hallowed =>
    split at h
    · cases h
    · next hoptions =>
      refine ⟨by simp [hallowed], fun _ _ => hoptions, ?_⟩
      exact passage_of_routed (st.bump .requests) h
  · next hnone =>
    refine ⟨by simp [hnone], fun site hallowed => ?_, ?_⟩
    · rw [hnone] at hallowed
      cases hallowed
    · exact passage_of_routed (st.bump .requests) h

/-! ### At most one call -/

/-- Revoking writes a file, and that is all it does outside. -/
theorem isBrief_deskRevoke (d : Desk) (store : Store) (payload : Json.Members) (now : Int) :
    (d.revoke store payload now).IsBrief := by
  rw [Desk.revoke]
  split
  · exact .done _
  · refine Exchange.IsBrief.map ?_ _
    rw [Store.revoke]
    split
    · exact .done _
    · dsimp only
      split
      · exact .done _
      · refine .save _ _ fun fault => ?_
        cases fault with
        | none => exact ⟨_, rfl⟩
        | some detail => exact ⟨_, rfl⟩

theorem isBrief_health (r : Relay) (st : State) (requestId : String) (query : Option String) :
    (health r st requestId query).IsBrief := by
  rw [health]
  dsimp only
  split
  · exact .done _
  · exact .ask _ _
  · exact .done _

theorem isBrief_revoke (r : Relay) (st : State) (m : Moment) (requestId : String)
    (caller : Caller) (body : Bytes) : (revoke r st m requestId caller body).IsBrief := by
  rw [revoke]
  split
  · exact .done _
  · exact (isBrief_deskRevoke _ _ _ _).map _

theorem isBrief_forward (r : Relay) (st : State) (requestId : String) (caller : Caller)
    (request : Http.Request) : (forward r st requestId caller request).IsBrief := by
  rw [forward]
  split
  · exact .done _
  · next kind _ =>
    split
    · exact .done _
    · cases kind with
      | raw =>
        dsimp only
        rw [forwardRaw]
        split
        · exact .done _
        · exact .ask _ _
      | json =>
        dsimp only
        rw [forwardJson]
        split
        · exact .done _
        · exact .ask _ _

theorem isBrief_admitted (r : Relay) (st : State) (m : Moment) (requestId : String)
    (caller : Caller) (request : Http.Request) :
    (admitted r st m requestId caller request).IsBrief := by
  simp only [admitted]
  split
  · exact .done _
  · split
    · exact .done _
    · exact isBrief_revoke r st m requestId caller request.body
    · exact .done _
    · exact isBrief_forward r st requestId caller request

theorem isBrief_guarded (r : Relay) (st : State) (m : Moment) (requestId : String)
    (request : Http.Request) : (guarded r st m requestId request).IsBrief := by
  simp only [guarded]
  split
  · exact .done _
  · split
    · exact .done _
    · exact isBrief_admitted r _ m requestId _ request

theorem isBrief_routed (r : Relay) (st : State) (m : Moment) (requestId : String)
    (request : Http.Request) : (routed r st m requestId request).IsBrief := by
  simp only [routed]
  split
  · split
    · exact isBrief_health r st requestId request.query
    · exact .done _
  · exact .done _
  · exact isBrief_guarded r st m requestId request

/-- Every request is answered after at most one action outside. -/
theorem isBrief_answer (r : Relay) (st : State) (m : Moment) (request : Http.Request) :
    (r.answer st m request).IsBrief := by
  simp only [answer]
  refine Exchange.IsBrief.map ?_ _
  split
  · exact .done _
  · split
    · exact .done _
    · exact isBrief_routed r _ m _ request
  · exact isBrief_routed r _ m _ request

/-- The core gets at most one call for a request, and none that did not pass every gate. -/
theorem calls_gated (r : Relay) (st : State) (m : Moment) (request : Http.Request) :
    (∀ call, (r.answer st m request).call? = some call → Gated r st m request call) ∧
      (∀ core disk, ((r.answer st m request).calls core disk).length ≤ 1 ∧
        ∀ call ∈ (r.answer st m request).calls core disk, Gated r st m request call) ∧
      ∀ w : World, ∃ calls, (w.run (r.answer st m request)).2.asked = w.asked ++ calls ∧
        calls.length ≤ 1 ∧ ∀ call ∈ calls, Gated r st m request call := by
  have hbrief := r.isBrief_answer st m request
  refine ⟨fun call hcall => gated_of_answer hcall, fun core disk => ?_, fun w => ?_⟩
  · obtain ⟨hone, hcalls⟩ := hbrief.calls_le_one core disk
    exact ⟨hone, fun call hmem => gated_of_answer (hcalls call hmem)⟩
  · obtain ⟨calls, hasked, hone, hcalls⟩ := w.asked_run hbrief
    exact ⟨calls, hasked, hone, fun call hmem => gated_of_answer (hcalls call hmem)⟩

/-- A relay that nothing restricts, in front of a core on this machine. -/
def unrestricted : Relay where
  config := .default
  gate := .of none (.ofKey none 900) []
  desk := ⟨.ofKey none 900, []⟩
  client := ⟨Core.Client.localBase, none⟩
  origins := .ofEntries []
  proxies := ⟨[]⟩
  quota := none

def State.initial : State :=
  ⟨.inMemory, [], .ofMax 1, .zero⟩

def runRequest : Http.Request :=
  ⟨.post, "/run", none, [], Utf8.encode "\x7b\"task\":\"list\"\x7d", none, false⟩

def runCall : Core.Request where
  method := .post
  url := { Core.Client.localBase with path := .segments ["run"] }
  requestId := "r1"
  authorization := none
  contentType := some "application/json"
  idempotencyKey := none
  body := some "\x7b\"task\":\"list\"\x7d"

theorem calls_gated_run :
    (unrestricted.answer .initial ⟨0, 0, "r1", "s1"⟩ runRequest).call? = some runCall ∧
      Gated unrestricted .initial ⟨0, 0, "r1", "s1"⟩ runRequest runCall := by
  have hcall : (unrestricted.answer .initial ⟨0, 0, "r1", "s1"⟩ runRequest).call? = some runCall := by
    decide +kernel
  exact ⟨hcall, (calls_gated unrestricted .initial ⟨0, 0, "r1", "s1"⟩ runRequest).1 runCall hcall⟩

end Gatehouse.Relay
