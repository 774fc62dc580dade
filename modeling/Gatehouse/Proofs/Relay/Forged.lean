import Gatehouse.Proofs.Relay.Running

/-!
# Fields that a proxy would have written

Anyone can send the fields in which a proxy says for whom it asks. Of a peer outside every trusted
network they are not read: its bucket is that of its address and its scheme is the plain one, and no
other stage of an answer looks at these fields at all. So a request with forged fields is the same
request to the relay, and what follows it is the same history.
-/

namespace Gatehouse

namespace Headers

/-- The fields without those of some names. -/
def without (names : List String) (h : Headers) : Headers :=
  h.filter fun f => f.1 ∉ names

/-- Fields that agree but for those of some names. -/
def AgreeBut (names : List String) (g h : Headers) : Prop :=
  g.without names = h.without names

instance (names : List String) (g h : Headers) : Decidable (AgreeBut names g h) :=
  inferInstanceAs (Decidable (g.without names = h.without names))

variable {names : List String} {name : String} {g h : Headers}

theorem first?_without (hname : name ∉ names) (h : Headers) :
    first? name (h.without names) = first? name h := by
  induction h with
  | nil => rfl
  | cons f h ih =>
    obtain ⟨n, v⟩ := f
    rw [without] at ih ⊢
    by_cases hn : n ∈ names
    · have hother : n ≠ name := fun heq => hname (heq ▸ hn)
      rw [List.filter_cons_of_neg (by simpa using hn), ih, first?_cons, if_neg hother]
    · rw [List.filter_cons_of_pos (by simpa using hn), first?_cons, first?_cons, ih]

namespace AgreeBut

theorem first?_eq (hagree : AgreeBut names g h) (hname : name ∉ names) :
    g.first? name = h.first? name := by
  rw [← first?_without hname g, ← first?_without hname h, hagree]

theorem text?_eq (hagree : AgreeBut names g h) (hname : name ∉ names) :
    g.text? name = h.text? name := by
  rw [text?, text?, hagree.first?_eq hname]

theorem trimmed?_eq (hagree : AgreeBut names g h) (hname : name ∉ names) :
    g.trimmed? name = h.trimmed? name := by
  rw [trimmed?, trimmed?, hagree.text?_eq hname]

end AgreeBut

end Headers

/-! ### Peers -/

namespace Proxies

def fields : List String :=
  ["x-forwarded-for", "x-forwarded-proto"]

/-- A peer outside every trusted network, or none at all. -/
def Distrusts (p : Proxies) (peer : Option Address) : Prop :=
  ∀ a, peer = some a → ∀ n ∈ p.networks, n.contains a = false

variable {p : Proxies} {peer : Option Address}

theorem trusts_eq_false (h : p.Distrusts peer) : p.trusts peer = false := by
  cases peer with
  | none => rfl
  | some a =>
    rw [trusts, List.any_eq_false]
    intro n hn
    rw [h a rfl n hn]
    exact Bool.false_ne_true

theorem client_of_distrusts (hpeer : p.Distrusts peer) (h : Headers) :
    p.client h peer = (peer.map Address.text).getD "unknown" := by
  simp only [client, trusts_eq_false hpeer, if_neg Bool.false_ne_true]
  cases peer with
  | none => rfl
  | some a => rfl

theorem scheme_of_distrusts (hpeer : p.Distrusts peer) (h : Headers) : p.scheme h peer = "http" := by
  rw [scheme, trusts_eq_false hpeer, Bool.false_and, if_neg Bool.false_ne_true]

/-- A trusted proxy is believed: whom it names first is the client. -/
theorem client_of_trusts (hpeer : p.trusts peer = true) {h : Headers} {named : String}
    (hfield : firstItem? "x-forwarded-for" h = some named) (hnamed : named ≠ "") :
    p.client h peer = named := by
  have hkept : (some named).filter (· ≠ "") = some named := by
    rw [Option.filter_some, if_pos (decide_eq_true hnamed)]
  simp only [client, if_pos hpeer, hfield, hkept]

end Proxies

/-! ### Requests -/

namespace Http.Request

/-- Requests that differ in nothing but the fields of a proxy. -/
structure AlikeButProxied (a b : Request) : Prop where
  method : a.method = b.method
  path : a.path = b.path
  query : a.query = b.query
  headers : Headers.AgreeBut Proxies.fields a.headers b.headers
  body : a.body = b.body
  peer : a.peer = b.peer
  canUpgrade : a.canUpgrade = b.canUpgrade

theorem AlikeButProxied.eq_with {a b : Request} (h : AlikeButProxied a b) :
    a = { b with headers := a.headers } := by
  cases a
  cases b
  obtain ⟨rfl, rfl, rfl, -, rfl, rfl, rfl⟩ := h
  rfl

end Http.Request

theorem Credentials.ofRequest_of_agreeBut {headers h : Headers}
    (hagree : Headers.AgreeBut Proxies.fields headers h) (path : String) (query : Option String) :
    ofRequest headers path query = ofRequest h path query := by
  have htoken : headers.text? "authorization" = h.text? "authorization" :=
    hagree.text?_eq (by decide)
  have hdevice : headers.trimmed? "x-device-id" = h.trimmed? "x-device-id" :=
    hagree.trimmed?_eq (by decide)
  rw [ofRequest, ofRequest, htoken, hdevice]

namespace Relay

variable {r : Relay} {st : State} {m : Moment} {requestId : String} {caller : Caller}
  {request : Http.Request} {headers : Headers}

section Stages

variable (hagree : Headers.AgreeBut Proxies.fields headers request.headers)

include hagree

theorem upgradeFault?_of_agreeBut :
    { request with headers }.upgradeFault? = request.upgradeFault? := by
  have hfolded {name : String} (hname : name ∉ Proxies.fields) :
      { request with headers }.folded? name = request.folded? name := by
    rw [Http.Request.folded?, Http.Request.folded?, hagree.first?_eq hname]
  have hkey : headers.first? "sec-websocket-key" = request.headers.first? "sec-websocket-key" :=
    hagree.first?_eq (by decide)
  rw [Http.Request.upgradeFault?, Http.Request.upgradeFault?, hfolded (by decide),
    hfolded (by decide), hfolded (by decide), hkey]

theorem realtime_of_agreeBut (st : State) (requestId : String) (caller : Caller) :
    realtime r st requestId caller { request with headers }
      = realtime r st requestId caller request := by
  rw [realtime, realtime, upgradeFault?_of_agreeBut hagree]

theorem forward_of_agreeBut (st : State) (requestId : String) (caller : Caller) :
    forward r st requestId caller { request with headers }
      = forward r st requestId caller request := by
  have hkey : headers.trimmed? "idempotency-key" = request.headers.trimmed? "idempotency-key" :=
    hagree.trimmed?_eq (by decide)
  have hjson : forwardJson r st requestId { request with headers }
      = forwardJson r st requestId request := by
    simp only [forwardJson, hkey]
    rfl
  simp only [forward, hjson]
  rfl

theorem admitted_of_agreeBut (st : State) (m : Moment) (requestId : String) (caller : Caller) :
    r.admitted st m requestId caller { request with headers }
      = r.admitted st m requestId caller request := by
  simp only [admitted, realtime_of_agreeBut hagree, forward_of_agreeBut hagree]

theorem requestIdOf_of_agreeBut (m : Moment) :
    requestIdOf m { request with headers } = requestIdOf m request := by
  have hid : headers.trimmed? "x-request-id" = request.headers.trimmed? "x-request-id" :=
    hagree.trimmed?_eq (by decide)
  rw [requestIdOf, requestIdOf, hid]

variable (hpeer : r.proxies.Distrusts request.peer)

include hpeer

theorem originDecision_of_agreeBut :
    r.originDecision { request with headers } = r.originDecision request := by
  have horigin : headers.text? "origin" = request.headers.text? "origin" :=
    hagree.text?_eq (by decide)
  have hhost : headers.text? "host" = request.headers.text? "host" := hagree.text?_eq (by decide)
  rw [originDecision, originDecision, horigin, hhost, Proxies.scheme_of_distrusts hpeer,
    Proxies.scheme_of_distrusts hpeer]

theorem guarded_of_agreeBut (st : State) (m : Moment) (requestId : String) :
    r.guarded st m requestId { request with headers } = r.guarded st m requestId request := by
  simp only [guarded, Proxies.client_of_distrusts hpeer, Credentials.ofRequest_of_agreeBut hagree,
    admitted_of_agreeBut hagree]

/-- At every stage a request with forged fields is the request without them. -/
theorem answer_of_agreeBut (st : State) (m : Moment) :
    r.answer st m { request with headers } = r.answer st m request := by
  have hrouted (st : State) (requestId : String) :
      r.routed st m requestId { request with headers } = r.routed st m requestId request := by
    simp only [routed, guarded_of_agreeBut hagree hpeer]
  simp only [answer, originDecision_of_agreeBut hagree hpeer, requestIdOf_of_agreeBut hagree,
    hrouted]
  rfl

end Stages

/-- Whatever a peer outside every trusted network writes into the fields of a proxy, its request leads
to the same exchange: to the same call or file, and for every outcome of it to the same response, the
same connection and the same state. -/
theorem heeds_no_forgery (r : Relay) {a b : Http.Request} (hpeer : r.proxies.Distrusts a.peer)
    (halike : a.AlikeButProxied b) (st : State) (m : Moment) :
    r.answer st m a = r.answer st m b := by
  rw [halike.eq_with]
  exact answer_of_agreeBut halike.headers (halike.peer ▸ hpeer) st m

/-- A relay behind proxies of one network, which lets every client ask once in a second. -/
def proxied : Relay :=
  { unrestricted with
    proxies := ⟨[⟨.v4 0x0A000000, 8⟩]⟩
    quota := some ⟨Limit.second, 1⟩ }

def namingRequest (client scheme : String) (peer : Address) : Http.Request where
  method := .get
  path := "/jobs"
  query := none
  headers :=
    [("host", Utf8.encode "relay.test"), ("x-forwarded-for", Utf8.encode client),
      ("origin", Utf8.encode "https://relay.test"), ("x-forwarded-proto", Utf8.encode scheme)]
  body := []
  peer := some peer
  canUpgrade := false

/-- Two stories about where a request comes from make no difference from outside the network, and
would make one from inside. -/
theorem heeds_no_forgery_proxied :
    (∀ st m, proxied.answer st m (namingRequest "203.0.113.9" "https" (.v4 0xC6336407))
        = proxied.answer st m (namingRequest "203.0.113.10" "http" (.v4 0xC6336407))) ∧
      proxied.originDecision (namingRequest "203.0.113.9" "https" (.v4 0x0A010203))
        = .allowed "https://relay.test" ∧
      proxied.originDecision (namingRequest "203.0.113.10" "http" (.v4 0x0A010203)) = .denied := by
  refine ⟨fun st m => heeds_no_forgery proxied ?_ ?_ st m, ?_, ?_⟩
  · rintro a ⟨⟩ n hn
    rw [List.mem_singleton.mp hn]
    decide
  · exact ⟨rfl, rfl, rfl, by decide, rfl, rfl, rfl⟩
  · decide +kernel
  · decide +kernel

/-! ### Histories -/

/-- Inputs that are the same but for what a peer outside every trusted network makes up. -/
inductive Input.Forges (r : Relay) : Input → Input → Prop where
  | same (input : Input) : Forges r input input
  | request (m : Moment) {a b : Http.Request} (peer : r.proxies.Distrusts a.peer)
    (alike : a.AlikeButProxied b) : Forges r (.request m a) (.request m b)

/-- Histories that are the same but for what such peers make up. -/
def History.Forges (r : Relay) : History → History → Prop :=
  List.Forall₂ fun e f => e.1 = f.1 ∧ e.2.Forges r f.2

namespace Running

theorem step_of_forges {input forged : Input} (h : input.Forges r forged) (w : Running)
    (o : Outside) : w.step r o input = w.step r o forged := by
  cases h with
  | same => rfl
  | request m peer alike =>
    have hanswer := answer_of_agreeBut alike.headers (alike.peer ▸ peer) w.state m
    rw [alike.eq_with]
    simp only [step, answer, hanswer]

/-- Made-up fields leave no trace in a history, in no bucket and on no connection. -/
theorem run_of_forges {history forged : History} (h : history.Forges r forged) (w : Running) :
    w.run r history = w.run r forged := by
  induction h generalizing w with
  | nil => rfl
  | @cons e f _ _ hinput _ ih =>
    obtain ⟨houtside, hforges⟩ := hinput
    have hstep : w.step r e.1 e.2 = w.step r f.1 f.2 := by
      rw [houtside, step_of_forges hforges]
    exact (congrArg (fun w => run r w _) hstep).trans (ih _)

end Running

end Relay

end Gatehouse
