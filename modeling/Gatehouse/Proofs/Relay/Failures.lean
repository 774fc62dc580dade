import Gatehouse.Proofs.Relay.Course
import Gatehouse.Proofs.Relay.Running
import Mathlib.Data.Nat.ModEq

/-!
# Calls that failed, and the counter of them

The core is called at five places: for a document, for a payload, for a deep look at health, for a
frame and for a poll. A call fails if it brings no reply, a reply that cannot be read as the place
needs it, or one that says that the core failed. The counter of failed calls knows of all of these
but two: a failed look at health, and a reply to a frame that can be read and says that the core
failed.
-/

namespace Gatehouse

/-! ### Calls -/

namespace Core

def Body.isWhole : Body → Bool
  | .whole _ => true
  | .broken _ _ => false

/-- Whether a reply arrived whole and holds a value. -/
def Reply.isDecodable (reply : Reply) : Bool :=
  match reply.bytes with
  | .ok bytes => (payload? bytes).isSome
  | .error _ => false

theorem ofReply_of_isDecodable {reply : Reply} (h : reply.isDecodable = true) (id : String) :
    ∃ read, JsonReply.ofReply id reply = .ok read ∧ read.status = reply.status := by
  rw [Reply.isDecodable] at h
  split at h
  · next bytes hbytes =>
    obtain ⟨v, hv⟩ := Option.isSome_iff_exists.mp h
    simp only [JsonReply.ofReply, hbytes, hv]
    exact ⟨_, rfl, rfl⟩
  · cases h

theorem ofReply_of_not_isDecodable {reply : Reply} (h : reply.isDecodable = false) (id : String) :
    ∃ e, JsonReply.ofReply id reply = .error e := by
  rw [Reply.isDecodable] at h
  split at h
  · next bytes hbytes =>
    rw [Option.isSome_eq_false_iff, Option.isNone_iff_eq_none] at h
    simp only [JsonReply.ofReply, hbytes, h]
    exact ⟨_, rfl⟩
  · next e hbytes =>
    simp only [JsonReply.ofReply, hbytes]
    exact ⟨_, rfl⟩

theorem isOk_events [CharTables] (reply : Reply) :
    reply.events.isOk = (reply.status == 200 && reply.body.isWhole) := by
  rw [Reply.events, Reply.text, Reply.bytes]
  by_cases hstatus : reply.status = 200
  · rw [if_neg (not_not_intro hstatus), hstatus]
    cases reply.body <;> rfl
  · rw [if_pos hstatus, beq_eq_false_iff_ne.mpr hstatus]
    rfl

end Core

namespace Relay

/-- Where the core is called: for a document or a payload that a request asks for, for a deep look
at health, for a frame, or for the events of a poll. -/
inductive Site where
  | document
  | payload
  | probe
  | command
  | poll
deriving DecidableEq

/-- Whether a reply can be read as it has to be at a site. A document is passed on as it comes, and
of a look at health only the status matters. -/
def Site.canRead (site : Site) (reply : Core.Reply) : Bool :=
  match site with
  | document => true
  | probe => true
  | payload => reply.isDecodable
  | command => reply.isDecodable
  | poll => reply.status == 200 && reply.body.isWhole

/-- What is asked of the core at a site; nothing if there is no URL for it. -/
structure Ask where
  site : Site
  request : Option Core.Request

def Ask.sent? (a : Ask) : Option Core.Request :=
  a.request.filter Core.Request.isSendable

/-- A call at a site and what came of it. -/
structure Attempt where
  site : Site
  outcome : Except Core.Failure Core.Reply

namespace Attempt

/-- What comes of asking; it fails without a call if there is none to make. -/
def ofAsk (o : Outside) (a : Ask) : Attempt :=
  ⟨a.site, Exchange.outcome o.core a.request⟩

/-- Whether a call failed, wherever it was made. -/
def hasFailed (a : Attempt) : Bool :=
  match a.outcome with
  | .error _ => true
  | .ok reply => Core.isServerError reply.status || !a.site.canRead reply

/-- The failures that the counter does not know of: those of a look at health, and replies to a
frame that can be read and say that the core failed. -/
def isMissed (a : Attempt) : Bool :=
  match a.site, a.outcome with
  | .probe, _ => a.hasFailed
  | .command, .ok reply => Core.isServerError reply.status && reply.isDecodable
  | _, _ => false

def isCounted (a : Attempt) : Bool :=
  a.hasFailed && !a.isMissed

theorem hasFailed_of_isMissed {a : Attempt} (h : a.isMissed = true) : a.hasFailed = true := by
  obtain ⟨site, outcome⟩ := a
  unfold isMissed at h
  split at h
  · exact h
  · next reply hsite houtcome =>
    cases houtcome
    rw [Bool.and_eq_true] at h
    show (Core.isServerError reply.status || _) = true
    rw [h.1, Bool.true_or]
  · cases h

theorem ite_hasFailed (a : Attempt) :
    (if a.hasFailed then 1 else 0)
      = (if a.isCounted then 1 else 0) + if a.isMissed then 1 else 0 := by
  rw [isCounted]
  cases hmissed : a.isMissed with
  | true => simp [hasFailed_of_isMissed hmissed]
  | false => simp

theorem countP_hasFailed (attempts : List Attempt) :
    attempts.countP hasFailed = attempts.countP isCounted + attempts.countP isMissed := by
  induction attempts with
  | nil => rfl
  | cons a rest ih =>
    simp only [List.countP_cons, ih]
    have hhead := a.ite_hasFailed
    omega

/-! ### What is counted at each site -/

theorem isCounted_probe (outcome : Except Core.Failure Core.Reply) :
    isCounted ⟨.probe, outcome⟩ = false := by
  show (hasFailed _ && !hasFailed _) = false
  rw [Bool.and_not_self]

theorem isCounted_document (reply : Core.Reply) :
    isCounted ⟨.document, .ok reply⟩ = Core.isServerError reply.status := by
  simp [isCounted, hasFailed, isMissed, Site.canRead]

theorem isCounted_payload (reply : Core.Reply) :
    isCounted ⟨.payload, .ok reply⟩
      = (Core.isServerError reply.status || !reply.isDecodable) := by
  simp [isCounted, hasFailed, isMissed, Site.canRead]

theorem isCounted_command (reply : Core.Reply) :
    isCounted ⟨.command, .ok reply⟩ = !reply.isDecodable := by
  simp only [isCounted, hasFailed, isMissed, Site.canRead]
  cases Core.isServerError reply.status <;> cases reply.isDecodable <;> rfl

theorem isCounted_poll (reply : Core.Reply) :
    isCounted ⟨.poll, .ok reply⟩ = !(reply.status == 200 && reply.body.isWhole) := by
  simp only [isCounted, hasFailed, isMissed, Site.canRead]
  by_cases h : reply.status = 200
  · simp [h, Core.isServerError]
  · simp [h]

end Attempt

/-! ### What is asked

Each stage of an answer asks one thing of the core, or nothing. -/

def forwardAsk? (r : Relay) (requestId : String) (caller : Caller) (request : Http.Request) :
    Option Ask :=
  match Route.classify request.path with
  | none => none
  | some kind =>
    if caller.mayAccess r.config.unscopedPolicy request.method request.path then
      match kind with
      | .raw =>
        if request.method = .get then
          some ⟨.document, r.client.fetch request.path request.query requestId⟩
        else none
      | .json =>
        match forwardBody r request with
        | .error _ => none
        | .ok body =>
          some ⟨.payload, r.client.command ⟨request.method, request.path, request.query, body,
            request.headers.trimmed? "idempotency-key"⟩ requestId⟩
    else none

def guardedAsk? (r : Relay) (st : State) (m : Moment) (requestId : String)
    (request : Http.Request) : Option Ask :=
  match (Limit.check r.quota st.buckets (r.proxies.client request.headers request.peer) m.clock).1,
      r.callerOf st m request with
  | .allowed, .ok caller =>
    if Endpoint.ofPath request.path = .forward then forwardAsk? r requestId caller request else none
  | _, _ => none

def healthAsk? (r : Relay) (requestId : String) (request : Http.Request) : Option Ask :=
  if (Course.deepFields request).map Prod.snd = ["1"] then
    some ⟨.probe, r.client.probe requestId⟩
  else none

def routedAsk? (r : Relay) (st : State) (m : Moment) (requestId : String)
    (request : Http.Request) : Option Ask :=
  match Endpoint.ofPath request.path with
  | .health =>
    if request.method = .get ∨ request.method = .head then healthAsk? r requestId request else none
  | .metrics => none
  | _ => guardedAsk? r st m requestId request

def ask? (r : Relay) (st : State) (m : Moment) (request : Http.Request) : Option Ask :=
  match r.originDecision request with
  | .denied => none
  | .allowed _ =>
    if request.method = .options then none else routedAsk? r st m (requestIdOf m request) request
  | .notApplicable => routedAsk? r st m (requestIdOf m request) request

/-- An exchange that makes the call that is asked for, if it may be sent, and counts it as it has to
be counted; the other counters do not matter. -/
structure Tallies (st : State) (asked : Option Ask) (e : Exchange (Answer × State)) : Prop where
  called : e.call? = asked.bind Ask.sent?
  counted : ∀ o : Outside, (e.result o.core o.disk).2.counters.value .coreErrors
    = (st.bumpIf .coreErrors ((asked.map (Attempt.ofAsk o)).any Attempt.isCounted)).counters.value
        .coreErrors

variable {r : Relay} {st : State} {m : Moment} {requestId : String} {caller : Caller}
  {request : Http.Request}

theorem tallies_done {done : Answer × State}
    (h : done.2.counters.value .coreErrors = st.counters.value .coreErrors) :
    Tallies st none (.done done) :=
  ⟨rfl, fun _ => h⟩

theorem value_bump_of_ne {counter : Counter} (h : counter ≠ .coreErrors) (st : State) :
    (st.bump counter).counters.value .coreErrors = st.counters.value .coreErrors :=
  if_neg (Ne.symm h)

theorem tallies_ask {site : Site} {asked : Option Core.Request}
    {resume : Except Core.Failure Core.Reply → Answer × State}
    (h : ∀ outcome, (resume outcome).2.counters.value .coreErrors
      = (st.bumpIf .coreErrors (Attempt.isCounted ⟨site, outcome⟩)).counters.value .coreErrors) :
    Tallies st (some ⟨site, asked⟩) (.ask asked resume) := by
  refine ⟨Exchange.call?_ask _ _, fun o => ?_⟩
  rw [Exchange.result_ask_eq, h]
  rfl

theorem tallies_forwardRaw (hmethod : request.method = .get) :
    Tallies st (some ⟨.document, r.client.fetch request.path request.query requestId⟩)
      (forwardRaw r st requestId request) := by
  rw [forwardRaw, if_neg (not_not_intro hmethod)]
  refine tallies_ask fun outcome => ?_
  cases outcome with
  | error e => rfl
  | ok reply => rw [Attempt.isCounted_document]

theorem tallies_forwardJson {body : Option Json.Members}
    (hbody : forwardBody r request = .ok body) :
    Tallies st (some ⟨.payload, r.client.command ⟨request.method, request.path, request.query, body,
        request.headers.trimmed? "idempotency-key"⟩ requestId⟩)
      (forwardJson r st requestId request) := by
  rw [forwardJson, hbody]
  refine tallies_ask fun outcome => ?_
  cases outcome with
  | error e => rfl
  | ok reply =>
    rw [Attempt.isCounted_payload]
    simp only [Except.bind]
    -- what cannot be read counts as no reply at all, and once whatever its status
    cases hdecodable : reply.isDecodable with
    | true =>
      obtain ⟨read, hread, hstatus⟩ := Core.ofReply_of_isDecodable hdecodable requestId
      rw [hread]
      dsimp only
      rw [hstatus, Bool.not_true, Bool.or_false]
    | false =>
      obtain ⟨e, hread⟩ := Core.ofReply_of_not_isDecodable hdecodable requestId
      rw [hread, Bool.not_false, Bool.or_true]
      rfl

theorem tallies_forward (r : Relay) (st : State) (requestId : String) (caller : Caller)
    (request : Http.Request) :
    Tallies st (forwardAsk? r requestId caller request)
      (forward r st requestId caller request) := by
  rw [forward, forwardAsk?]
  cases Route.classify request.path with
  | none => exact tallies_done rfl
  | some kind =>
    dsimp only
    cases caller.mayAccess r.config.unscopedPolicy request.method request.path with
    | false => exact tallies_done rfl
    | true =>
      cases kind with
      | raw =>
        show Tallies st (if request.method = .get then _ else none)
          (forwardRaw r st requestId request)
        split
        · next hmethod => exact tallies_forwardRaw hmethod
        · next hmethod =>
          rw [forwardRaw, if_pos hmethod]
          exact tallies_done rfl
      | json =>
        show Tallies st (match forwardBody r request with | .error _ => none | .ok body => _)
          (forwardJson r st requestId request)
        cases hbody : forwardBody r request with
        | error e =>
          rw [forwardJson, hbody]
          exact tallies_done rfl
        | ok body => exact tallies_forwardJson hbody

theorem value_revokeAnswer (st : State) (requestId : String)
    (revoked : Except DeskError RevokedSession × Store) :
    (revokeAnswer st requestId revoked).2.counters.value .coreErrors
      = st.counters.value .coreErrors := by
  rw [revokeAnswer]
  split
  · rfl
  · exact value_bump_of_ne (by decide) _

theorem tallies_revoke (r : Relay) (st : State) (m : Moment) (requestId : String) (caller : Caller)
    (body : Bytes) : Tallies st none (revoke r st m requestId caller body) := by
  rw [revoke]
  split
  · exact tallies_done rfl
  · next payload _ =>
    refine ⟨?_, fun o => ?_⟩
    · rw [Exchange.call?_map, call?_deskRevoke]
      rfl
    · rw [Exchange.result_map]
      exact value_revokeAnswer st requestId _

theorem value_issue (r : Relay) (st : State) (m : Moment) (requestId : String) (caller : Caller)
    (body : Bytes) :
    (issue r st m requestId caller body).2.counters.value .coreErrors
      = st.counters.value .coreErrors := by
  rw [issue]
  split
  · rfl
  · split
    · rfl
    · exact value_bump_of_ne (by decide) st

theorem value_realtime (r : Relay) (st : State) (requestId : String) (caller : Caller)
    (request : Http.Request) :
    (realtime r st requestId caller request).2.counters.value .coreErrors
      = st.counters.value .coreErrors := by
  rw [realtime]
  split
  · rfl
  · split
    · exact value_bump_of_ne (by decide) st
    · split <;> rfl

theorem tallies_admitted (hhealth : Endpoint.ofPath request.path ≠ .health)
    (hmetrics : Endpoint.ofPath request.path ≠ .metrics) (st : State) (m : Moment)
    (requestId : String) (caller : Caller) :
    Tallies st
      (if Endpoint.ofPath request.path = .forward then forwardAsk? r requestId caller request
        else none)
      (admitted r st m requestId caller request) := by
  simp only [admitted]
  split
  · next hforward =>
    rw [hforward]
    exact tallies_forward r st requestId caller request
  · next hforward =>
    split
    · exact tallies_done rfl
    · cases hendpoint : Endpoint.ofPath request.path with
      | health => exact absurd hendpoint hhealth
      | metrics => exact absurd hendpoint hmetrics
      | forward => exact absurd hendpoint hforward
      | issue => exact tallies_done (value_issue r st m requestId caller request.body)
      | revoke => exact tallies_revoke r st m requestId caller request.body
      | realtime => exact tallies_done (value_realtime r st requestId caller request)

/-! ### From the gate outwards -/

theorem value_bumpIf (st : State) (condition : Bool) :
    (st.bumpIf .coreErrors condition).counters.value .coreErrors
      = if condition then (st.counters.value .coreErrors + 1) % 0x10000000000000000
        else st.counters.value .coreErrors := by
  cases condition <;> rfl

/-- What the other counters say, and the rest of the state, does not matter. -/
theorem Tallies.of_value {before : State} {asked : Option Ask} {e : Exchange (Answer × State)}
    (h : Tallies st asked e)
    (hvalue : st.counters.value .coreErrors = before.counters.value .coreErrors) :
    Tallies before asked e := by
  refine ⟨h.called, fun o => ?_⟩
  rw [h.counted, value_bumpIf, value_bumpIf, hvalue]

theorem tallies_guarded (hhealth : Endpoint.ofPath request.path ≠ .health)
    (hmetrics : Endpoint.ofPath request.path ≠ .metrics) (st : State) (m : Moment)
    (requestId : String) :
    Tallies st (guardedAsk? r st m requestId request) (guarded r st m requestId request) := by
  simp only [guarded, guardedAsk?, callerOf]
  cases (Limit.check r.quota st.buckets (r.proxies.client request.headers request.peer)
      m.clock).1 with
  | limited retryAfter => exact tallies_done (value_bump_of_ne (by decide) _)
  | allowed =>
    dsimp only
    cases (r.gate.authenticate st.store
        (Credentials.ofRequest request.headers request.path request.query) m.now).1 with
    | error e => exact tallies_done (value_bump_of_ne (by decide) _)
    | ok caller =>
      exact (tallies_admitted hhealth hmetrics _ m requestId caller).of_value rfl

theorem tallies_health (r : Relay) (st : State) (requestId : String) (request : Http.Request) :
    Tallies st (healthAsk? r requestId request) (health r st requestId request.query) := by
  rw [health, healthAsk?, Course.deepFields]
  split
  · next hvalues =>
    obtain ⟨⟨key, value⟩, hfields, hvalue⟩ := List.map_eq_singleton_iff.mp hvalues
    rw [hfields, show value = "1" from hvalue]
    refine tallies_ask fun outcome => ?_
    rw [Attempt.isCounted_probe]
    rfl
  · next hvalues =>
    split
    · exact tallies_done rfl
    · next key hfields => exact absurd (by rw [hfields]; rfl) hvalues
    · exact tallies_done rfl

theorem Endpoint.isNone_of_method {method : Method} (h : method = .get ∨ method = .head) :
    (disallowed? .health method).isNone = true := by
  rcases h with rfl | rfl <;> rfl

theorem tallies_routed (r : Relay) (st : State) (m : Moment) (requestId : String)
    (request : Http.Request) :
    Tallies st (routedAsk? r st m requestId request) (routed r st m requestId request) := by
  simp only [routed, routedAsk?]
  cases hendpoint : Endpoint.ofPath request.path with
  | health =>
    dsimp only
    split
    · next hmethod =>
      rw [if_pos (Endpoint.isNone_of_method hmethod)]
      exact tallies_health r st requestId request
    · next hmethod =>
      rw [if_neg fun hallowed => hmethod (Endpoint.method_of_health hallowed)]
      exact tallies_done rfl
  | metrics => exact tallies_done rfl
  | _ => exact tallies_guarded (by simp [hendpoint]) (by simp [hendpoint]) st m requestId

theorem Tallies.map {asked : Option Ask} {e : Exchange (Answer × State)} (h : Tallies st asked e)
    {f : Answer × State → Answer × State} (hf : ∀ a, (f a).2 = a.2) :
    Tallies st asked (e.map f) := by
  refine ⟨by rw [Exchange.call?_map, h.called], fun o => ?_⟩
  rw [Exchange.result_map, hf]
  exact h.counted o

theorem tallies_answer (r : Relay) (st : State) (m : Moment) (request : Http.Request) :
    Tallies st (ask? r st m request) (r.answer st m request) := by
  have hvalue : (st.bump .requests).counters.value .coreErrors = st.counters.value .coreErrors :=
    value_bump_of_ne (by decide) st
  have hdone (a : Answer) : Tallies st none (.done (a, st.bump .requests)) := tallies_done hvalue
  have hrouted : Tallies st (routedAsk? r st m (requestIdOf m request) request)
      (routed r (st.bump .requests) m (requestIdOf m request) request) :=
    (tallies_routed r (st.bump .requests) m (requestIdOf m request) request).of_value hvalue
  simp only [answer, ask?]
  refine Tallies.map ?_ fun _ => rfl
  cases r.originDecision request with
  | denied => exact hdone _
  | allowed site =>
    dsimp only
    split
    · exact hdone _
    · exact hrouted
  | notApplicable => exact hrouted

/-! ### Frames and polls -/

/-- An exchange that makes the call that is asked for, if it may be sent, and whose result tells
whether the call counts. -/
structure Flags {α : Type} (asked : Option Ask) (e : Exchange α) (isFailed : α → Bool) : Prop where
  called : e.call? = asked.bind Ask.sent?
  flagged : ∀ o : Outside, isFailed (e.result o.core o.disk)
    = (asked.map (Attempt.ofAsk o)).any Attempt.isCounted

theorem flags_ask {α : Type} {site : Site} {asked : Option Core.Request}
    {resume : Except Core.Failure Core.Reply → α} {isFailed : α → Bool}
    (h : ∀ outcome, isFailed (resume outcome) = Attempt.isCounted ⟨site, outcome⟩) :
    Flags (some ⟨site, asked⟩) (.ask asked resume) isFailed := by
  refine ⟨Exchange.call?_ask _ _, fun o => ?_⟩
  rw [Exchange.result_ask_eq, h]
  rfl

namespace Link

def relayAsk? (l : Link) (plan : Live.Plan) (commandId : String) : Option Ask :=
  if Live.Session.isForwardable plan.call.path &&
      l.session.caller.mayAccess l.session.policy plan.call.method plan.call.path then
    some ⟨.command, l.session.client.command plan.call commandId⟩
  else none

def ask? (l : Link) (commandId text : String) : Option Ask :=
  match (Message.ofText? text).map Message.wish with
  | some (.call plan) => l.relayAsk? plan commandId
  | _ => none

def pollAsk (l : Link) (since : Int) : Ask :=
  ⟨.poll, l.session.client.poll since l.session.poll l.session.requestId⟩

theorem isFailed_afterCall (plan : Live.Plan) (commandId : String) (cursor : Int)
    (reply : Json.Members → Json) (outcome : Except Core.Failure Core.Reply) :
    (Live.Session.afterCall plan commandId cursor reply outcome).isFailed
      = Attempt.isCounted ⟨.command, outcome⟩ := by
  rw [Live.Session.afterCall]
  cases outcome with
  | error e => rfl
  | ok received =>
    rw [Attempt.isCounted_command]
    simp only [Except.bind]
    cases hdecodable : received.isDecodable with
    | true =>
      obtain ⟨read, hread, -⟩ := Core.ofReply_of_isDecodable hdecodable commandId
      rw [hread]
      rfl
    | false =>
      obtain ⟨e, hread⟩ := Core.ofReply_of_not_isDecodable hdecodable commandId
      rw [hread]
      rfl

theorem flags_relay (l : Link) (plan : Live.Plan) (commandId : String) (cursor : Int)
    (reply : Json.Members → Json) :
    Flags (l.relayAsk? plan commandId) (l.session.relay plan commandId cursor reply)
      Live.Handled.isFailed := by
  simp only [relayAsk?, Live.Session.relay]
  cases Live.Session.isForwardable plan.call.path with
  | false => exact ⟨rfl, fun _ => rfl⟩
  | true =>
    cases l.session.caller.mayAccess l.session.policy plan.call.method plan.call.path with
    | false => exact ⟨rfl, fun _ => rfl⟩
    | true => exact flags_ask (isFailed_afterCall plan commandId cursor reply)

theorem flags_handle (l : Link) (commandId text : String) :
    Flags (l.ask? commandId text) (l.handle commandId text) Live.Handled.isFailed := by
  simp only [handle, Live.Session.handle, ask?]
  cases Message.ofText? text with
  | none => exact ⟨rfl, fun _ => rfl⟩
  | some m =>
    dsimp only [Option.map_some]
    cases m.wish with
    | answer members => exact ⟨rfl, fun _ => rfl⟩
    | seek cursor members => exact ⟨rfl, fun _ => rfl⟩
    | call plan => exact l.flags_relay plan commandId l.cursor _

theorem isFailed_feed (s : Live.Session) (outcome : Except Core.Failure Core.Reply) :
    (s.feed outcome).isFailed = Attempt.isCounted ⟨.poll, outcome⟩ := by
  rw [Live.Session.feed]
  cases outcome with
  | error e => rfl
  | ok reply =>
    rw [Attempt.isCounted_poll, ← Core.isOk_events]
    simp only [Except.bind]
    cases reply.events <;> rfl

theorem flags_poll (l : Link) (since : Int) :
    Flags (some (l.pollAsk since)) (l.session.pollRequest since)
      fun outcome => (l.session.feed outcome).isFailed :=
  flags_ask (isFailed_feed l.session)

end Link

/-! ### A relay at work -/

namespace Running

variable {w : Running} {o : Outside}

def ask? (r : Relay) (w : Running) : Input → Option Ask
  | .request m request => Relay.ask? r w.state m request
  | .frame i commandId text => w.links[i]?.bind fun l => l.ask? commandId text
  | .poll i since => w.links[i]?.map fun l => l.pollAsk since
  | .close _ => none

def call? (r : Relay) (w : Running) : Input → Option Core.Request
  | .request m request => (r.answer w.state m request).call?
  | .frame i commandId text => w.links[i]?.bind fun l => (l.handle commandId text).call?
  | .poll i since => w.links[i]?.bind fun l => (l.session.pollRequest since).call?
  | .close _ => none

/-- Whatever reaches a relay, it makes the call that is asked for, if it may be sent. -/
theorem call?_eq (r : Relay) (w : Running) (input : Input) :
    w.call? r input = (w.ask? r input).bind Ask.sent? := by
  cases input with
  | request m request => exact (tallies_answer r w.state m request).called
  | frame i commandId text =>
    rw [call?, ask?, Option.bind_assoc]
    congr 1
    funext l
    exact (l.flags_handle commandId text).called
  | poll i since =>
    rw [call?, ask?, Option.bind_map]
    congr 1
    funext l
    exact (l.flags_poll since).called
  | close i => rfl

/-- One input counts as its call demands. -/
theorem value_step (r : Relay) (w : Running) (o : Outside) (input : Input) :
    (w.step r o input).state.counters.value .coreErrors
      = (w.state.bumpIf .coreErrors
          (((w.ask? r input).map (Attempt.ofAsk o)).any Attempt.isCounted)).counters.value
        .coreErrors := by
  cases input with
  | request m request => exact (tallies_answer r w.state m request).counted o
  | frame i commandId text =>
    simp only [step, ask?]
    cases w.links[i]? with
    | none => rfl
    | some l =>
      dsimp only [moved, Option.bind_some]
      rw [(l.flags_handle commandId text).flagged]
  | poll i since =>
    simp only [step, ask?]
    cases w.links[i]? with
    | none => rfl
    | some l =>
      dsimp only [moved, Option.map_some]
      rw [Link.poll, (l.flags_poll since).flagged]
      rfl
  | close i =>
    simp only [step]
    split <;> rfl

/-- A deep look at health does not count, whatever comes of it. -/
theorem value_step_of_probe {input : Input} {asked : Option Core.Request}
    (h : w.ask? r input = some ⟨.probe, asked⟩) :
    (w.step r o input).state.counters.value .coreErrors = w.state.counters.value .coreErrors := by
  rw [value_step, h, Option.map_some, Option.any_some, Attempt.ofAsk, Attempt.isCounted_probe]
  rfl

def attempts (r : Relay) (w : Running) : History → List Attempt
  | [] => []
  | (o, input) :: history =>
    ((w.ask? r input).map (Attempt.ofAsk o)).toList ++ (w.step r o input).attempts r history

theorem value_step_modEq (r : Relay) (w : Running) (o : Outside) (input : Input) :
    (w.step r o input).state.counters.value .coreErrors
      ≡ w.state.counters.value .coreErrors
        + ((w.ask? r input).map (Attempt.ofAsk o)).toList.countP Attempt.isCounted
      [MOD 0x10000000000000000] := by
  rw [value_step, value_bumpIf]
  cases (w.ask? r input).map (Attempt.ofAsk o) with
  | none => rfl
  | some a =>
    rw [Option.any_some, Option.toList_some, List.countP_singleton]
    split
    · exact Nat.mod_modEq _ _
    · rfl

theorem value_run (r : Relay) (w : Running) (history : History) :
    (w.run r history).state.counters.value .coreErrors
      ≡ w.state.counters.value .coreErrors + (w.attempts r history).countP Attempt.isCounted
      [MOD 0x10000000000000000] := by
  -- from the front, since what a later input asks depends on what the earlier ones left
  induction history generalizing w with
  | nil => rfl
  | cons first history ih =>
    obtain ⟨o, input⟩ := first
    show ((w.step r o input).run r history).state.counters.value .coreErrors ≡ _ [MOD _]
    rw [attempts, List.countP_append, ← Nat.add_assoc]
    exact (ih (w.step r o input)).trans ((value_step_modEq r w o input).add_right _)

/-- Each call that failed counts once, but for those that the counter does not know of; so the
counter tells how many calls failed just if none was missed, as far as 64 bits can say. -/
theorem coreErrors_run (r : Relay) (w : Running) (history : History) :
    (w.run r history).state.counters.value .coreErrors
        + (w.attempts r history).countP Attempt.isMissed
      ≡ w.state.counters.value .coreErrors + (w.attempts r history).countP Attempt.hasFailed
      [MOD 0x10000000000000000] ∧
    ((w.run r history).state.counters.value .coreErrors
        ≡ w.state.counters.value .coreErrors + (w.attempts r history).countP Attempt.hasFailed
        [MOD 0x10000000000000000] ↔
      (w.attempts r history).countP Attempt.isMissed ≡ 0 [MOD 0x10000000000000000]) := by
  have haccount : (w.run r history).state.counters.value .coreErrors
        + (w.attempts r history).countP Attempt.isMissed
      ≡ w.state.counters.value .coreErrors + (w.attempts r history).countP Attempt.hasFailed
      [MOD 0x10000000000000000] := by
    rw [Attempt.countP_hasFailed, ← Nat.add_assoc]
    exact (value_run r w history).add_right _
  refine ⟨haccount, ?_⟩
  constructor
  · intro hall
    exact Nat.ModEq.add_left_cancel' _ (haccount.trans hall.symm)
  · intro hnone
    exact (hnone.symm.add_left _).trans haccount

end Running

end Relay

end Gatehouse
