import Gatehouse.Proofs.Relay.Forwarding

/-!
# The courses that a request can take

Answering a request ends in a refusal, in an answer of the relay's own, or in one question to the core
or the disk with what follows from each outcome. The courses are collected once, stage by stage, each
with what has been decided on the way; what holds of every request is then read off them.
-/

namespace Gatehouse.Relay

/-- The answer to a request for a document, for what came of its call. -/
def documentAnswer (st : State) (requestId : String)
    (outcome : Except Core.Failure Core.Reply) : Answer × State :=
  match outcome with
  | .error e => (.refused (.core e) requestId, st.bump .coreErrors)
  | .ok reply =>
    (.of (documentResponse reply), st.bumpIf .coreErrors (Core.isServerError reply.status))

/-- The answer to a revocation, for what came of it at the desk. -/
def revokeAnswer (st : State) (requestId : String)
    (revoked : Except DeskError RevokedSession × Store) : Answer × State :=
  let st := { st with store := revoked.2 }
  match revoked.1 with
  | .error e => (.refused (.ofDesk e) requestId, st)
  | .ok revoked => (.of (recordResponse requestId revoked.record), st.bump .sessionsRevoked)

namespace Course

/-- The courses of a request behind the gate. -/
inductive Admitted (r : Relay) (st : State) (m : Moment) (requestId : String) (caller : Caller)
    (request : Http.Request) : Exchange (Answer × State) → Prop where
  | notAllowed (endpoint : Endpoint.ofPath request.path ≠ .forward) :
    Admitted r st m requestId caller request (.done (.of (.empty 405), st))
  | refused (e : Refusal) :
    Admitted r st m requestId caller request (.done (.refused e requestId, st))
  | issued (endpoint : Endpoint.ofPath request.path = .issue) (admin : caller.holds .admin = true)
    (s : IssuedSession) :
    Admitted r st m requestId caller request
      (.done (.of (recordResponse requestId s.record), st.bump .sessionsIssued))
  | revoking (endpoint : Endpoint.ofPath request.path = .revoke)
    (admin : caller.holds .admin = true) (payload : Json.Members) :
    Admitted r st m requestId caller request
      ((r.desk.revoke st.store payload m.now).map (revokeAnswer st requestId))
  | full : Admitted r st m requestId caller request
      (.done (.refused .tooManyConnections requestId, st.bump .connectionsRefused))
  | unopened (endpoint : Endpoint.ofPath request.path = .realtime) (fault : Http.UpgradeFault)
    (broken : request.upgradeFault? = some fault) (held : Connections) :
    Admitted r st m requestId caller request
      (.done (.of fault.response, { st with connections := held.release }))
  | opened (endpoint : Endpoint.ofPath request.path = .realtime)
    (read : caller.holds .read = true) (held : Connections) :
    Admitted r st m requestId caller request
      (.done (⟨.empty 101, some (r.sessionOf caller requestId request.query,
        sinceOf request.query)⟩, { st with connections := held }))
  | document (endpoint : Endpoint.ofPath request.path = .forward)
    (route : Route.classify request.path = some .raw) (method : request.method = .get) :
    Admitted r st m requestId caller request
      (.ask (r.client.fetch request.path request.query requestId) (documentAnswer st requestId))
  | payload (endpoint : Endpoint.ofPath request.path = .forward)
    (route : Route.classify request.path = some .json) (body : Option Json.Members)
    (read : forwardBody r request = .ok body) :
    Admitted r st m requestId caller request
      (.ask (r.client.command ⟨request.method, request.path, request.query, body,
          request.headers.trimmed? "idempotency-key"⟩ requestId)
        (commandAnswer st requestId (request.headers.trimmed? "idempotency-key")))

/-- The state once the gate has been asked who a request comes from. -/
def asked (r : Relay) (st : State) (m : Moment) (request : Http.Request)
    (buckets : Limit.Buckets) : State :=
  { st with
    buckets
    store := (r.gate.authenticate st.store
      (Credentials.ofRequest request.headers request.path request.query) m.now).2 }

/-- The courses of a request that the rate limit and the gate look at. -/
inductive Guarded (r : Relay) (st : State) (m : Moment) (requestId : String)
    (request : Http.Request) : Exchange (Answer × State) → Prop where
  | limited (buckets : Limit.Buckets) (retryAfter : Nat) :
    Guarded r st m requestId request
      (.done (.refused (.rateLimited retryAfter) requestId,
        { st with buckets }.bump .rateLimited))
  | unauthorized (buckets : Limit.Buckets) (e : AuthFailure)
    (caller : r.callerOf st m request = .error e) :
    Guarded r st m requestId request
      (.done (.refused (.ofAuth e) requestId, (asked r st m request buckets).bump .unauthorized))
  | admitted (buckets : Limit.Buckets) (caller : Caller)
    (known : r.callerOf st m request = .ok caller) {e : Exchange (Answer × State)}
    (course : Admitted r (asked r st m request buckets) m requestId caller request e) :
    Guarded r st m requestId request e

def deepFields (request : Http.Request) : List (String × String) :=
  ((request.query.map Form.pairs).getD []).filter fun (key, _) => key = "deep"

/-- A query that names one field twice. -/
def AsksTwice (request : Http.Request) : Prop :=
  2 ≤ (deepFields request).length

instance (request : Http.Request) : Decidable (AsksTwice request) :=
  inferInstanceAs (Decidable (2 ≤ (deepFields request).length))

def repeatedField : Http.Response :=
  .plain 400 "Failed to deserialize query string: duplicate field \x60deep\x60"

/-- The courses of a request that may come from where it comes. -/
inductive Routed (r : Relay) (st : State) (m : Moment) (requestId : String)
    (request : Http.Request) : Exchange (Answer × State) → Prop where
  | notAllowed (endpoint : Endpoint.ofPath request.path ≠ .forward) :
    Routed r st m requestId request (.done (.of (.empty 405), st))
  | repeated (path : request.path = "/health") (twice : AsksTwice request) :
    Routed r st m requestId request (.done (.of repeatedField, st))
  | shallow (path : request.path = "/health") :
    Routed r st m requestId request
      (.done (.of (.json 200 (healthRecord r st requestId true [])), st))
  | deep (path : request.path = "/health") :
    Routed r st m requestId request
      (.ask (r.client.probe requestId) fun outcome =>
        (.of (deepHealth r st requestId outcome), st))
  | metrics (path : request.path = "/metrics") :
    Routed r st m requestId request
      (.done (.of (.ofText 200 "text/plain; version=0.0.4" st.metrics), st))
  | guarded (path : request.path ≠ "/health") {e : Exchange (Answer × State)}
    (course : Guarded r st m requestId request e) :
    Routed r st m requestId request e

/-- What is left of an answer after the last touches. -/
def touched (r : Relay) (m : Moment) (request : Http.Request) (a : Answer × State) :
    Answer × State :=
  ({ a.1 with
      response := finished (r.originDecision request) (requestIdOf m request) request
        a.1.response }, a.2)

/-- The courses of any request, before the last touches of its response. -/
inductive Inner (r : Relay) (st : State) (m : Moment) (requestId : String)
    (request : Http.Request) : Exchange (Answer × State) → Prop where
  | denied : Inner r st m requestId request (.done (.refused .originDenied requestId, st))
  | preflight : Inner r st m requestId request (.done (.of (.empty 204), st))
  | routed {e : Exchange (Answer × State)} (course : Routed r st m requestId request e) :
    Inner r st m requestId request e

end Course

variable {r : Relay} {st : State} {m : Moment} {requestId : String} {caller : Caller}
  {request : Http.Request}

/-! ### Behind the gate -/

/-- The path of an endpoint that is reached by one path only. -/
def Endpoint.path? : Endpoint → Option String
  | health => some "/health"
  | metrics => some "/metrics"
  | issue => some "/auth/session"
  | revoke => some "/auth/session/revoke"
  | realtime => some "/ws"
  | forward => none

theorem Endpoint.path_eq {path expected : String} (h : (ofPath path).path? = some expected) :
    path = expected := by
  rw [ofPath.eq_def] at h
  split at h
  all_goals first | exact Option.some.inj h | cases h

theorem Endpoint.ofPath_ne_forward {path : String} {method : Method}
    (h : ((ofPath path).disallowed? method).isSome = true) : ofPath path ≠ .forward := by
  intro hforward
  rw [hforward] at h
  cases h

theorem holds_admin_of_adminRecord {body : Bytes} {payload : Json.Members}
    (h : adminRecord r caller body = .ok payload) : caller.holds .admin = true := by
  rw [adminRecord] at h
  split at h
  · assumption
  · cases h

theorem admitted_issue (st : State) (m : Moment) (requestId : String) (caller : Caller)
    (h : Endpoint.ofPath request.path = .issue) :
    Course.Admitted r st m requestId caller request
      (.done (issue r st m requestId caller request.body)) := by
  rw [issue]
  split
  · exact .refused _
  · next payload hrecord =>
    cases r.desk.issue caller payload m.sessionId m.now with
    | error e => exact .refused _
    | ok s => exact .issued h (holds_admin_of_adminRecord hrecord) s

theorem admitted_revoke (st : State) (m : Moment) (requestId : String) (caller : Caller)
    (h : Endpoint.ofPath request.path = .revoke) :
    Course.Admitted r st m requestId caller request
      (revoke r st m requestId caller request.body) := by
  rw [revoke]
  split
  · exact .refused _
  · next payload hrecord =>
    exact .revoking h (holds_admin_of_adminRecord hrecord) payload

theorem admitted_realtime (st : State) (m : Moment) (requestId : String) (caller : Caller)
    (h : Endpoint.ofPath request.path = .realtime) :
    Course.Admitted r st m requestId caller request
      (.done (realtime r st requestId caller request)) := by
  rw [realtime]
  split
  · exact .refused _
  · next hread =>
    rw [Bool.not_eq_true, Bool.not_eq_false'] at hread
    split
    · exact .full
    · next held _ =>
      split
      · next fault hfault => exact .unopened h fault hfault held
      · exact .opened h hread held

theorem admitted_forward (st : State) (m : Moment) (requestId : String) (caller : Caller)
    (h : Endpoint.ofPath request.path = .forward) :
    Course.Admitted r st m requestId caller request
      (forward r st requestId caller request) := by
  rw [forward]
  split
  · exact .refused _
  · next kind hroute =>
    split
    · exact .refused _
    · cases kind with
      | raw =>
        show Course.Admitted r st m requestId caller request (forwardRaw r st requestId request)
        rw [forwardRaw]
        split
        · exact .refused _
        · next hmethod => exact .document h hroute (Decidable.not_not.mp hmethod)
      | json =>
        show Course.Admitted r st m requestId caller request (forwardJson r st requestId request)
        rw [forwardJson]
        split
        · exact .refused _
        · next body hbody => exact .payload h hroute body hbody

theorem course_admitted (hhealth : Endpoint.ofPath request.path ≠ .health)
    (hmetrics : Endpoint.ofPath request.path ≠ .metrics) (st : State) (m : Moment)
    (requestId : String) (caller : Caller) :
    Course.Admitted r st m requestId caller request (admitted r st m requestId caller request) := by
  simp only [admitted]
  split
  · next hdisallowed => exact .notAllowed (Endpoint.ofPath_ne_forward hdisallowed)
  · cases hendpoint : Endpoint.ofPath request.path with
    | health => exact absurd hendpoint hhealth
    | metrics => exact absurd hendpoint hmetrics
    | issue => exact admitted_issue st m requestId caller hendpoint
    | revoke => exact admitted_revoke st m requestId caller hendpoint
    | realtime => exact admitted_realtime st m requestId caller hendpoint
    | forward => exact admitted_forward st m requestId caller hendpoint

/-! ### From the gate outwards -/

theorem course_guarded (hhealth : Endpoint.ofPath request.path ≠ .health)
    (hmetrics : Endpoint.ofPath request.path ≠ .metrics) (st : State) (m : Moment)
    (requestId : String) :
    Course.Guarded r st m requestId request (guarded r st m requestId request) := by
  simp only [guarded]
  split
  · exact .limited _ _
  · split
    · next e hcaller => exact .unauthorized _ e hcaller
    · next caller hcaller =>
      exact .admitted _ caller hcaller (course_admitted hhealth hmetrics _ m requestId caller)

theorem course_health (st : State) (m : Moment) (requestId : String)
    (hpath : request.path = "/health") :
    Course.Routed r st m requestId request (health r st requestId request.query) := by
  rw [health]
  split
  · next hdeep => exact .repeated hpath (by rw [Course.AsksTwice, Course.deepFields, hdeep]; simp)
  · exact .deep hpath
  · exact .shallow hpath

theorem course_routed (r : Relay) (st : State) (m : Moment) (requestId : String)
    (request : Http.Request) :
    Course.Routed r st m requestId request (routed r st m requestId request) := by
  have hallowed {e : Endpoint} {m : Method} (h : ¬(e.disallowed? m).isNone = true) :
      (e.disallowed? m).isSome = true := by
    rwa [Bool.not_eq_true, Option.isNone_eq_false_iff] at h
  simp only [routed]
  split
  · next hendpoint =>
    rw [hendpoint]
    split
    · exact course_health st m requestId (Endpoint.path_of_health hendpoint)
    · next h => exact .notAllowed (by simp [hendpoint])
  · next hendpoint =>
    rw [hendpoint]
    split
    · exact .metrics (Endpoint.path_eq (by rw [hendpoint]; rfl))
    · exact .notAllowed (by simp [hendpoint])
  · next hhealth hmetrics =>
    refine .guarded ?_ (course_guarded hhealth hmetrics st m requestId)
    intro hpath
    exact hhealth (by rw [hpath]; rfl)

theorem course_inner (r : Relay) (st : State) (m : Moment) (request : Http.Request) :
    ∃ e, Course.Inner r (st.bump .requests) m (requestIdOf m request) request e ∧
      r.answer st m request = e.map (Course.touched r m request) := by
  simp only [answer]
  split
  · exact ⟨_, .denied, rfl⟩
  · split
    · exact ⟨_, .preflight, rfl⟩
    · exact ⟨_, .routed (course_routed r _ m _ request), rfl⟩
  · exact ⟨_, .routed (course_routed r _ m _ request), rfl⟩

theorem answer_eq_routed (horigin : r.originDecision request ≠ .denied)
    (hpreflight : ∀ site, r.originDecision request = .allowed site → request.method ≠ .options) :
    r.answer st m request
      = (r.routed (st.bump .requests) m (requestIdOf m request) request).map
          (Course.touched r m request) := by
  simp only [answer]
  split
  · next hdenied => exact absurd hdenied horigin
  · next site hsite =>
    rw [if_neg (hpreflight site hsite)]
    rfl
  · rfl

/-- A request of a caller whom the rules on origins, the rate limit and the gate let through. -/
structure LetIn (r : Relay) (st : State) (m : Moment) (request : Http.Request)
    (caller : Caller) : Prop where
  origin : r.originDecision request ≠ .denied
  preflight : ∀ site, r.originDecision request = .allowed site → request.method ≠ .options
  limit : r.isWithinLimit st m request
  caller : r.callerOf st m request = .ok caller

theorem answer_of_letIn (h : LetIn r st m request caller)
    (hhealth : Endpoint.ofPath request.path ≠ .health)
    (hmetrics : Endpoint.ofPath request.path ≠ .metrics) :
    ∃ buckets, r.answer st m request
      = (r.admitted (Course.asked r (st.bump .requests) m request buckets) m
          (requestIdOf m request) caller request).map (Course.touched r m request) := by
  obtain ⟨horigin, hpreflight, hlimit, hcaller⟩ := h
  have hallowed : (Limit.check r.quota (st.bump .requests).buckets
      (r.proxies.client request.headers request.peer) m.clock).1 = .allowed := hlimit
  have hknown : (r.gate.authenticate (st.bump .requests).store
      (Credentials.ofRequest request.headers request.path request.query) m.now).1
        = .ok caller := hcaller
  have hrouted : r.routed (st.bump .requests) m (requestIdOf m request) request
      = r.guarded (st.bump .requests) m (requestIdOf m request) request := by
    simp only [routed]
  obtain ⟨buckets, hguarded⟩ : ∃ buckets,
      r.guarded (st.bump .requests) m (requestIdOf m request) request
        = r.admitted (Course.asked r (st.bump .requests) m request buckets) m
            (requestIdOf m request) caller request := by
    simp only [guarded, hallowed, hknown]
    exact ⟨_, rfl⟩
  exact ⟨buckets, by rw [answer_eq_routed horigin hpreflight, hrouted, hguarded]⟩

end Gatehouse.Relay
