import Gatehouse.Http.Upgrade
import Gatehouse.Live.Session
import Gatehouse.Relay.Basic
import Gatehouse.Relay.Refusal

/-!
# Answering a request

A request passes the rules on origins first. Health and counters are then answered at once;
everything else passes the rate limit and the gate before it is routed. What is no route of the
relay itself is forwarded to the core, if it is a route of the core and the caller's scopes allow
it. Every answer carries the id of the request.
-/

namespace Gatehouse.Relay

/-- The answer to a request: a response, with the session that takes over the connection if one is
opened. -/
structure Answer where
  response : Http.Response
  session : Option (Live.Session × Int)

/-- An answer that leaves the connection as it is. -/
def Answer.of (r : Http.Response) : Answer :=
  ⟨r, none⟩

def Answer.refused (r : Refusal) (requestId : String) : Answer :=
  .of (r.response requestId)

inductive Endpoint where
  | health
  | metrics
  | issue
  | revoke
  | realtime
  | forward
deriving DecidableEq, Repr

namespace Endpoint

/-- What a path leads to. -/
def ofPath : String → Endpoint
  | "/health" => health
  | "/metrics" => metrics
  | "/auth/session" => issue
  | "/auth/session/revoke" => revoke
  | "/ws" => realtime
  | _ => forward

/-- The methods that an endpoint allows, where it does not decide by itself. -/
def methods? : Endpoint → Option (List Method × String)
  | forward => none
  | issue => some ([.post], "POST")
  | revoke => some ([.post], "POST")
  | _ => some ([.get, .head], "GET,HEAD")

/-- Whether what an endpoint is asked passes the rate limit and the gate first. -/
def isGuarded : Endpoint → Bool
  | health | metrics => false
  | _ => true

/-- The text of the methods allowed, if a method is not one of them. -/
def disallowed? (e : Endpoint) (m : Method) : Option String :=
  match e.methods? with
  | some (methods, text) => if m ∈ methods then none else some text
  | none => none

end Endpoint

/-! ### Health -/

/-- What the relay says of itself. -/
def snapshot (r : Relay) (st : State) : Json :=
  Json.record
    [("rate_limit_rps", .number (.real r.config.rate)), ("rate_limit_burst", .nat r.config.burst),
     ("rate_limit_clients", .nat st.buckets.length),
     ("ws_max_connections", .nat st.connections.max),
     ("ws_active_connections", .nat st.connections.active),
     ("revoked_sessions", .nat st.store.entries.length),
     ("revocation_store_path", .text (st.store.path.getD "")),
     ("core_tls_enabled", .bool r.config.usesTls),
     ("core_mtls_enabled", .bool r.config.clientCertFile.isSome)]

def healthRecord (r : Relay) (st : State) (requestId : String) (ok : Bool)
    (core : Json.Members) : Json :=
  Json.record
    ([("ok", .bool ok), ("service", .text Live.serviceName), ("request_id", .text requestId),
      ("relay", snapshot r st)] ++ core)

def deepHealth (r : Relay) (st : State) (requestId : String)
    (outcome : Except Core.Failure Core.Reply) : Http.Response :=
  match outcome with
  | .ok reply =>
    let healthy := Core.isSuccess reply.status
    let core := Json.record
      [("reachable", .bool (!Core.isServerError reply.status)), ("status", .nat reply.status),
       ("healthy", .bool healthy)]
    .json (if healthy then 200 else 502) (healthRecord r st requestId healthy [("core", core)])
  | .error e =>
    let core := Json.record [("reachable", .bool false), ("error", .text e.message)]
    .json 502 (healthRecord r st requestId false [("core", core)])

/-- Answers how the relay is, and how the core is if `deep=1` asks for it. -/
def health (r : Relay) (st : State) (requestId : String) (query : Option String) :
    Exchange (Answer × State) :=
  let deep := ((query.map Form.pairs).getD []).filter fun (key, _) => key = "deep"
  match deep with
  | _ :: _ :: _ =>
    .done (.of (.plain 400 "Failed to deserialize query string: duplicate field \x60deep\x60"), st)
  | [(_, "1")] =>
    .ask (r.client.probe requestId) fun outcome =>
      (.of (deepHealth r st requestId outcome), st)
  | _ => .done (.of (.json 200 (healthRecord r st requestId true [])), st)

/-! ### Sessions -/

/-- The record in a body: a JSON object of limited length; a blank body is an empty one. -/
def readRecord (limit : Nat) (body : Bytes) : Except Refusal Json.Members :=
  if limit < body.length then .error (.badRequest "request body too large")
  else if Json.isBlankBody body then .ok []
  else
    match Json.ofBytes? body with
    | some (.object members) => .ok members
    | _ => .error (.badRequest "request body must be valid JSON object")

/-- The record that only an admin may send. -/
def adminRecord (r : Relay) (caller : Caller) (body : Bytes) : Except Refusal Json.Members :=
  if caller.holds .admin then readRecord r.config.maxBody body else .error .forbidden

def recordResponse (requestId : String) (record : Json) : Http.Response :=
  .json 200 (Core.attachRequestId requestId record)

def issue (r : Relay) (st : State) (m : Moment) (requestId : String) (caller : Caller)
    (body : Bytes) : Answer × State :=
  match adminRecord r caller body with
  | .error e => (.refused e requestId, st)
  | .ok payload =>
    match r.desk.issue caller payload m.sessionId m.now with
    | .error e => (.refused (.ofDesk e) requestId, st)
    | .ok issued =>
      (.of (recordResponse requestId issued.record), st.bump .sessionsIssued)

def revoke (r : Relay) (st : State) (m : Moment) (requestId : String) (caller : Caller)
    (body : Bytes) : Exchange (Answer × State) :=
  match adminRecord r caller body with
  | .error e => .done (.refused e requestId, st)
  | .ok payload =>
    (r.desk.revoke st.store payload m.now).map fun (outcome, store) =>
      let st := { st with store }
      match outcome with
      | .error e => (.refused (.ofDesk e) requestId, st)
      | .ok revoked =>
        (.of (recordResponse requestId revoked.record), st.bump .sessionsRevoked)

/-! ### Realtime connections -/

/-- The event after which a connection wants to be told. -/
def sinceOf (query : Option String) : Int :=
  max 0 (((Form.value? query "since_id").bind fun v => Text.int64? (Text.trim v)).getD 0)

def sessionOf (r : Relay) (caller : Caller) (requestId : String) (query : Option String) :
    Live.Session where
  caller
  policy := r.config.unscopedPolicy
  client := r.client
  requestId
  poll := .ofTexts (Form.value? query "poll_timeout") (Form.value? query "poll_interval")

/-- Opens a realtime connection. A failed handshake holds a permit only until it is answered. -/
def realtime (r : Relay) (st : State) (requestId : String) (caller : Caller)
    (request : Http.Request) : Answer × State :=
  if !caller.holds .read then (.refused .forbidden requestId, st)
  else
    match st.connections.acquire? with
    | none => (.refused .tooManyConnections requestId, st.bump .connectionsRefused)
    | some held =>
      match request.upgradeFault? with
      | some fault => (.of fault.response, { st with connections := held.release })
      | none =>
        let session := sessionOf r caller requestId request.query
        (⟨.empty 101, some (session, sinceOf request.query)⟩, { st with connections := held })

/-! ### Forwarding -/

def documentResponse (reply : Core.Reply) : Http.Response :=
  let (body, broken) := match reply.body with
    | .whole bytes => (bytes, false)
    | .broken bytes _ => (bytes, true)
  ⟨reply.status, Headers.setText "content-type" reply.contentType [], body, broken⟩

def keyFields (key : Option String) (replayed : Bool) (h : Headers) : Headers :=
  if key.isSome || replayed then
    let h := match key with
      | some k => h.setText "idempotency-key" k
      | none => h
    h.set "x-idempotency-replayed" (Utf8.encode (if replayed then "true" else "false"))
  else h

/-- The response that passes a decoded answer on; where the core names no key, the client's own
stands in. -/
def replyResponse (reply : Core.JsonReply) (key : Option String) : Http.Response :=
  let response := Http.Response.json reply.status reply.payload
  { response with
    headers := keyFields (reply.idempotencyKey.or key) reply.replayed response.headers }

def forwardRaw (r : Relay) (st : State) (requestId : String) (request : Http.Request) :
    Exchange (Answer × State) :=
  if request.method ≠ .get then .done (.refused .methodNotAllowed requestId, st)
  else
    .ask (r.client.fetch request.path request.query requestId) fun outcome =>
      match outcome with
      | .error e => (.refused (.core e) requestId, st.bump .coreErrors)
      | .ok reply =>
        (.of (documentResponse reply), st.bumpIf .coreErrors (Core.isServerError reply.status))

/-- The body of a request that is forwarded in JSON: a POST has one. -/
def forwardBody (r : Relay) (request : Http.Request) : Except Refusal (Option Json.Members) :=
  if request.method = .get then .ok none
  else if request.method = .post then (readRecord r.config.maxBody request.body).map some
  else .error .methodNotAllowed

def forwardJson (r : Relay) (st : State) (requestId : String) (request : Http.Request) :
    Exchange (Answer × State) :=
  match forwardBody r request with
  | .error e => .done (.refused e requestId, st)
  | .ok body =>
    let key := request.headers.trimmed? "idempotency-key"
    let call : Core.Call := ⟨request.method, request.path, request.query, body, key⟩
    .ask (r.client.command call requestId) fun outcome =>
      match outcome.bind (Core.JsonReply.ofReply requestId) with
      | .error e => (.refused (.core e) requestId, st.bump .coreErrors)
      | .ok reply =>
        (.of (replyResponse reply key), st.bumpIf .coreErrors (Core.isServerError reply.status))

/-- Forwards a request to the core, if it has such a route and the caller may use it. -/
def forward (r : Relay) (st : State) (requestId : String) (caller : Caller)
    (request : Http.Request) : Exchange (Answer × State) :=
  match Route.classify request.path with
  | none => .done (.refused .notFound requestId, st)
  | some kind =>
    if !caller.mayAccess r.config.unscopedPolicy request.method request.path then
      .done (.refused .forbidden requestId, st)
    else
      match kind with
      | .raw => forwardRaw r st requestId request
      | .json => forwardJson r st requestId request

/-! ### From the outside in -/

def admitted (r : Relay) (st : State) (m : Moment) (requestId : String) (caller : Caller)
    (request : Http.Request) : Exchange (Answer × State) :=
  let endpoint := Endpoint.ofPath request.path
  if (endpoint.disallowed? request.method).isSome then .done (.of (.empty 405), st)
  else
    match endpoint with
    | .issue => .done (issue r st m requestId caller request.body)
    | .revoke => revoke r st m requestId caller request.body
    | .realtime => .done (realtime r st requestId caller request)
    | _ => forward r st requestId caller request

/-- Lets a request through the rate limit and the gate. The limit is taken to answer; where it breaks
off, `answer?` has no answer. -/
def guarded (r : Relay) (st : State) (m : Moment) (requestId : String) (request : Http.Request) :
    Exchange (Answer × State) :=
  let client := r.proxies.client request.headers request.peer
  let (admission, buckets) := Limit.check r.quota st.buckets client m.clock
  let st := { st with buckets }
  match admission with
  | .limited retryAfter =>
    .done (.refused (.rateLimited retryAfter) requestId, st.bump .rateLimited)
  | .allowed =>
    let credentials := Credentials.ofRequest request.headers request.path request.query
    let (outcome, store) := r.gate.authenticate st.store credentials m.now
    let st := { st with store }
    match outcome with
    | .error e => .done (.refused (.ofAuth e) requestId, st.bump .unauthorized)
    | .ok caller => admitted r st m requestId caller request

/-- Routes a request that may come from where it comes. -/
def routed (r : Relay) (st : State) (m : Moment) (requestId : String) (request : Http.Request) :
    Exchange (Answer × State) :=
  let endpoint := Endpoint.ofPath request.path
  let isAllowed := (endpoint.disallowed? request.method).isNone
  match endpoint with
  | .health =>
    if isAllowed then health r st requestId request.query else .done (.of (.empty 405), st)
  | .metrics =>
    let counters : Http.Response :=
      if isAllowed then .ofText 200 "text/plain; version=0.0.4" st.metrics else .empty 405
    .done (.of counters, st)
  | _ => guarded r st m requestId request

def requestIdOf (m : Moment) (request : Http.Request) : String :=
  (request.headers.trimmed? "x-request-id").getD m.requestId

def originDecision (r : Relay) (request : Http.Request) : OriginDecision :=
  r.origins.decide (request.headers.text? "origin") (request.headers.text? "host")
    (r.proxies.scheme request.headers request.peer)

/-- The last touches of a response: fields for the origin, the id of the request, the methods
allowed, and no body for HEAD. -/
def finished (decision : OriginDecision) (requestId : String) (request : Http.Request)
    (response : Http.Response) : Http.Response :=
  let headers := (decision.apply response.headers).setText "x-request-id" requestId
  let headers := match (Endpoint.ofPath request.path).disallowed? request.method with
    | some methods => headers.setText "allow" methods
    | none => headers
  { response with
    headers
    body := if request.method = .head then [] else response.body }

def answer (r : Relay) (st : State) (m : Moment) (request : Http.Request) :
    Exchange (Answer × State) :=
  let st := st.bump .requests
  let requestId := requestIdOf m request
  let decision := originDecision r request
  let inner : Exchange (Answer × State) :=
    match decision with
    | .denied => .done (.refused .originDenied requestId, st)
    | .allowed _ =>
      if request.method = .options then .done (.of (.empty 204), st)
      else routed r st m requestId request
    | .notApplicable => routed r st m requestId request
  inner.map fun (a, st) =>
    ({ a with response := finished decision requestId request a.response }, st)

/-- Whether a request comes as far as the rate limit. -/
def reachesLimit (r : Relay) (request : Http.Request) : Bool :=
  let isRouted := match originDecision r request with
    | .denied => false
    | .allowed _ => request.method ≠ .options
    | .notApplicable => true
  isRouted && (Endpoint.ofPath request.path).isGuarded

/-- The answer to a request. There is none where the client needs a bucket that cannot be made: the
program breaks off in the rate limit, which `answer` takes to go on. -/
def answer? (r : Relay) (st : State) (m : Moment) (request : Http.Request) :
    Option (Exchange (Answer × State)) :=
  let client := r.proxies.client request.headers request.peer
  if r.reachesLimit request && (Limit.check? r.quota st.buckets client m.clock).isNone then none
  else some (r.answer st m request)

end Gatehouse.Relay
