import Gatehouse.Proofs.Relay.Course
import Gatehouse.Proofs.Relay.Running

/-!
# The id of a request

A request has one id, its own or a fresh one. The response carries it in one field, a call of the core
carries it, and every record that the relay writes names it; a record of the core is passed on with it
where it names none. Two bodies name no request: they are written before the relay is asked, for a
query that names a field twice and for a handshake that fails.
-/

namespace Gatehouse

namespace Core

/-- A payload as it is passed on: an object that names no request names this one, and all else in it
stays; what is no object, or names a request, stays as it is. -/
structure Attached (requestId : String) (before after : Json) : Prop where
  object : ∀ members, before = .object members → ∃ filled, after = .object filled ∧
    (∀ key, key ≠ "request_id" → Keyed.get? key filled = Keyed.get? key members) ∧
    Keyed.get? "request_id" filled
      = some ((Keyed.get? "request_id" members).getD (.text requestId))
  same : (∀ members, before = .object members → (Keyed.get? "request_id" members).isSome) →
    after = before

theorem attached_attachRequestId (requestId : String) (v : Json) :
    Attached requestId v (attachRequestId requestId v) := by
  cases v with
  | object members =>
    rw [attachRequestId, Json.fill]
    cases hnamed : Keyed.get? "request_id" members with
    | some named =>
      constructor
      · intro all hall
        cases hall
        exact ⟨members, rfl, fun _ _ => rfl, by rw [hnamed, Option.getD_some]⟩
      · exact fun _ => rfl
    | none =>
      constructor
      · intro all hall
        cases hall
        refine ⟨_, rfl, fun key hkey => Keyed.get?_insert_of_ne hkey _ _, ?_⟩
        rw [Keyed.get?_insert_self, hnamed, Option.getD_none]
      · intro hall
        have hsome := hall members rfl
        rw [hnamed] at hsome
        cases hsome
  | _ => exact ⟨nofun, fun _ => rfl⟩

theorem of_ofReply {requestId : String} {reply : Reply} {read : JsonReply}
    (h : JsonReply.ofReply requestId reply = .ok read) :
    ∃ bytes v, reply.bytes = .ok bytes ∧ payload? bytes = some v ∧ read.status = reply.status ∧
      read.payload = attachRequestId requestId v := by
  rw [JsonReply.ofReply] at h
  split at h
  · cases h
  · next bytes hbytes =>
    split at h
    · cases h
    · next v hv =>
      cases h
      exact ⟨bytes, v, hbytes, hv, rfl, rfl⟩

end Core

namespace Relay

variable {r : Relay} {st : State} {m : Moment} {id : String} {caller : Caller}
  {request : Http.Request} {o : Outside}

/-! ### Ids -/

/-- A fresh id: thirty-two hexadecimal digits. -/
structure IsFresh (id : String) : Prop where
  length : id.length = 32
  digits : ∀ c ∈ id.toList, c ∈ "0123456789abcdef".toList

theorem IsFresh.legible (h : IsFresh id) : Header.Legible id := by
  have hdigits : Header.Legible "0123456789abcdef" := by decide
  exact fun c hc => hdigits c (h.digits c hc)

theorem requestIdOf_cases (hfresh : IsFresh m.requestId) (request : Http.Request) :
    request.headers.trimmed? "x-request-id" = some (requestIdOf m request) ∨
      request.headers.trimmed? "x-request-id" = none ∧ IsFresh (requestIdOf m request) := by
  rw [requestIdOf]
  cases request.headers.trimmed? "x-request-id" with
  | none => exact .inr ⟨rfl, hfresh⟩
  | some own => exact .inl rfl

theorem legible_requestIdOf (hfresh : IsFresh m.requestId) (request : Http.Request) :
    Header.Legible (requestIdOf m request) := by
  rcases requestIdOf_cases hfresh request with hown | ⟨-, hid⟩
  · exact Headers.legible_of_trimmed? hown
  · exact hid.legible

theorem values_finished (hid : Header.Legible id) (decision : OriginDecision)
    (request : Http.Request) (response : Http.Response) :
    (finished decision id request response).headers.values "x-request-id" = [Utf8.encode id] := by
  have hset (h : Headers) : (h.setText "x-request-id" id).values "x-request-id"
      = [Utf8.encode id] := by
    rw [Headers.setText, hid.value?_eq]
    exact Headers.values_set_self _ _ _
  simp only [finished]
  split
  · next methods _ =>
    rw [Headers.setText]
    split
    · rw [Headers.values_set_of_ne (by decide), hset]
    · exact hset _
  · exact hset _

/-! ### Records that name a request -/

/-- A body that is a record which names a request. -/
def Names (id : String) (body : Bytes) : Prop :=
  ∃ members, body = Utf8.encode (Json.object members).write ∧
    Keyed.get? "request_id" members = some (.text id)

theorem names_record {pairs : Json.Members} (hdistinct : (pairs.map Prod.fst).Nodup)
    (hnamed : Keyed.get? "request_id" pairs = some (.text id)) (status : Nat) :
    Names id (Http.Response.json status (Json.record pairs)).body :=
  ⟨_, rfl, (Keyed.get?_ofPairs hdistinct _).trans hnamed⟩

theorem names_recordResponse {pairs : Json.Members} (hdistinct : (pairs.map Prod.fst).Nodup)
    (hfree : Keyed.get? "request_id" pairs = none) :
    Names id (recordResponse id (Json.record pairs)).body := by
  obtain ⟨filled, hfilled, -, hnamed⟩ :=
    (Core.attached_attachRequestId id (Json.record pairs)).object _ rfl
  rw [Keyed.get?_ofPairs hdistinct, hfree, Option.getD_none] at hnamed
  refine ⟨filled, ?_, hnamed⟩
  rw [recordResponse, hfilled]
  rfl

theorem names_healthRecord (r : Relay) (st : State) (id : String) (status : Nat) (ok : Bool)
    {core : Json.Members} (hcore : core = [] ∨ ∃ v, core = [("core", v)]) :
    Names id (Http.Response.json status (healthRecord r st id ok core)).body := by
  rcases hcore with rfl | ⟨v, rfl⟩
  · exact names_record (by simp) rfl status
  · exact names_record (by simp) rfl status

theorem head?_of_names {body : Bytes} (h : Names id body) : body.head? = some 0x7B := by
  obtain ⟨members, rfl, -⟩ := h
  -- an object is written with its brace first, whatever its members are
  rw [Utf8.encode, Json.write, Json.chars, String.toList_ofList]
  rfl

/-! ### What a response tells -/

/-- What the response to a request tells, by its status and its body: nothing; a refusal or a record of
the relay's own, either with the id of the request; the counters; what is said to a query or a
handshake that cannot be read; or what the core answered to the call that was made, a record in it
with the id of the request where it names none. -/
inductive Tells (request : Http.Request) (id : String) (core : Core.Request → Core.Answer)
    (called : Option Core.Request) (status : Nat) (body : Bytes) : Prop where
  | nothing (cause : request.method = .head ∨ status = 101 ∨ status = 204 ∨
      status = 405 ∧ Endpoint.ofPath request.path ≠ .forward) (empty : body = [])
  | refusal (e : Refusal) (refused : status = e.status) (members : Json.Members)
    (record : body = Utf8.encode (Json.object members).write)
    (error : Keyed.get? "error" members = some (.text e.message))
    (named : Keyed.get? "request_id" members = some (.text id))
  | record (endpoint : Endpoint.ofPath request.path ∈ [.health, .issue, .revoke])
    (named : Names id body)
  | counters (path : request.path = "/metrics") (succeeds : status = 200)
  | misread (path : request.path = "/health") (twice : Course.AsksTwice request)
    (said : body = Course.repeatedField.body)
  | unshaken (path : request.path = "/ws") (fault : Http.UpgradeFault)
    (broken : request.upgradeFault? = some fault) (said : body = fault.response.body)
  | document (route : Route.classify request.path = some .raw) (call : Core.Request)
    (reply : Core.Reply) (made : called = some call) (answered : core call = .ok reply)
    (passed : status = reply.status ∧ body = (documentResponse reply).body)
  | payload (route : Route.classify request.path = some .json) (call : Core.Request)
    (reply : Core.Reply) (made : called = some call) (answered : core call = .ok reply)
    (bytes : Bytes) (v : Json) (whole : reply.bytes = .ok bytes) (value : Core.payload? bytes = some v)
    (passed : status = reply.status ∧
      body = Utf8.encode (Core.attachRequestId id v).write)

theorem not_names_repeatedField (id : String) : ¬Names id Course.repeatedField.body := by
  intro hnames
  have hhead := head?_of_names hnames
  revert hhead
  decide

theorem not_names_fault (id : String) (fault : Http.UpgradeFault) :
    ¬Names id fault.response.body := by
  intro hnames
  have hhead := head?_of_names hnames
  revert hhead
  cases fault <;> decide

theorem tells_refused (e : Refusal) (core : Core.Request → Core.Answer)
    (called : Option Core.Request) :
    Tells request id core called (e.response id).status (e.response id).body := by
  have hdistinct : ([("error", Json.text e.message), ("request_id", Json.text id)].map
      Prod.fst).Nodup := by
    simp
  have hbody : (e.response id).body = Utf8.encode (Json.object (Keyed.ofPairs
      [("error", .text e.message), ("request_id", .text id)])).write := by
    rw [Refusal.response, Http.Response.json, Http.Response.ofText, Refusal.record, Json.record]
  exact .refusal e rfl _ hbody ((Keyed.get?_ofPairs hdistinct _).trans rfl)
    ((Keyed.get?_ofPairs hdistinct _).trans rfl)

theorem tells_document (route : Route.classify request.path = some .raw) (st : State)
    (asked : Option Core.Request) (o : Outside) :
    Tells request id o.core (asked.filter Core.Request.isSendable)
      (documentAnswer st id (Exchange.outcome o.core asked)).1.response.status
      (documentAnswer st id (Exchange.outcome o.core asked)).1.response.body := by
  cases houtcome : Exchange.outcome o.core asked with
  | error e => exact tells_refused _ _ _
  | ok reply =>
    obtain ⟨call, hmade, hanswered⟩ := Exchange.of_outcome_ok houtcome
    exact .document route call reply hmade hanswered ⟨rfl, rfl⟩

theorem tells_payload (route : Route.classify request.path = some .json) (st : State)
    (key : Option String) (asked : Option Core.Request) (o : Outside) :
    Tells request id o.core (asked.filter Core.Request.isSendable)
      (commandAnswer st id key (Exchange.outcome o.core asked)).1.response.status
      (commandAnswer st id key (Exchange.outcome o.core asked)).1.response.body := by
  rw [commandAnswer]
  split
  · exact tells_refused _ _ _
  · next read hread =>
    cases houtcome : Exchange.outcome o.core asked with
    | error e =>
      rw [houtcome] at hread
      cases hread
    | ok reply =>
      rw [houtcome] at hread
      obtain ⟨call, hmade, hanswered⟩ := Exchange.of_outcome_ok houtcome
      obtain ⟨bytes, v, hbytes, hv, hstatus, hpayload⟩ := Core.of_ofReply hread
      refine .payload route call reply hmade hanswered bytes v hbytes hv ⟨hstatus, ?_⟩
      rw [← hpayload]
      rfl

theorem tells_admitted {e : Exchange (Answer × State)}
    (h : Course.Admitted r st m id caller request e) (o : Outside) :
    Tells request id o.core e.call? (e.result o.core o.disk).1.response.status
      (e.result o.core o.disk).1.response.body := by
  cases h with
  | notAllowed endpoint => exact .nothing (.inr (.inr (.inr ⟨rfl, endpoint⟩))) rfl
  | refused e => exact tells_refused _ _ _
  | issued endpoint admin s =>
    exact .record (by simp [endpoint]) (names_recordResponse (by simp) rfl)
  | revoking endpoint admin payload =>
    rw [Exchange.result_map, revokeAnswer]
    split
    · exact tells_refused _ _ _
    · exact .record (by simp [endpoint]) (names_recordResponse (by simp) rfl)
  | full => exact tells_refused _ _ _
  | unopened endpoint fault broken held =>
    exact .unshaken (Endpoint.path_eq (by rw [endpoint]; rfl)) fault broken rfl
  | opened endpoint read held => exact .nothing (.inr (.inl rfl)) rfl
  | document endpoint route method =>
    rw [Exchange.result_ask_eq, Exchange.call?_ask]
    exact tells_document route st _ o
  | payload endpoint route body read =>
    rw [Exchange.result_ask_eq, Exchange.call?_ask]
    exact tells_payload route st _ _ o

theorem tells_deep (r : Relay) (st : State) (path : request.path = "/health")
    (outcome : Except Core.Failure Core.Reply) (core : Core.Request → Core.Answer)
    (called : Option Core.Request) :
    Tells request id core called (deepHealth r st id outcome).status
      (deepHealth r st id outcome).body := by
  have hendpoint : Endpoint.ofPath request.path ∈ [.health, .issue, .revoke] := by
    rw [path]
    decide
  cases outcome with
  | error e => exact .record hendpoint (names_healthRecord r st id _ _ (.inr ⟨_, rfl⟩))
  | ok reply => exact .record hendpoint (names_healthRecord r st id _ _ (.inr ⟨_, rfl⟩))

theorem tells_inner {e : Exchange (Answer × State)} (h : Course.Inner r st m id request e)
    (o : Outside) :
    Tells request id o.core e.call? (e.result o.core o.disk).1.response.status
      (e.result o.core o.disk).1.response.body := by
  cases h with
  | denied => exact tells_refused _ _ _
  | preflight => exact .nothing (.inr (.inr (.inl rfl))) rfl
  | routed course =>
    cases course with
    | notAllowed endpoint => exact .nothing (.inr (.inr (.inr ⟨rfl, endpoint⟩))) rfl
    | repeated path twice => exact .misread path twice rfl
    | shallow path =>
      exact .record (by rw [path]; decide) (names_healthRecord r st id _ _ (.inl rfl))
    | deep path =>
      rw [Exchange.result_ask_eq]
      exact tells_deep r st path _ _ _
    | metrics path => exact .counters path rfl
    | guarded path course =>
      cases course with
      | limited => exact tells_refused _ _ _
      | unauthorized => exact tells_refused _ _ _
      | admitted buckets caller known course => exact tells_admitted course o

/-! ### Calls -/

/-- A call looks at health or fetches a document, or it passes a command on; it has the id of the
request whichever it is. -/
theorem asks_of_inner {e : Exchange (Answer × State)} (h : Course.Inner r st m id request e)
    {call : Core.Request} (hcall : e.call? = some call) :
    (∃ path query, r.client.fetch path query id = some call ∧
        (request.path = "/health" ∨ Route.classify request.path = some .raw)) ∨
      ∃ st body key, forwardBody r request = .ok body ∧
        e = .ask (r.client.command ⟨request.method, request.path, request.query, body, key⟩ id)
          (commandAnswer st id key) := by
  cases h with
  | denied => cases hcall
  | preflight => cases hcall
  | routed course =>
    cases course with
    | deep path => exact .inl ⟨_, _, Exchange.of_call?_ask hcall, .inl path⟩
    | guarded _ course =>
      cases course with
      | limited => cases hcall
      | unauthorized => cases hcall
      | admitted buckets caller known course =>
        cases course with
        | document endpoint route => exact .inl ⟨_, _, Exchange.of_call?_ask hcall, .inr route⟩
        | payload endpoint route body read => exact .inr ⟨_, body, _, read, rfl⟩
        | revoking =>
          rw [Exchange.call?_map, call?_deskRevoke] at hcall
          cases hcall
        | _ => cases hcall
    | _ => cases hcall

theorem requestId_of_inner {e : Exchange (Answer × State)} (h : Course.Inner r st m id request e)
    {call : Core.Request} (hcall : e.call? = some call) : call.requestId = id := by
  rcases asks_of_inner h hcall with ⟨_, _, hfetch, -⟩ | ⟨_, _, _, -, rfl⟩
  · exact Core.Client.requestId_of_fetch hfetch
  · exact Core.Client.requestId_of_command (Exchange.of_call?_ask hcall)

theorem method_of_forwardBody {body : Option Json.Members} (h : forwardBody r request = .ok body) :
    request.method = .get ∨ request.method = .post := by
  rw [forwardBody] at h
  split at h
  · next hget => exact .inl hget
  · split at h
    · next hpost => exact .inr hpost
    · cases h

theorem passed_of_inner {e : Exchange (Answer × State)} (h : Course.Inner r st m id request e)
    (hendpoint : Endpoint.ofPath request.path = .forward)
    (hroute : Route.classify request.path = some .json) {call : Core.Request}
    (hcall : e.call? = some call) {reply : Core.Reply} (hreply : o.core call = .ok reply)
    {bytes : Bytes} {v : Json} (hbytes : reply.bytes = .ok bytes) (hv : Core.payload? bytes = some v) :
    request.method ≠ .head ∧ (e.result o.core o.disk).1.response.status = reply.status ∧
      (e.result o.core o.disk).1.response.body
        = Utf8.encode (Core.attachRequestId id v).write := by
  rcases asks_of_inner h hcall with ⟨_, _, -, hhealth | hraw⟩ | ⟨st', body, key, hread, rfl⟩
  · rw [hhealth] at hendpoint
    cases hendpoint
  · rw [hroute] at hraw
    cases hraw
  · have hmethod : request.method ≠ .head := by
      rcases method_of_forwardBody hread with hget | hpost
      · rw [hget]
        decide
      · rw [hpost]
        decide
    -- the call was made, so what comes of it is what the core answered
    have houtcome := Exchange.outcome_of_filter o.core ((Exchange.call?_ask _ _).symm.trans hcall)
    rw [Exchange.result_ask_eq, houtcome, hreply, commandAnswer]
    simp only [Except.mapError, Except.bind, Core.JsonReply.ofReply, hbytes, hv]
    exact ⟨hmethod, rfl, rfl⟩

/-! ### What is not a record -/

theorem body_of_asksTwice (hpath : request.path = "/health") (hmethod : request.method = .get)
    (horigin : r.originDecision request ≠ .denied) (htwice : Course.AsksTwice request) :
    ((r.answer st m request).result o.core o.disk).1.response.body = Course.repeatedField.body := by
  have hendpoint : Endpoint.ofPath request.path = .health := by
    rw [hpath]
    rfl
  have hallowed : (Endpoint.health.disallowed? request.method).isNone = true := by
    rw [hmethod]
    rfl
  -- two fields or more are the case of the answer that comes first
  obtain ⟨first, second, rest, hdeep⟩ : ∃ first second rest,
      Course.deepFields request = first :: second :: rest := by
    have hlength : 2 ≤ (Course.deepFields request).length := htwice
    rcases hfields : Course.deepFields request with _ | ⟨first, _ | ⟨second, rest⟩⟩
    · exact absurd hlength (by simp [hfields])
    · exact absurd hlength (by simp [hfields])
    · exact ⟨first, second, rest, rfl⟩
  rw [Course.deepFields] at hdeep
  have hpreflight : ∀ site, r.originDecision request = .allowed site →
      request.method ≠ .options := by
    intro site _
    rw [hmethod]
    decide
  rw [answer_eq_routed horigin hpreflight, Exchange.result_map]
  simp only [routed, hendpoint, hallowed, health, hdeep]
  show (finished _ _ request Course.repeatedField).body = _
  simp only [finished, hmethod]
  rfl

theorem body_of_upgradeFault (hpath : request.path = "/ws") (hmethod : request.method = .get)
    (hin : LetIn r st m request caller) (hread : caller.holds .read = true)
    (hroom : st.connections.acquire?.isSome) {fault : Http.UpgradeFault}
    (hfault : request.upgradeFault? = some fault) :
    ((r.answer st m request).result o.core o.disk).1.response.body = fault.response.body := by
  have hendpoint : Endpoint.ofPath request.path = .realtime := by
    rw [hpath]
    rfl
  have hallowed : (Endpoint.realtime.disallowed? request.method).isSome = false := by
    rw [hmethod]
    rfl
  obtain ⟨held, hheld⟩ := Option.isSome_iff_exists.mp hroom
  obtain ⟨buckets, hanswer⟩ := answer_of_letIn hin (by simp [hendpoint]) (by simp [hendpoint])
  have hacquired : (Course.asked r (st.bump .requests) m request buckets).connections.acquire?
      = some held := hheld
  rw [hanswer, Exchange.result_map]
  simp only [admitted, hendpoint, hallowed, realtime, hread, hacquired, hfault]
  show (finished _ _ request fault.response).body = _
  simp only [finished, hmethod]
  rfl

/-! ### The whole exchange -/

/-- One id runs through an exchange: it is the request's own or a fresh one, it stands in one field of
the response and of every call, and it is the id in every record of the relay's own. What the core
answers to a forwarded request is passed on with it. A query that names its field twice and a handshake
that fails are told so without it. -/
structure Correlated (r : Relay) (st : State) (m : Moment) (request : Http.Request) (id : String)
    (o : Outside) (response : Http.Response) : Prop where
  own : request.headers.trimmed? "x-request-id" = some id ∨
    request.headers.trimmed? "x-request-id" = none ∧ IsFresh id
  field : response.headers.values "x-request-id" = [Utf8.encode id]
  calls : ∀ call, (r.answer st m request).call? = some call →
    (call.fields.filter fun f => f.1 == "x-request-id") = [("x-request-id", id)]
  told : Tells request id o.core (r.answer st m request).call? response.status response.body
  passed : Endpoint.ofPath request.path = .forward → Route.classify request.path = some .json →
    ∀ call reply bytes v, (r.answer st m request).call? = some call → o.core call = .ok reply →
      reply.bytes = .ok bytes → Core.payload? bytes = some v →
        response.status = reply.status ∧
          response.body = Utf8.encode (Core.attachRequestId id v).write ∧
          Core.Attached id v (Core.attachRequestId id v)
  misread : request.path = "/health" → request.method = .get →
    r.originDecision request ≠ .denied → Course.AsksTwice request → ¬Names id response.body
  unshaken : ∀ caller fault, request.path = "/ws" → request.method = .get →
    LetIn r st m request caller → caller.holds .read = true → st.connections.acquire?.isSome →
      request.upgradeFault? = some fault → ¬Names id response.body

/-- Whatever comes of a request, one id runs through it. -/
theorem correlated (r : Relay) (st : State) {m : Moment} (hfresh : IsFresh m.requestId)
    (request : Http.Request) (o : Outside) :
    Correlated r st m request (requestIdOf m request) o
      ((r.answer st m request).result o.core o.disk).1.response := by
  obtain ⟨e, hcourse, hanswer⟩ := course_inner r st m request
  have hcalled : (r.answer st m request).call? = e.call? := by rw [hanswer, Exchange.call?_map]
  have hresponse : ((r.answer st m request).result o.core o.disk).1.response
      = finished (r.originDecision request) (requestIdOf m request) request
          (e.result o.core o.disk).1.response := by
    rw [hanswer, Exchange.result_map]
    rfl
  constructor
  case own => exact requestIdOf_cases hfresh request
  case field =>
    rw [hresponse]
    exact values_finished (legible_requestIdOf hfresh request) _ _ _
  case calls =>
    intro call hcall
    rw [hcalled] at hcall
    rw [Core.Request.filter_fields, requestId_of_inner hcourse hcall]
  case told =>
    rw [hcalled, hresponse]
    simp only [finished]
    -- HEAD leaves nothing of what would be said, and nothing else changes a body
    split
    · next hhead => exact .nothing (.inl hhead) rfl
    · exact tells_inner hcourse o
  case passed =>
    intro hendpoint hroute call reply bytes v hcall hreply hbytes hv
    rw [hcalled] at hcall
    obtain ⟨hmethod, hstatus, hbody⟩ :=
      passed_of_inner hcourse hendpoint hroute hcall hreply hbytes hv
    rw [hresponse]
    refine ⟨hstatus, ?_, Core.attached_attachRequestId _ v⟩
    simp only [finished, if_neg hmethod]
    exact hbody
  case misread =>
    intro hpath hmethod horigin htwice
    rw [body_of_asksTwice hpath hmethod horigin htwice]
    exact not_names_repeatedField _
  case unshaken =>
    intro caller fault hpath hmethod hin hread hroom hfault
    rw [body_of_upgradeFault hpath hmethod hin hread hroom hfault]
    exact not_names_fault _ fault

def freshId : String :=
  "0123456789abcdef" ++ "0123456789abcdef"

theorem isFresh_freshId : IsFresh freshId := by
  have htwice (s : String) : ∀ c ∈ (s ++ s).toList, c ∈ s.toList := by
    intro c hc
    rw [String.toList_append, List.mem_append] at hc
    exact hc.elim id id
  exact ⟨by decide, htwice "0123456789abcdef"⟩

/-- A core that takes every job, and a disk that takes every file. -/
def Outside.willing : Outside :=
  ⟨fun _ => .ok ⟨202, [], .whole (Utf8.encode "\x7b\"job\":\"j1\"\x7d")⟩, fun _ => none⟩

/-- A look at health that names its field twice. -/
def twiceRequest : Http.Request :=
  ⟨.get, "/health", some "deep=1&deep=1", [], [], none, false⟩

theorem correlated_run :
    IsFresh freshId ∧
      Correlated unrestricted .initial ⟨0, 0, freshId, "s1"⟩ runRequest freshId Outside.willing
        ((unrestricted.answer .initial ⟨0, 0, freshId, "s1"⟩ runRequest).result
          Outside.willing.core Outside.willing.disk).1.response ∧
      ((unrestricted.answer .initial ⟨0, 0, freshId, "s1"⟩ runRequest).result
          Outside.willing.core Outside.willing.disk).1.response.body
        = Utf8.encode ("\x7b\"job\":\"j1\",\"request_id\":\"" ++ freshId ++ "\"\x7d") ∧
      Course.AsksTwice twiceRequest ∧
      ¬Names freshId ((unrestricted.answer .initial ⟨0, 0, freshId, "s1"⟩ twiceRequest).result
        Outside.willing.core Outside.willing.disk).1.response.body := by
  have htwice : Course.AsksTwice twiceRequest := by decide +kernel
  have hcorrelated (request : Http.Request) :=
    correlated unrestricted .initial (m := ⟨0, 0, freshId, "s1"⟩) isFresh_freshId request
      Outside.willing
  exact ⟨isFresh_freshId, hcorrelated runRequest, by decide +kernel, htwice,
    (hcorrelated twiceRequest).misread rfl rfl nofun htwice⟩

end Relay

end Gatehouse
