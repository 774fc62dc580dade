import Gatehouse.Proofs.Core.Exchange
import Gatehouse.Proofs.Live.Command
import Gatehouse.Proofs.Live.Relaying
import Gatehouse.Proofs.Relay.Gated

/-!
# One forwarder behind two transports

A command reaches the core as a request of its own or in a frame of a realtime session. Either way
the same check of scopes decides, the same call is made but for its id, and what comes back is shown
as the same status, payload, key and replay, or as the same failure. The one thing that the two read
differently is a key outside visible ASCII: a request loses it, because a field with such a value
counts as absent, while a frame brings it to the core.
-/

namespace Gatehouse

/-! ### Commands as requests -/

namespace Command

/-- A request that carries a command. Its body is within the limit and nested no deeper than a frame
could carry it. -/
structure InRequest (c : Command) (limit : Nat) (request : Http.Request) : Prop where
  method : request.method = c.method
  path : request.path = c.path
  query : request.query = c.query
  key : request.headers.first? "idempotency-key" = c.key.map Utf8.encode
  short : request.body.length ≤ limit
  body : ((Utf8.decode? request.body).bind Json.Written.ofText?).bind
    (Json.value? (Json.maxDepth - 1)) = some (.object c.body)

/-- The key that a request is heard to name. -/
def heard (c : Command) : Option String :=
  c.key.filter fun k => decide (Header.Legible k)

/-- The call that a request makes for a command: only a POST has a body. -/
def call (c : Command) : Core.Call :=
  { c.plan.call with
    body := if c.method = .post then some c.body else none
    idempotencyKey := c.heard }

variable {c : Command} {limit : Nat} {request : Http.Request}

theorem InRequest.readRecord (h : c.InRequest limit request) :
    Relay.readRecord limit request.body = .ok c.body := by
  obtain ⟨w, hw, hvalue⟩ := Option.bind_eq_some_iff.mp h.body
  obtain ⟨s, hs, htree⟩ := Option.bind_eq_some_iff.mp hw
  have hdeep : Json.value? Json.maxDepth w = some (.object c.body) :=
    Json.value?_succ (Json.maxDepth - 1) w _ hvalue
  have hbytes : Json.ofBytes? request.body = some (.object c.body) := by
    rw [Json.ofBytes?, hs, Option.bind_some, Json.ofText?, htree, Option.bind_some, hdeep]
  rw [Relay.readRecord, if_neg (Nat.not_lt.mpr h.short), Json.not_isBlankBody hs htree, hbytes]
  rfl

theorem InRequest.forwardBody {r : Relay} (h : c.InRequest r.config.maxBody request) (hc : c.Plain) :
    Relay.forwardBody r request = .ok c.call.body := by
  rw [Relay.forwardBody, h.method]
  rcases hc.method with hget | hpost
  · rw [if_pos hget]
    show _ = Except.ok (if c.method = .post then some c.body else none)
    rw [hget]
    rfl
  · rw [if_neg (by rw [hpost]; decide), if_pos hpost, h.readRecord]
    show _ = Except.ok (if c.method = .post then some c.body else none)
    rw [if_pos hpost]
    rfl

theorem of_heard {k : String} (h : c.heard = some k) : c.key = some k ∧ Header.Legible k := by
  obtain ⟨hkey, hlegible⟩ := Option.filter_eq_some_iff.mp h
  exact ⟨hkey, of_decide_eq_true hlegible⟩

/-- What is heard of a key has no blanks around it, as the key has none. -/
theorem heard_bind_nonBlank? (hc : c.Plain) : c.heard.bind Text.nonBlank? = c.heard := by
  cases h : c.heard with
  | none => rfl
  | some k =>
    have hkey := hc.key
    rw [(of_heard h).1] at hkey
    exact hkey

theorem InRequest.trimmed?_key (h : c.InRequest limit request) (hc : c.Plain) :
    request.headers.trimmed? "idempotency-key" = c.heard := by
  have htext : request.headers.text? "idempotency-key" = c.heard := by
    rw [Headers.text?, h.key, heard]
    cases c.key with
    | none => rfl
    | some k => exact Header.text?_encode k
  rw [Headers.trimmed?, htext, heard_bind_nonBlank? hc]

end Command

namespace Relay

variable {c : Command}

theorem ofPath_of_plain (h : c.Plain) : Endpoint.ofPath c.path = .forward := by
  have hroute := h.route
  have hhealth := h.health
  rw [Endpoint.ofPath.eq_def]
  split
  · next hpath => exact absurd hpath hhealth
  · next hpath => rw [hpath] at hroute; revert hroute; decide
  · next hpath => rw [hpath] at hroute; revert hroute; decide
  · next hpath => rw [hpath] at hroute; revert hroute; decide
  · next hpath => rw [hpath] at hroute; revert hroute; decide
  · rfl

/-- The answer to a forwarded command, for what came of its call. -/
def commandAnswer (st : State) (requestId : String) (key : Option String)
    (outcome : Except Core.Failure Core.Reply) : Answer × State :=
  match outcome.bind (Core.JsonReply.ofReply requestId) with
  | .error e => (.refused (.core e) requestId, st.bump .coreErrors)
  | .ok reply =>
    (.of (replyResponse reply key), st.bumpIf .coreErrors (Core.isServerError reply.status))

/-- A request that carries a command is refused for want of a scope, or is one call. -/
theorem admitted_of_inRequest (r : Relay) (st : State) (m : Moment) (requestId : String)
    (caller : Caller) (hc : c.Plain)
    {request : Http.Request} (h : c.InRequest r.config.maxBody request) :
    r.admitted st m requestId caller request
      = if caller.mayAccess r.config.unscopedPolicy c.method c.path then
          .ask (r.client.command c.call requestId) (commandAnswer st requestId c.heard)
        else .done (.refused .forbidden requestId, st) := by
  have hendpoint : Endpoint.ofPath request.path = .forward := by
    rw [h.path]
    exact ofPath_of_plain hc
  have hadmitted : r.admitted st m requestId caller request
      = r.forward st requestId caller request := by
    rw [admitted, hendpoint]
    rfl
  have hjson : r.forwardJson st requestId request
      = .ask (r.client.command c.call requestId) (commandAnswer st requestId c.heard) := by
    rw [forwardJson, h.forwardBody hc]
    simp only [h.method, h.path, h.query, h.trimmed?_key hc]
    rfl
  rw [hadmitted, forward, h.path, h.method, hc.route]
  cases caller.mayAccess r.config.unscopedPolicy c.method c.path with
  | true => exact hjson
  | false => rfl

end Relay

/-! ### Commands in frames -/

namespace Live.Session

variable {c : Command}

/-- The reply to a relayed command, for what came of its call. -/
def commandReply (s : Session) (plan : Plan) (cursor : Int) (commandId : String)
    (outcome : Except Core.Failure Core.Reply) : Handled :=
  match outcome.bind (Core.JsonReply.ofReply commandId) with
  | .ok r => ⟨s.record (("id", .null) :: replyMembers plan commandId r), cursor, false⟩
  | .error e => ⟨s.record (("id", .null) :: errorMembers e.message), cursor, true⟩

/-- The members of the reply to a command that the caller's scopes do not allow. -/
def forbiddenMembers (c : Command) : Json.Members :=
  errorMembers "forbidden by token scope" ++
    [("path", .text c.path), ("method", .text c.method.name)]

/-- A frame that carries a command is refused for want of a scope, or is one call. -/
theorem handle_of_inFrame (s : Session) (cursor : Int) (commandId : String) (hc : c.Plain)
    {frame : String} (h : c.InFrame frame) :
    s.handle cursor commandId frame
      = if s.caller.mayAccess s.policy c.method c.path then
          .ask (s.client.command c.plan.call commandId) (s.commandReply c.plan cursor commandId)
        else .done ⟨s.record (("id", .null) :: forbiddenMembers c), cursor, false⟩ := by
  rw [Command.handle_eq_relay hc h, s.relay_of_classify hc.route]
  rfl

end Live.Session

/-! ### What comes back -/

namespace Core

/-- Whatever a call came to, it failed for every id, or it brought a reply to which an id only adds
itself. A key in the reply was read from a field. -/
theorem bind_ofReply_cases (outcome : Except Failure Reply) :
    (∃ e, ∀ id, outcome.bind (JsonReply.ofReply id) = .error e) ∨
      ∃ reply : JsonReply, (∀ id, outcome.bind (JsonReply.ofReply id)
          = .ok { reply with payload := attachRequestId id reply.payload }) ∧
        ∀ k, reply.idempotencyKey = some k → Header.Legible k := by
  cases outcome with
  | error e => exact .inl ⟨e, fun id => rfl⟩
  | ok r =>
    cases hbytes : r.bytes with
    | error e =>
      refine .inl ⟨e, fun id => ?_⟩
      show JsonReply.ofReply id r = _
      rw [JsonReply.ofReply, hbytes]
    | ok bytes =>
      cases hpayload : payload? bytes with
      | none =>
        refine .inl ⟨.invalidJson, fun id => ?_⟩
        show JsonReply.ofReply id r = _
        simp only [JsonReply.ofReply, hbytes, hpayload]
      | some v =>
        refine .inr ⟨⟨r.status, v, r.headers.trimmed? "x-request-id",
          r.headers.trimmed? "idempotency-key",
          (r.headers.trimmed? "x-idempotency-replayed").any (Text.sameLetters "true")⟩,
          fun id => ?_, fun k hk => Headers.legible_of_trimmed? hk⟩
        show JsonReply.ofReply id r = _
        simp only [JsonReply.ofReply, hbytes, hpayload]

end Core

namespace Relay

/-- A reply of the core as a response and as the members of a record: the status, the payload with
the id of the call that it answers, the key that either names, and whether the reply is a replay. -/
structure Shown (requestId commandId : String) (status : Nat) (payload : Json)
    (heard key : Option String) (replayed : Bool) (response : Http.Response)
    (members : Json.Members) : Prop where
  kind : Keyed.get? "type" members = some (.text "command_result")
  status : response.status = status ∧ Keyed.get? "status" members = some (.nat status)
  payload : response.body = Utf8.encode (Core.attachRequestId requestId payload).write ∧
    Keyed.get? "payload" members = some (Core.attachRequestId commandId payload)
  key : response.headers.text? "idempotency-key" = heard ∧
    Keyed.get? "idempotency_key" members = some (Json.text? key)
  replayed : (response.headers.text? "x-idempotency-replayed" = some "true" ↔ replayed = true) ∧
    Keyed.get? "replayed" members = some (.bool replayed)

theorem body_response (r : Refusal) (requestId : String) :
    ∃ told, (r.response requestId).body = Utf8.encode (Json.object told).write ∧
      Keyed.get? "error" told = some (.text r.message) := by
  have hdistinct : ([("error", Json.text r.message), ("request_id", Json.text requestId)].map
      Prod.fst).Nodup := by
    simp
  refine ⟨_, ?_, (Keyed.get?_ofPairs hdistinct _).trans rfl⟩
  rw [Refusal.response, Http.Response.json, Http.Response.ofText, Refusal.record, Json.record]

/-- A response and a record that tell of the same failure, or of the same reply of the core. A key
that the core names is the key of both; otherwise they name those that they were given. -/
inductive Alike (requestId commandId : String) (heard key : Option String)
    (response : Http.Response) : Json → Prop where
  | failed {told members : Json.Members} (e : Core.Failure) (status : response.status = e.status)
    (body : response.body = Utf8.encode (Json.object told).write)
    (text : Keyed.get? "error" told = some (.text e.message))
    (kind : Keyed.get? "type" members = some (.text "error"))
    (error : Keyed.get? "error" members = some (.text e.message)) :
    Alike requestId commandId heard key response (.object members)
  | replied {members : Json.Members} (status : Nat) (payload : Json) (named : Option String)
    (replayed : Bool)
    (shown : Shown requestId commandId status payload (named.or heard) (named.or key) replayed
      response members) :
    Alike requestId commandId heard key response (.object members)

/-! ### Fields of the response -/

section KeyFields

variable {key : Option String} {h : Headers}

theorem keyFields_of_not (h : Headers) : keyFields none false h = h := rfl

theorem keyFields_eq (replayed : Bool) (hkey : (key.isSome || replayed) = true) (h : Headers) :
    keyFields key replayed h
      = (key.elim h fun k => h.setText "idempotency-key" k).set "x-idempotency-replayed"
          (Utf8.encode (if replayed then "true" else "false")) := by
  unfold keyFields
  rw [if_pos hkey]
  cases key <;> rfl

theorem text?_keyFields_key (hkey : ∀ k, key = some k → Header.Legible k) (replayed : Bool)
    (hfree : h.text? "idempotency-key" = none) :
    (keyFields key replayed h).text? "idempotency-key" = key := by
  cases key with
  | none =>
    cases replayed with
    | true => exact (Headers.text?_set_of_ne (by decide) _ h).trans hfree
    | false => exact hfree
  | some k =>
    have hlegible := hkey k rfl
    rw [keyFields_eq replayed rfl, Headers.text?_set_of_ne (by decide), Option.elim_some,
      Headers.setText, hlegible.value?_eq]
    exact (Headers.text?_set_self _ _ h).trans hlegible.text?_encode

theorem text?_keyFields_replayed (key : Option String) (replayed : Bool)
    (hfree : h.text? "x-idempotency-replayed" = none) :
    (keyFields key replayed h).text? "x-idempotency-replayed" = some "true" ↔ replayed = true := by
  by_cases hshown : (key.isSome || replayed) = true
  · have htext : ∀ s, Header.Legible s → Header.text? (Utf8.encode s) = some s := fun s hs =>
      hs.text?_encode
    rw [keyFields_eq replayed hshown, Headers.text?_set_self]
    cases replayed with
    | true =>
      rw [if_pos rfl, htext "true" (by decide)]
      exact iff_of_true rfl rfl
    | false =>
      rw [if_neg Bool.false_ne_true, htext "false" (by decide)]
      decide
  · rw [Bool.or_eq_true, not_or, Bool.not_eq_true, Bool.not_eq_true, Option.isSome_eq_false_iff,
      Option.isNone_iff_eq_none] at hshown
    obtain ⟨rfl, rfl⟩ := hshown
    rw [keyFields_of_not, hfree]
    simp

end KeyFields

/-! ### The two transports -/

variable {c : Command} {requestId commandId : String}

/-- Whatever a call came to, both transports tell the same of it. -/
theorem alike_of_outcome (st : State) (s : Live.Session) (cursor : Int)
    (outcome : Except Core.Failure Core.Reply) :
    Alike requestId commandId c.heard c.key (commandAnswer st requestId c.heard outcome).1.response
      (s.commandReply c.plan cursor commandId outcome).reply := by
  rcases Core.bind_ofReply_cases outcome with ⟨e, hfailed⟩ | ⟨reply, hreply, hlegible⟩
  · have hdistinct : ((("id", Json.null) :: Live.errorMembers e.message
        ++ [("request_id", Json.text s.requestId)]).map Prod.fst).Nodup := by
      simp [Live.errorMembers]
    obtain ⟨told, hbody, htext⟩ := body_response (.core e) requestId
    rw [commandAnswer, Live.Session.commandReply, hfailed requestId, hfailed commandId]
    refine .failed e rfl hbody htext ?_ ?_
    · exact (Keyed.get?_ofPairs hdistinct _).trans rfl
    · exact (Keyed.get?_ofPairs hdistinct _).trans rfl
  · have hboth : ∀ k, reply.idempotencyKey.or c.heard = some k → Header.Legible k := by
      intro k hk
      rcases Option.or_eq_some_iff.mp hk with hk | ⟨-, hk⟩
      · exact hlegible k hk
      · exact (Command.of_heard hk).2
    have hdistinct : ((("id", Json.null) :: Live.Session.replyMembers c.plan commandId
        { reply with payload := Core.attachRequestId commandId reply.payload }
        ++ [("request_id", Json.text s.requestId)]).map Prod.fst).Nodup := by
      simp [Live.Session.replyMembers, Command.plan]
    rw [commandAnswer, Live.Session.commandReply, hreply requestId, hreply commandId]
    refine .replied reply.status reply.payload reply.idempotencyKey reply.replayed
      ⟨?_, ⟨rfl, ?_⟩, ⟨rfl, ?_⟩, ⟨?_, ?_⟩, ?_, ?_⟩
    · exact (Keyed.get?_ofPairs hdistinct _).trans rfl
    · exact (Keyed.get?_ofPairs hdistinct _).trans rfl
    · exact (Keyed.get?_ofPairs hdistinct _).trans rfl
    · exact text?_keyFields_key hboth reply.replayed rfl
    · exact (Keyed.get?_ofPairs hdistinct _).trans rfl
    · exact text?_keyFields_replayed _ reply.replayed rfl
    · exact (Keyed.get?_ofPairs hdistinct _).trans rfl

/-- Neither transport asks the core, and both say that a scope is missing. -/
structure Refuses (requestId : String) (rest : Exchange (Answer × State))
    (live : Exchange Live.Handled) : Prop where
  rest : ∃ st, rest = .done (.refused .forbidden requestId, st)
  live : ∃ handled members, live = .done handled ∧ handled.reply = .object members ∧
    Keyed.get? "type" members = some (.text "error") ∧
    Keyed.get? "error" members = some (.text "forbidden by token scope")

/-- Both transports make the same call but for its id and its key, one wherever the core can be asked
at all, and both tell the same of whatever the core answers. The request's call is made under the key
that is heard, the frame's under the key of the command. -/
structure Relays (client : Core.Client) (requestId commandId : String) (heard key : Option String)
    (rest : Exchange (Answer × State)) (live : Exchange Live.Handled) : Prop where
  calls : rest.call?.map Core.Request.bare = live.call?.map Core.Request.bare
  keys : (∀ call ∈ rest.call?, call.idempotencyKey = heard) ∧
    ∀ call ∈ live.call?, call.idempotencyKey = key
  sent : client.CanAsk → rest.call?.isSome
  replies : ∀ (answer : Core.Answer) (disk : FileWrite → Option String),
    Alike requestId commandId heard key (rest.result (fun _ => answer) disk).1.response
      (live.result (fun _ => answer) disk).reply

theorem refuses_of_forbidden (s : Live.Session) (st : State) (cursor : Int) (c : Command) :
    Refuses requestId (.done (.refused .forbidden requestId, st))
      (.done ⟨s.record (("id", .null) :: Live.Session.forbiddenMembers c), cursor, false⟩) := by
  have hdistinct : ((("id", Json.null) :: Live.Session.forbiddenMembers c
      ++ [("request_id", Json.text s.requestId)]).map Prod.fst).Nodup := by
    simp [Live.Session.forbiddenMembers, Live.errorMembers]
  refine ⟨⟨st, rfl⟩, ⟨_, _, rfl, rfl, ?_, ?_⟩⟩
  · exact (Keyed.get?_ofPairs hdistinct _).trans rfl
  · exact (Keyed.get?_ofPairs hdistinct _).trans rfl

theorem relays_of_allowed {client : Core.Client} (hc : c.Plain)
    (hrequestId : (Header.value? requestId).isSome) (hcommandId : (Header.value? commandId).isSome)
    (s : Live.Session) (st : State) (cursor : Int) :
    Relays client requestId commandId c.heard c.key
      (.ask (client.command c.call requestId) (commandAnswer st requestId c.heard))
      (.ask (client.command c.plan.call commandId)
        (s.commandReply c.plan cursor commandId)) := by
  have hheard : ∀ k, c.heard.bind Text.nonBlank? = some k → (Header.value? k).isSome := by
    rw [Command.heard_bind_nonBlank? hc]
    exact fun k hk => hc.sendable k (Command.of_heard hk).1
  have hkey : ∀ k, c.key.bind Text.nonBlank? = some k → (Header.value? k).isSome := by
    rw [hc.key]
    exact hc.sendable
  -- ids and keys differ, but either may be sent: so one call goes out just if the other does
  have hsame : (client.command c.call requestId).map Core.Request.bare
      = (client.command c.plan.call commandId).map Core.Request.bare :=
    client.command_bare c.plan.call (fun hpost => if_pos hpost) c.heard requestId commandId
  have hrest : ∀ call ∈ client.command c.call requestId, call.bare.isSendable = call.isSendable :=
    fun _ hcall => Core.Client.isSendable_bare_of_command hrequestId hheard hcall
  have hlive : ∀ call ∈ client.command c.plan.call commandId,
      call.bare.isSendable = call.isSendable :=
    fun _ hcall => Core.Client.isSendable_bare_of_command hcommandId hkey hcall
  constructor
  case calls =>
    rw [Exchange.call?_ask, Exchange.call?_ask]
    exact Exchange.filter_isSendable_map hsame hrest hlive
  case keys =>
    constructor
    · intro call hcall
      rw [Core.Client.idempotencyKey_of_command (Exchange.of_call?_ask hcall)]
      exact Command.heard_bind_nonBlank? hc
    · intro call hcall
      rw [Core.Client.idempotencyKey_of_command (Exchange.of_call?_ask hcall)]
      exact hc.key
  case sent =>
    intro hcan
    obtain ⟨call, hcall, hsend⟩ :
        ∃ call, client.command c.call requestId = some call ∧ call.isSendable = true :=
      hcan.isSendable_command hrequestId hheard
    rw [Exchange.call?_ask, hcall, Option.filter_some, if_pos hsend]
    rfl
  case replies =>
    intro answer disk
    rw [Exchange.result_ask_eq, Exchange.result_ask_eq, Exchange.outcome_of_map hsame hrest hlive]
    exact alike_of_outcome st s cursor _

/-- The id of a request may be sent: it was read from a field, or it is a fresh one. -/
theorem isSome_value?_requestIdOf {m : Moment} (hm : Header.Legible m.requestId)
    (request : Http.Request) : (Header.value? (requestIdOf m request)).isSome := by
  have hlegible : Header.Legible (requestIdOf m request) := by
    rw [requestIdOf]
    cases hid : request.headers.trimmed? "x-request-id" with
    | none => exact hm
    | some id => exact Headers.legible_of_trimmed? hid
  rw [hlegible.value?_eq]
  rfl

/-- A command is relayed alike whether it comes as a request or in a frame of a session of the same
caller: where the caller's scopes allow it, the same call is made and whatever the core answers is
told alike; where they do not, it is refused and the core is not asked. Only a key that is not
legible tells the two apart: a request is relayed as if it named none. -/
theorem forwards_alike (r : Relay) (st : State) {m : Moment} (caller : Caller) (opened : String)
    (parameters : Option String) (cursor : Int) (hfresh : Header.Legible m.requestId)
    (hcommandId : Header.Legible commandId) (hc : c.Plain)
    {request : Http.Request} (hrequest : c.InRequest r.config.maxBody request)
    {frame : String} (hframe : c.InFrame frame) :
    (caller.mayAccess r.config.unscopedPolicy c.method c.path = true →
      Relays r.client (requestIdOf m request) commandId c.heard c.key
        (r.admitted st m (requestIdOf m request) caller request)
        ((r.sessionOf caller opened parameters).handle cursor commandId frame)) ∧
    (caller.mayAccess r.config.unscopedPolicy c.method c.path = false →
      Refuses (requestIdOf m request) (r.admitted st m (requestIdOf m request) caller request)
        ((r.sessionOf caller opened parameters).handle cursor commandId frame)) := by
  have hsendable : (Header.value? commandId).isSome := by
    rw [hcommandId.value?_eq]
    rfl
  have hlive : (r.sessionOf caller opened parameters).handle cursor commandId frame
      = if caller.mayAccess r.config.unscopedPolicy c.method c.path then
          .ask (r.client.command c.plan.call commandId)
            ((r.sessionOf caller opened parameters).commandReply c.plan cursor commandId)
        else .done ⟨(r.sessionOf caller opened parameters).record
          (("id", .null) :: Live.Session.forbiddenMembers c), cursor, false⟩ :=
    Live.Session.handle_of_inFrame _ cursor commandId hc hframe
  rw [admitted_of_inRequest r st m _ caller hc hrequest, hlive]
  constructor
  · intro hallowed
    rw [if_pos hallowed, if_pos hallowed]
    exact relays_of_allowed hc (isSome_value?_requestIdOf hfresh request) hsendable _ st cursor
  · intro hforbidden
    have hnot : ¬caller.mayAccess r.config.unscopedPolicy c.method c.path = true := by
      rw [hforbidden]
      exact Bool.false_ne_true
    rw [if_neg hnot, if_neg hnot]
    exact refuses_of_forbidden _ st cursor c

/-! ### An order under a key -/

def runBody : Json.Members :=
  [("task", .text "list")]

def runUnder (key : String) : Command :=
  ⟨.post, "/run", none, runBody, some key⟩

def runUnderRequest (key : String) : Http.Request :=
  ⟨.post, "/run", none, [("idempotency-key", Utf8.encode key)],
    Utf8.encode (Json.object runBody).write, none, false⟩

def runUnderMembers (key : String) : Json.Members :=
  [("type", .text "command"), ("method", .text "POST"), ("path", .text "/run"),
    ("body", .object runBody), ("idempotency_key", .text key)]

def runUnderFrame (key : String) : String :=
  (Json.object (runUnderMembers key)).write

theorem plain_runUnder {key : String} (hblank : Text.nonBlank? key = some key)
    (hsendable : (Header.value? key).isSome) : (runUnder key).Plain where
  method := .inr rfl
  route := show Route.classify "/run" = some .json by decide
  health := show "/run" ≠ "/health" by decide
  path := show Text.trim "/run" = "/run" by decide
  query := rfl
  key := hblank
  sendable k hk := Option.some.inj hk ▸ hsendable

theorem plain_runUnder_k1 : (runUnder "k1").Plain :=
  plain_runUnder (by decide) (by decide)

theorem exact_runBody : Json.Exact (.object runBody) := by
  refine .object fun p hp => ?_
  rw [List.mem_singleton.mp hp]
  exact .text _

theorem value?_runBody (d : Nat) :
    Json.value? (d + 1) (Json.tree (.object runBody)) = some (.object runBody) := by
  simp [runBody, Json.tree, Json.memberTrees, Json.value?, Json.pairs?, Keyed.ofPairs,
    Keyed.insert]

theorem inRequest_runUnder (key : String) :
    (runUnder key).InRequest unrestricted.config.maxBody (runUnderRequest key) := by
  have hshort : (Utf8.encode (Json.object runBody).write).length ≤ unrestricted.config.maxBody := by
    decide +kernel
  refine ⟨rfl, rfl, rfl, rfl, hshort, ?_⟩
  show ((Utf8.decode? (Utf8.encode (Json.object runBody).write)).bind _).bind _ = _
  rw [Utf8.decode?_encode, Option.bind_some, Json.Written.ofText?_write exact_runBody,
    Option.bind_some]
  exact value?_runBody (Json.maxDepth - 2)

theorem inFrame_runUnder (key : String) : (runUnder key).InFrame (runUnderFrame key) := by
  have hexact : Json.Exact (.object (runUnderMembers key)) := by
    refine .object fun p hp => ?_
    simp only [runUnderMembers, List.mem_cons, List.not_mem_nil, or_false] at hp
    rcases hp with rfl | rfl | rfl | rfl | rfl
    · exact .text _
    · exact .text _
    · exact .text _
    · exact exact_runBody
    · exact .text _
  have htext (s : String) (d : Nat) : Json.value? d (Json.tree (.text s)) = some (.text s) := by
    simp [Json.tree, Json.value?]
  refine ⟨_, runUnderMembers key, Json.Written.ofText?_write hexact, ?_, ?_⟩
  · have hbody : Json.value? (Json.maxDepth - 1) (Json.tree (.object runBody))
        = some (.object runBody) := value?_runBody (Json.maxDepth - 2)
    simp only [runUnderMembers, Json.memberTrees, Json.pairs?, Json.unitsText?_units, htext, hbody]
  · constructor
    · simp [runUnderMembers, Command.fieldNames]
    · simp [runUnderMembers]
    all_goals rfl

theorem plain_runUnder_accented : (runUnder "é").Plain :=
  plain_runUnder (by decide) (by decide)

/-- The key of this order may be sent, and a frame sends it, but a request loses it. -/
theorem forwards_alike_run :
    (runUnder "é").Plain ∧
      Relays unrestricted.client "r1" "c1" none (some "é")
        (unrestricted.admitted .initial ⟨0, 0, "r1", "s1"⟩ "r1" .openAccess (runUnderRequest "é"))
        ((unrestricted.sessionOf .openAccess "r0" none).handle 0 "c1" (runUnderFrame "é")) ∧
      (unrestricted.admitted .initial ⟨0, 0, "r1", "s1"⟩ "r1" .openAccess
        (runUnderRequest "é")).call?.isSome := by
  have hfresh : Header.Legible "r1" := by decide
  have hcommandId : Header.Legible "c1" := by decide
  have hcan : unrestricted.client.CanAsk := ⟨⟨_, rfl⟩, fun value hvalue => by cases hvalue⟩
  have halike := forwards_alike unrestricted .initial (m := ⟨0, 0, "r1", "s1"⟩) .openAccess "r0" none
    0 hfresh hcommandId plain_runUnder_accented (inRequest_runUnder "é") (inFrame_runUnder "é")
  have hrelays := halike.1 (by decide)
  exact ⟨plain_runUnder_accented, hrelays, hrelays.sent hcan⟩

/-- A command is not always relayed alike: not under a key that is not legible. -/
theorem not_forwards_alike :
    ¬∀ (r : Relay) (st : State) (m : Moment) (caller : Caller) (opened : String)
      (parameters : Option String) (cursor : Int) (commandId : String) (c : Command)
      (request : Http.Request) (frame : String),
      Header.Legible m.requestId → Header.Legible commandId → c.Plain →
      c.InRequest r.config.maxBody request → c.InFrame frame →
      Refuses (requestIdOf m request) (r.admitted st m (requestIdOf m request) caller request)
          ((r.sessionOf caller opened parameters).handle cursor commandId frame) ∨
        Relays r.client (requestIdOf m request) commandId c.key c.key
          (r.admitted st m (requestIdOf m request) caller request)
          ((r.sessionOf caller opened parameters).handle cursor commandId frame) := by
  intro halike
  have hcalled : (unrestricted.admitted .initial ⟨0, 0, "r1", "s1"⟩ "r1" .openAccess
      (runUnderRequest "é")).call?.map Core.Request.idempotencyKey = some none := by
    decide +kernel
  obtain ⟨call, hcall, hunkeyed⟩ := Option.map_eq_some_iff.mp hcalled
  rcases halike unrestricted .initial ⟨0, 0, "r1", "s1"⟩ .openAccess "r0" none 0 "c1" (runUnder "é")
    (runUnderRequest "é") (runUnderFrame "é") (by decide) (by decide) plain_runUnder_accented
    (inRequest_runUnder "é") (inFrame_runUnder "é") with hrefuses | hrelays
  · obtain ⟨st, hrest⟩ := hrefuses.rest
    have hquiet : (unrestricted.admitted .initial ⟨0, 0, "r1", "s1"⟩ "r1" .openAccess
        (runUnderRequest "é")).call? = none := congrArg Exchange.call? hrest
    rw [hquiet] at hcall
    cases hcall
  · have hkeyed : call.idempotencyKey = some "é" := hrelays.keys.1 call hcall
    rw [hunkeyed] at hkeyed
    cases hkeyed

end Relay

end Gatehouse
