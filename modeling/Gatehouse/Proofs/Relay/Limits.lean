import Gatehouse.Proofs.Live.Typed
import Gatehouse.Proofs.Relay.Course

/-!
# The limit on bodies

A POST with a body over the limit is refused before the core is asked, and of every other request the
body stays behind. A session does not know the limit, though: what a message posts is sent on however
long it is, and so is a command that would be refused as a request.
-/

namespace Gatehouse

/-! ### What a message posts -/

namespace Message

/-- The body that a message posts: the one that it carries, or its keystrokes. -/
def posted (m : Message) : Json.Members :=
  if Text.lower (Text.trim m.kind) = "terminal_input" then
    [("input", .text (m.terminalInput.getD ""))]
  else m.body.getD []

variable {m : Message} {plan : Live.Plan}

theorem body_of_command (h : m.command = .call plan) : plan.call.body = m.body := by
  rw [command] at h
  split at h
  · cases h
  · split at h
    · cases h
    · cases h
      rfl

theorem posted_of_kind {name : String} (hkind : m.IsKind name) (hname : name ≠ "terminal_input") :
    m.posted = m.body.getD [] := by
  rw [posted, if_neg (hkind.eq ▸ hname)]

theorem StandsFor.body {call : Core.Call} (h : m.StandsFor call) (hpost : call.method = .post) :
    call.body = some m.posted := by
  have hget : Method.get ≠ .post := by decide
  cases h with
  | list | poll | read => exact absurd hpost hget
  | start kind => rw [posted_of_kind kind (by decide)]
  | close kind => rw [posted_of_kind kind (by decide)]
  | type kind session input typed =>
    rw [posted, if_pos kind.eq, terminalInput_eq_some_iff.mpr ⟨input, typed⟩, Option.getD_some]
  | act kind known =>
    have hnames : ∀ name ∈ browserNames, "browser_" ++ name ≠ "terminal_input" := by decide
    rw [posted_of_kind kind (hnames _ known)]

/-- Whatever kind of message it is, a call that posts has the body of the message. -/
theorem body_of_wish (h : m.wish = .call plan) (hpost : plan.call.method = .post) :
    plan.call.body.getD [] = m.posted := by
  by_cases hkind : m.IsKind "command"
  · rw [wish_of_command hkind] at h
    rw [posted_of_kind hkind (by decide), body_of_command h]
  · rw [(standsFor_of_wish hkind h).body hpost, Option.getD_some]

end Message

namespace Relay

variable {r : Relay} {st : State} {m : Moment} {requestId : String} {caller : Caller}
  {request : Http.Request}

/-! ### Requests -/

/-- A request whose body is read: it is forwarded, or it is an order of an admin. -/
inductive Reads (r : Relay) (caller : Caller) (request : Http.Request) : Prop where
  | forwarded (route : Route.classify request.path = some .json)
    (endpoint : Endpoint.ofPath request.path = .forward)
    (access : caller.mayAccess r.config.unscopedPolicy .post request.path = true)
  | ordered (endpoint : Endpoint.ofPath request.path = .issue ∨
      Endpoint.ofPath request.path = .revoke)
    (admin : caller.holds .admin = true)

def tooLong (requestId : String) : Http.Response :=
  (Refusal.badRequest "request body too large").response requestId

theorem readRecord_of_lt {limit : Nat} {body : Bytes} (h : limit < body.length) :
    readRecord limit body = .error (.badRequest "request body too large") :=
  if_pos h

theorem admitted_of_lt (hpost : request.method = .post)
    (hlong : r.config.maxBody < request.body.length) (h : Reads r caller request) (st : State)
    (m : Moment) (requestId : String) :
    r.admitted st m requestId caller request = .done (.of (tooLong requestId), st) := by
  have hread := readRecord_of_lt hlong
  cases h with
  | forwarded route endpoint access =>
    have hbody : forwardBody r request = .error (.badRequest "request body too large") := by
      rw [forwardBody, hpost, if_neg (by decide), if_pos rfl, hread]
      rfl
    have hallowed : caller.mayAccess r.config.unscopedPolicy request.method request.path = true := by
      rw [hpost]
      exact access
    rw [admitted, endpoint]
    show forward r st requestId caller request = _
    simp only [forward, route, hallowed, forwardJson, hbody]
    rfl
  | ordered endpoint admin =>
    have hrecord : adminRecord r caller request.body
        = .error (.badRequest "request body too large") := by
      rw [adminRecord, if_pos admin, hread]
    rcases endpoint with hissue | hrevoke
    · simp only [admitted, hissue, hpost, issue, hrecord]
      rfl
    · simp only [admitted, hrevoke, hpost, revoke, hrecord]
      rfl

theorem call?_admitted_body (hpost : request.method ≠ .post) (body : Bytes) (st : State) (m : Moment)
    (requestId : String) (caller : Caller) :
    (r.admitted st m requestId caller { request with body }).call?
      = (r.admitted st m requestId caller request).call? := by
  have hbody : forwardBody r { request with body } = forwardBody r request := by
    simp only [forwardBody, if_neg hpost]
  have hforward : forward r st requestId caller { request with body }
      = forward r st requestId caller request := by
    simp only [forward, forwardJson, hbody]
    rfl
  simp only [admitted]
  split
  · rfl
  · split
    · rfl
    · rw [call?_revoke, call?_revoke]
    · rfl
    · rw [hforward]

theorem call?_answer_body (hpost : request.method ≠ .post) (body : Bytes) :
    (r.answer st m { request with body }).call? = (r.answer st m request).call? := by
  -- no stage before the last one looks at the body
  have hguarded (st : State) (requestId : String) :
      (r.guarded st m requestId { request with body }).call?
        = (r.guarded st m requestId request).call? := by
    simp only [guarded]
    split
    · rfl
    · split
      · rfl
      · exact call?_admitted_body hpost body _ m requestId _
  have hrouted (st : State) (requestId : String) :
      (r.routed st m requestId { request with body }).call?
        = (r.routed st m requestId request).call? := by
    simp only [routed]
    split
    · rfl
    · rfl
    · exact hguarded st requestId
  have hdecision : r.originDecision { request with body } = r.originDecision request := rfl
  simp only [answer, Exchange.call?_map, hdecision]
  split
  · rfl
  · split
    · rfl
    · exact hrouted _ _
  · exact hrouted _ _

/-- What becomes of a request with a body over the limit: a POST asks the core for nothing, and any
other request asks for what it would ask for with another body, and sends none. Where the body would
be read, it is refused. -/
structure Capped (r : Relay) (st : State) (m : Moment) (request : Http.Request) : Prop where
  post : request.method = .post → (r.answer st m request).call? = none
  other : request.method ≠ .post →
    ∀ body, (r.answer st m { request with body }).call? = (r.answer st m request).call?
  sends : ∀ call, (r.answer st m request).call? = some call → call.body = none
  refused : request.method = .post → ∀ caller, LetIn r st m request caller →
    Reads r caller request → ∀ core disk,
      ((r.answer st m request).result core disk).1.response
        = finished (r.originDecision request) (requestIdOf m request) request
            (tooLong (requestIdOf m request))

theorem capped_of_lt (hlong : r.config.maxBody < request.body.length) (st : State) (m : Moment) :
    Capped r st m request := by
  have hquiet : ∀ call, (r.answer st m request).call? = some call →
      request.method ≠ .post ∧ call.body = none := by
    intro call hcall
    -- whatever is called has passed every gate, and a POST among them the limit
    rcases (gated_of_answer hcall).passage with hprobing | ⟨-, caller, -, hforwarded⟩
    · refine ⟨?_, hprobing.body⟩
      rcases hprobing.method with hget | hhead
      · rw [hget]
        decide
      · rw [hhead]
        decide
    · obtain ⟨kind, -, hpasses⟩ := hforwarded.route
      generalize call.body = sent at hpasses
      cases hpasses with
      | get _ hget =>
        rw [hget]
        exact ⟨by decide, rfl⟩
      | post members hpost record => exact absurd record.short (Nat.not_le.mpr hlong)
  constructor
  case post =>
    intro hpost
    by_contra hcalls
    obtain ⟨call, hcall⟩ := Option.ne_none_iff_exists'.mp hcalls
    exact (hquiet call hcall).1 hpost
  case other => exact fun hpost body => call?_answer_body hpost body
  case sends => exact fun call hcall => (hquiet call hcall).2
  case refused =>
    intro hpost caller hin hreads core disk
    have hpath : Endpoint.ofPath request.path ≠ .health ∧ Endpoint.ofPath request.path ≠ .metrics := by
      cases hreads with
      | forwarded route endpoint access => simp [endpoint]
      | ordered endpoint admin => rcases endpoint with h | h <;> simp [h]
    obtain ⟨buckets, hanswer⟩ := answer_of_letIn hin hpath.1 hpath.2
    rw [hanswer, admitted_of_lt hpost hlong hreads]
    rfl

/-! ### Frames -/

/-- A frame in which a caller posts to the core: its message asks for a POST of a route that is
forwarded and that the caller's scopes allow, and nothing keeps the call from being sent. -/
structure Posts (r : Relay) (caller : Caller) (commandId frame : String) (message : Message)
    (plan : Live.Plan) : Prop where
  read : Message.ofText? frame = some message
  wish : message.wish = .call plan
  method : plan.call.method = .post
  path : Live.Session.isForwardable plan.call.path = true
  access : caller.mayAccess r.config.unscopedPolicy .post plan.call.path = true
  core : r.client.CanAsk
  commandId : Header.Legible commandId
  key : ∀ k, plan.call.idempotencyKey.bind Text.nonBlank? = some k → (Header.value? k).isSome

theorem body_of_posts {commandId frame : String} {message : Message} {plan : Live.Plan}
    (h : Posts r caller commandId frame message plan) (opened : String)
    (parameters : Option String) (cursor : Int) :
    ∃ call, ((r.sessionOf caller opened parameters).handle cursor commandId frame).call? = some call ∧
      call.body = some (Json.object message.posted).write := by
  obtain ⟨hmessage, hwish, hpost, hpath, haccess, hcore, hcommandId, hkey⟩ := h
  have hallowed : caller.mayAccess r.config.unscopedPolicy plan.call.method plan.call.path = true := by
    rw [hpost]
    exact haccess
  obtain ⟨call, hcall, hsendable⟩ :
      ∃ call, r.client.command plan.call commandId = some call ∧ call.isSendable = true :=
    hcore.isSendable_command (by rw [hcommandId.value?_eq]; rfl) hkey
  have hbody := (Core.Client.of_command hcall).2.2
  rw [if_pos hpost, Message.body_of_wish hwish hpost] at hbody
  refine ⟨call, ?_, hbody⟩
  have hroute := ((Live.isForwardable_iff _).mp hpath).2
  rw [Live.Session.call?_of_wish _ hmessage hwish hroute]
  change (if caller.mayAccess r.config.unscopedPolicy plan.call.method plan.call.path then
    (r.client.command plan.call commandId).filter Core.Request.isSendable else none) = some call
  rw [if_pos hallowed, hcall, Option.filter_some, if_pos hsendable]

/-- The limit keeps the body of a request from the core, and it keeps nothing in a frame from it. -/
theorem limits_requests_only (r : Relay) :
    (∀ st m request, r.config.maxBody < request.body.length → Capped r st m request) ∧
      ∀ caller commandId frame message plan, Posts r caller commandId frame message plan →
        ∀ opened parameters cursor, ∃ call,
          ((r.sessionOf caller opened parameters).handle cursor commandId frame).call? = some call ∧
            call.body = some (Json.object message.posted).write := by
  constructor
  · intro st m request hlong
    exact capped_of_lt hlong st m
  · intro caller commandId frame message plan hposts opened parameters cursor
    exact body_of_posts hposts opened parameters cursor

/-- A relay that takes no more than eight bytes. -/
def narrow : Relay :=
  { unrestricted with config := { Config.default with maxBody := 8 } }

theorem posts_runUnder_k1 :
    Posts narrow .openAccess "c1" (runUnderFrame "k1") (runUnder "k1").message
      (runUnder "k1").plan where
  read := (inFrame_runUnder "k1").ofText?
  wish := plain_runUnder_k1.wish
  method := rfl
  path := by decide
  access := by decide
  core := ⟨⟨_, rfl⟩, nofun⟩
  commandId := by decide
  key k hk := Option.some.inj hk ▸ by decide

/-- One order, fifteen bytes long, is refused as a request and sent on from a frame. -/
theorem limits_requests_only_run :
    narrow.config.maxBody < (runUnderRequest "k1").body.length ∧
      LetIn narrow .initial ⟨0, 0, "r1", "s1"⟩ (runUnderRequest "k1") .openAccess ∧
      Reads narrow .openAccess (runUnderRequest "k1") ∧
      Capped narrow .initial ⟨0, 0, "r1", "s1"⟩ (runUnderRequest "k1") ∧
      Posts narrow .openAccess "c1" (runUnderFrame "k1") (runUnder "k1").message
        (runUnder "k1").plan ∧
      ∃ call, ((narrow.sessionOf .openAccess "r0" none).handle 0 "c1"
          (runUnderFrame "k1")).call? = some call ∧
        call.body = some (Json.object runBody).write := by
  have hlong : narrow.config.maxBody < (runUnderRequest "k1").body.length := by decide +kernel
  have hin : LetIn narrow .initial ⟨0, 0, "r1", "s1"⟩ (runUnderRequest "k1") .openAccess :=
    ⟨nofun, nofun, rfl, rfl⟩
  have hreads : Reads narrow .openAccess (runUnderRequest "k1") :=
    .forwarded (by decide) rfl (by decide)
  obtain ⟨hrequests, hframes⟩ := limits_requests_only narrow
  obtain ⟨call, hcall, hbody⟩ :=
    hframes .openAccess "c1" (runUnderFrame "k1") _ _ posts_runUnder_k1 "r0" none 0
  have hposted : (runUnder "k1").message.posted = runBody := if_neg (by decide)
  rw [hposted] at hbody
  exact ⟨hlong, hin, hreads, hrequests _ _ _ hlong, posts_runUnder_k1, call, hcall, hbody⟩

end Relay

end Gatehouse
