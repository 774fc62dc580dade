import Gatehouse.Core.Client
import Gatehouse.World.Basic

/-!
# The calls of an exchange

An exchange that is brief is over after its first action outside. It makes at most one call, and
whether it makes one is decided before anything comes back, so a claim about its calls in any world is
a claim about the one call that `Exchange.call?` shows. Asking the core is brief, and so is whatever
further work is put behind a brief exchange. What comes back depends on the call only through whether
it may be sent, so two requests that differ in nothing but their ids come to the same.
-/

namespace Gatehouse

namespace Core.Request

/-- A request apart from its id. -/
def unnamed (r : Request) : Request :=
  { r with requestId := "" }

/-- A request apart from its id and its key. -/
def bare (r : Request) : Request :=
  { r.unnamed with idempotencyKey := none }

theorem isSendable_unnamed {r : Request} (h : (Header.value? r.requestId).isSome) :
    r.unnamed.isSendable = r.isSendable := by
  have hempty : (Header.value? "").isSome := by decide
  simp [isSendable, fields, unnamed, h, hempty]

theorem isSendable_bare {r : Request} (hid : (Header.value? r.requestId).isSome)
    (hkey : ∀ k ∈ r.idempotencyKey, (Header.value? k).isSome) :
    r.bare.isSendable = r.isSendable := by
  rw [← isSendable_unnamed hid]
  cases hr : r.idempotencyKey with
  | none => rw [bare, ← hr]; rfl
  | some k => simp [isSendable, fields, bare, unnamed, hr, hkey k hr]

theorem filter_fields (call : Request) :
    (call.fields.filter fun f => f.1 == "x-request-id") = [("x-request-id", call.requestId)] := by
  obtain ⟨method, url, requestId, authorization, contentType, idempotencyKey, body⟩ := call
  cases authorization <;> cases contentType <;> cases idempotencyKey <;> rfl

end Core.Request

namespace Exchange

variable {α β : Type}

/-! ### Brief exchanges -/

/-- An exchange that is over after its first action outside. -/
inductive IsBrief : Exchange α → Prop where
  | done (a : α) : IsBrief (done a)
  | call (r : Core.Request) (resume : Core.Answer → Exchange α)
    (ends : ∀ answer, ∃ a, resume answer = .done a) : IsBrief (call r resume)
  | save (file : FileWrite) (resume : Option String → Exchange α)
    (ends : ∀ fault, ∃ a, resume fault = .done a) : IsBrief (save file resume)

namespace IsBrief

theorem map {e : Exchange α} (h : e.IsBrief) (f : α → β) : (e.map f).IsBrief := by
  cases h with
  | done a => exact .done (f a)
  | call r resume ends =>
    refine .call r _ fun answer => ?_
    obtain ⟨a, ha⟩ := ends answer
    exact ⟨f a, by rw [ha, map_done]⟩
  | save file resume ends =>
    refine .save file _ fun fault => ?_
    obtain ⟨a, ha⟩ := ends fault
    exact ⟨f a, by rw [ha, map_done]⟩

theorem ask (request : Option Core.Request) (resume : Except Core.Failure Core.Reply → α) :
    (ask request resume).IsBrief := by
  cases request with
  | none => exact .done _
  | some r =>
    rw [Exchange.ask]
    split
    · exact .call r _ fun answer => ⟨_, rfl⟩
    · exact .done _

theorem calls_eq {e : Exchange α} (h : e.IsBrief) (core : Core.Request → Core.Answer)
    (disk : FileWrite → Option String) : e.calls core disk = e.call?.toList := by
  cases h with
  | done a => rfl
  | call r resume ends =>
    obtain ⟨a, ha⟩ := ends (core r)
    rw [calls, ha]
    rfl
  | save file resume ends =>
    obtain ⟨a, ha⟩ := ends (disk file)
    rw [calls, ha]
    rfl

/-- A brief exchange makes at most one call, and only the one it begins with. -/
theorem calls_le_one {e : Exchange α} (h : e.IsBrief) (core : Core.Request → Core.Answer)
    (disk : FileWrite → Option String) :
    (e.calls core disk).length ≤ 1 ∧ ∀ call ∈ e.calls core disk, e.call? = some call := by
  rw [h.calls_eq]
  cases e.call? with
  | none => simp
  | some r => simp

end IsBrief

/-! ### Asking -/

/-- What comes of a request to a core. -/
def outcome (core : Core.Request → Core.Answer) (request : Option Core.Request) :
    Except Core.Failure Core.Reply :=
  match request with
  | none => .error .invalidUrl
  | some r =>
    if r.isSendable then (core r).mapError .ofFault else .error (.unreachable "builder error")

theorem call?_ask (request : Option Core.Request)
    (resume : Except Core.Failure Core.Reply → α) :
    (ask request resume).call? = request.filter Core.Request.isSendable := by
  cases request with
  | none => rfl
  | some r =>
    rw [ask, Option.filter_some]
    split <;> rfl

theorem result_ask_eq (core : Core.Request → Core.Answer) (disk : FileWrite → Option String)
    (request : Option Core.Request) (resume : Except Core.Failure Core.Reply → α) :
    (ask request resume).result core disk = resume (outcome core request) := by
  cases request with
  | none => rfl
  | some r =>
    rw [ask, outcome]
    by_cases hsendable : r.isSendable = true
    · rw [if_pos hsendable, if_pos hsendable, result]
      cases core r <;> rfl
    · rw [if_neg hsendable, if_neg hsendable, result]

theorem of_call?_ask {request : Option Core.Request} {call : Core.Request}
    {resume : Except Core.Failure Core.Reply → α} (h : (ask request resume).call? = some call) :
    request = some call := by
  rw [call?_ask, Option.filter_eq_some_iff] at h
  exact h.1

theorem outcome_of_filter (core : Core.Request → Core.Answer)
    {request : Option Core.Request} {call : Core.Request}
    (h : request.filter Core.Request.isSendable = some call) :
    outcome core request = (core call).mapError .ofFault := by
  obtain ⟨hrequest, hsendable⟩ := Option.filter_eq_some_iff.mp h
  rw [hrequest, outcome, if_pos hsendable]

theorem result_ask_of_call? {core : Core.Request → Core.Answer} {request : Option Core.Request}
    {call : Core.Request} {reply : Core.Reply} {resume : Except Core.Failure Core.Reply → α}
    (hcall : (ask request resume).call? = some call) (hreply : core call = .ok reply)
    (disk : FileWrite → Option String) :
    (ask request resume).result core disk = resume (.ok reply) := by
  rw [call?_ask] at hcall
  rw [result_ask_eq, outcome_of_filter core hcall, hreply]
  rfl

theorem of_outcome_ok {core : Core.Request → Core.Answer} {request : Option Core.Request}
    {reply : Core.Reply} (h : outcome core request = .ok reply) :
    ∃ call, request.filter Core.Request.isSendable = some call ∧ core call = .ok reply := by
  cases request with
  | none => cases h
  | some call =>
    rw [outcome] at h
    split at h
    · next hsendable =>
      refine ⟨call, by rw [Option.filter_some, if_pos hsendable], ?_⟩
      cases hcore : core call with
      | error fault =>
        rw [hcore] at h
        cases h
      | ok answer =>
        rw [hcore] at h
        exact congrArg Except.ok (Except.ok.inj h)
    · cases h

/-- What holds after every outcome of a call holds however the core behaves. -/
theorem result_ask (core : Core.Request → Core.Answer) (disk : FileWrite → Option String)
    (request : Option Core.Request) {resume : Except Core.Failure Core.Reply → α} {p : α → Prop}
    (h : ∀ outcome, p (resume outcome)) : p ((ask request resume).result core disk) := by
  rw [result_ask_eq]
  exact h _

/-! ### Requests that differ in what does not keep them from being sent -/

section Apart

variable {part : Core.Request → Core.Request} {a b : Option Core.Request}
  (hsame : a.map part = b.map part)
  (ha : ∀ r ∈ a, (part r).isSendable = r.isSendable)
  (hb : ∀ r ∈ b, (part r).isSendable = r.isSendable)

include hsame ha hb

/-- There are no requests, or two that are both sent or both not. -/
theorem alike_of_map :
    a = none ∧ b = none ∨
      ∃ r r', a = some r ∧ b = some r' ∧ r.isSendable = r'.isSendable := by
  cases a with
  | none =>
    cases b with
    | none => exact .inl ⟨rfl, rfl⟩
    | some r' => cases hsame
  | some r =>
    cases b with
    | none => cases hsame
    | some r' =>
      have hr : part r = part r' := Option.some.inj hsame
      exact .inr ⟨r, r', rfl, rfl, by rw [← ha r rfl, hr, hb r' rfl]⟩

theorem filter_isSendable_map :
    (a.filter Core.Request.isSendable).map part
      = (b.filter Core.Request.isSendable).map part := by
  rcases alike_of_map hsame ha hb with ⟨rfl, rfl⟩ | ⟨r, r', rfl, rfl, hsendable⟩
  · rfl
  · rw [Option.filter_some, Option.filter_some, hsendable]
    split
    · exact hsame
    · rfl

/-- They come to the same where the answer is the same. -/
theorem outcome_of_map (answer : Core.Answer) :
    outcome (fun _ => answer) a = outcome (fun _ => answer) b := by
  rcases alike_of_map hsame ha hb with ⟨rfl, rfl⟩ | ⟨r, r', rfl, rfl, hsendable⟩
  · rfl
  · rw [outcome, outcome, hsendable]

end Apart

end Exchange

namespace World

variable {α : Type}

/-- What a world is asked during a brief exchange: nothing, or the call of the exchange. -/
theorem asked_run (w : World) {e : Exchange α} (h : e.IsBrief) :
    ∃ calls, (w.run e).2.asked = w.asked ++ calls ∧ calls.length ≤ 1 ∧
      ∀ call ∈ calls, e.call? = some call := by
  cases h with
  | done a => exact ⟨[], by simp [run]⟩
  | save file resume ends =>
    obtain ⟨a, ha⟩ := ends (w.disk.save file).1
    exact ⟨[], by simp [run, ha]⟩
  | call r resume ends =>
    obtain ⟨a, ha⟩ := ends (w.call r).1
    have hafter : (w.run (.call r resume)).2 = (w.call r).2 := by
      show (run (w.call r).2 (resume (w.call r).1)).2 = (w.call r).2
      rw [ha]
      rfl
    rw [hafter]
    cases hcore : w.core with
    | none => exact ⟨[], by simp [World.call, hcore]⟩
    | some script => exact ⟨[r], by simp [World.call, hcore, Exchange.call?]⟩

end World

namespace Core.Client

variable {c : Client} {path : String} {query : Option String} {requestId : String}

theorem of_fetch {request : Request} (h : c.fetch path query requestId = some request) :
    c.url? path query = some request.url ∧ request.method = .get ∧ request.body = none := by
  obtain ⟨url, hurl, rfl⟩ := Option.map_eq_some_iff.mp h
  exact ⟨hurl, rfl, rfl⟩

theorem of_command {call : Call} {request : Request}
    (h : c.command call requestId = some request) :
    c.url? call.path call.query = some request.url ∧ request.method = call.method ∧
      request.body
        = if call.method = .post then some (Json.object (call.body.getD [])).write else none := by
  obtain ⟨url, hurl, rfl⟩ := Option.map_eq_some_iff.mp h
  exact ⟨hurl, rfl, rfl⟩

theorem requestId_of_fetch {request : Request} (h : c.fetch path query requestId = some request) :
    request.requestId = requestId := by
  obtain ⟨url, -, rfl⟩ := Option.map_eq_some_iff.mp h
  rfl

theorem requestId_of_command {call : Call} {request : Request}
    (h : c.command call requestId = some request) : request.requestId = requestId := by
  obtain ⟨url, -, rfl⟩ := Option.map_eq_some_iff.mp h
  rfl

theorem isSome_value?_of_command {call : Call} {request : Request}
    (hid : (Header.value? requestId).isSome) (h : c.command call requestId = some request) :
    (Header.value? request.requestId).isSome := by
  rwa [requestId_of_command h]

theorem idempotencyKey_of_command {call : Call} {request : Request}
    (h : c.command call requestId = some request) :
    request.idempotencyKey = call.idempotencyKey.bind Text.nonBlank? := by
  obtain ⟨url, -, rfl⟩ := Option.map_eq_some_iff.mp h
  rfl

theorem isSendable_bare_of_command {call : Call} {request : Request}
    (hid : (Header.value? requestId).isSome)
    (hkey : ∀ k, call.idempotencyKey.bind Text.nonBlank? = some k → (Header.value? k).isSome)
    (h : c.command call requestId = some request) :
    request.bare.isSendable = request.isSendable := by
  refine Request.isSendable_bare (isSome_value?_of_command hid h) ?_
  rw [idempotencyKey_of_command h]
  exact hkey

/-- Only a POST carries its body, so calls that differ in the body of another method and in their
keys make the same request but for its key. -/
theorem command_bare (c : Client) (call : Call) {body : Option Json.Members}
    (hbody : call.method = .post → body = call.body) (idempotencyKey : Option String)
    (id other : String) :
    (c.command { call with body, idempotencyKey } id).map Request.bare
      = (c.command call other).map Request.bare := by
  have hwritten : (if call.method = .post then some (Json.object (body.getD [])).write else none)
      = if call.method = .post then some (Json.object (call.body.getD [])).write else none := by
    split
    · next hpost => rw [hbody hpost]
    · rfl
  simp only [command, hwritten, Option.map_map]
  rfl

/-- Under two ids that may be sent the same request goes out, but for its id, or none does. -/
theorem sendable_command_unnamed (c : Client) (call : Call) {id other : String}
    (hid : (Header.value? id).isSome) (hother : (Header.value? other).isSome) :
    ((c.command call id).filter Request.isSendable).map Request.unnamed
      = ((c.command call other).filter Request.isSendable).map Request.unnamed := by
  have hsame : (c.command call id).map Request.unnamed
      = (c.command call other).map Request.unnamed := by
    rw [command, command, Option.map_map, Option.map_map]
    rfl
  exact Exchange.filter_isSendable_map hsame
    (fun _ hr => Request.isSendable_unnamed (isSome_value?_of_command hid hr))
    fun _ hr => Request.isSendable_unnamed (isSome_value?_of_command hother hr)

/-- A client that can ask the core: the core's URL has room for a path, and what the relay
identifies itself with may be sent. -/
structure CanAsk (c : Client) : Prop where
  base : ∃ segments, c.base.path = .segments segments
  authorization : ∀ value, c.authorization = some value → (Header.value? value).isSome

theorem CanAsk.isSendable_command (h : c.CanAsk) {call : Call}
    (hid : (Header.value? requestId).isSome)
    (hkey : ∀ k, call.idempotencyKey.bind Text.nonBlank? = some k → (Header.value? k).isSome) :
    ∃ r, c.command call requestId = some r ∧ r.isSendable = true := by
  obtain ⟨segments, hbase⟩ := h.base
  have hurl : ∃ url, c.url? call.path call.query = some url := by
    rw [url?, hbase]
    exact ⟨_, rfl⟩
  obtain ⟨url, hurl⟩ := hurl
  have htype : (Header.value? "application/json").isSome := by decide
  refine ⟨_, by rw [command, hurl]; rfl, ?_⟩
  rw [Request.isSendable, List.all_eq_true]
  intro field hfield
  obtain ⟨⟨name, value⟩, hmem, hvalue⟩ := List.mem_filterMap.mp hfield
  obtain ⟨v, hv, rfl⟩ := Option.map_eq_some_iff.mp hvalue
  simp only [List.mem_cons, List.not_mem_nil, or_false, Prod.mk.injEq] at hmem
  rcases hmem with ⟨-, rfl⟩ | ⟨-, rfl⟩ | ⟨-, rfl⟩ | ⟨-, rfl⟩
  · rwa [← Option.some.inj hv]
  · exact h.authorization v hv
  · rwa [← Option.some.inj hv]
  · exact hkey v hv

end Core.Client

end Gatehouse
