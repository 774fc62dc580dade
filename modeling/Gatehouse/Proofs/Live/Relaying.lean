import Gatehouse.Proofs.Live.Session

/-!
# What becomes of a call

A frame that asks for a call is refused for want of a scope, or the call is made if it may be sent.
Nothing else about the frame matters to that, neither the kind of the message nor what the reply is
named. So two frames that ask for the same call are decided alike and make the same request, but for
its id.
-/

namespace Gatehouse

theorem Core.Failure.take_message (e : Core.Failure) :
    e.message.toList.take 2 = ['c', 'o'] ∨ e.message.toList.take 2 = ['f', 'a'] := by
  have happend (start detail : String) (h : 2 ≤ start.toList.length) :
      (start ++ detail).toList.take 2 = start.toList.take 2 := by
    rw [String.toList_append, List.take_append_of_le_length h]
  cases e with
  | timedOut detail => exact .inl (happend "core API timed out: " detail (by decide))
  | unreachable detail => exact .inl (happend "core API unreachable: " detail (by decide))
  | unreadable detail => exact .inr (happend "failed to read core response: " detail (by decide))
  | invalidJson => exact .inl (by decide)
  | invalidUrl => exact .inr (by decide)
  | badStatus n => exact .inl (happend "core events stream returned status " _ (by decide))

namespace Live

/-! ### The error of a reply -/

/-- The error that a reply names, if it names one. -/
def error? : Json → Option Json
  | .object members => Keyed.get? "error" members
  | _ => none

def forbidden : String := "forbidden by token scope"

def unforwarded : String := "path is not command-forwardable"

/-- A reply that does not refuse a call. -/
def Unrefused (reply : Json) : Prop :=
  error? reply ≠ some (.text forbidden) ∧ error? reply ≠ some (.text unforwarded)

theorem unrefused_of_message {reply : Json} {e : Core.Failure}
    (h : error? reply = some (.text e.message)) : Unrefused reply := by
  have hrefusals : ∀ text ∈ [forbidden, unforwarded],
      text.toList.take 2 ≠ ['c', 'o'] ∧ text.toList.take 2 ≠ ['f', 'a'] := by
    decide
  have hne : ∀ text ∈ [forbidden, unforwarded], error? reply ≠ some (.text text) := by
    intro text hmem htext
    rw [h, Option.some.injEq, Json.text.injEq] at htext
    obtain ⟨hco, hfa⟩ := hrefusals text hmem
    subst htext
    exact e.take_message.elim hco hfa
  exact ⟨hne forbidden (by simp), hne unforwarded (by simp)⟩

theorem unrefused_of_none {reply : Json} (h : error? reply = none) : Unrefused reply := by
  simp [Unrefused, h]

/-- A plan whose further member is taken for no error. -/
def Plan.SparesError (plan : Plan) : Prop :=
  ∀ p, plan.extra = some p → p.1 ≠ "error"

theorem sparesError_of_none (call : Core.Call) (reply : String) :
    Plan.SparesError ⟨call, reply, none⟩ := by
  simp [Plan.SparesError]

theorem sparesError_of_some (call : Core.Call) (reply : String) {name : String}
    (h : name ≠ "error") (value : String) :
    Plan.SparesError ⟨call, reply, some (name, value)⟩ := by
  simp [Plan.SparesError, h]

namespace Session

variable {plan : Plan}

theorem error?_record (s : Session) (early : Json.Members) {late : Json.Members}
    (h : ∀ p ∈ late, p.1 ≠ "error") :
    error? (s.record (early ++ late)) = Keyed.get? "error" (Keyed.ofPairs early) := by
  show Keyed.get? "error" (Keyed.ofPairs (early ++ late ++ [_])) = _
  rw [List.append_assoc, Keyed.get?_ofPairs_append]
  intro p hp
  rcases List.mem_append.mp hp with hp | hp
  · exact h p hp
  · rw [List.mem_singleton.mp hp]
    simp

theorem error?_record_errorMembers (s : Session) (id : Json) (text : String) (late : Json.Members)
    (h : ∀ p ∈ late, p.1 ≠ "error") :
    error? (s.record (("id", id) :: (errorMembers text ++ late))) = some (.text text) :=
  s.error?_record (("id", id) :: errorMembers text) h

theorem error?_record_replyMembers (s : Session) (id : Json) (commandId : String)
    (hextra : plan.SparesError) (r : Core.JsonReply) :
    error? (s.record (("id", id) :: replyMembers plan commandId r)) = none := by
  refine s.error?_record [] fun p hp => ?_
  simp only [replyMembers, List.cons_append, List.nil_append, List.mem_cons] at hp
  rcases hp with rfl | rfl | rfl | rfl | rfl | rfl | rfl | rfl | hp
  iterate 8 simp
  split at hp
  · next name value hplan =>
    rw [List.mem_singleton.mp hp]
    exact hextra _ hplan
  · cases hp

end Session

/-! ### The call -/

/-- What a call on behalf of the caller of a session comes to. Without the scope for it nothing is
asked and the caller is told so; with it the call is made if it may be sent. It is never said that
the path is not forwarded. -/
structure Relayed (s : Session) (call : Core.Call) (commandId : String) (e : Exchange Handled) :
    Prop where
  called : e.call? = if s.caller.mayAccess s.policy call.method call.path then
    (s.client.command call commandId).filter Core.Request.isSendable else none
  refused : ∀ core disk, error? (e.result core disk).reply = some (.text forbidden)
    ↔ s.caller.mayAccess s.policy call.method call.path = false
  forwarded : ∀ core disk, error? (e.result core disk).reply ≠ some (.text unforwarded)

theorem Relayed.unnamed_eq {s : Session} {call : Core.Call} {commandId other : String}
    {e e' : Exchange Handled} (h : Relayed s call commandId e) (h' : Relayed s call other e')
    (hid : (Header.value? commandId).isSome) (hother : (Header.value? other).isSome) :
    e.call?.map Core.Request.unnamed = e'.call?.map Core.Request.unnamed := by
  rw [h.called, h'.called]
  split
  · exact s.client.sendable_command_unnamed call hid hother
  · rfl

namespace Session

variable {plan : Plan}

def afterCall (plan : Plan) (commandId : String) (cursor : Int) (reply : Json.Members → Json)
    (outcome : Except Core.Failure Core.Reply) : Handled :=
  match outcome.bind (Core.JsonReply.ofReply commandId) with
  | .ok r => ⟨reply (replyMembers plan commandId r), cursor, false⟩
  | .error e => ⟨reply (errorMembers e.message), cursor, true⟩

/-- A call for a path of the grammar that is forwarded in JSON depends on the scopes alone. -/
theorem relay_of_classify (s : Session) (hroute : Route.classify plan.call.path = some .json)
    (commandId : String) (cursor : Int) (reply : Json.Members → Json) :
    s.relay plan commandId cursor reply
      = if s.caller.mayAccess s.policy plan.call.method plan.call.path then
          .ask (s.client.command plan.call commandId) (afterCall plan commandId cursor reply)
        else
          .done ⟨reply (errorMembers forbidden ++ [("path", .text plan.call.path),
            ("method", .text plan.call.method.name)]), cursor, false⟩ := by
  have hforwardable : isForwardable plan.call.path = true := by
    refine (isForwardable_iff _).mpr ⟨?_, hroute⟩
    intro hpath
    rw [hpath] at hroute
    revert hroute
    decide
  simp only [relay, hforwardable]
  cases s.caller.mayAccess s.policy plan.call.method plan.call.path with
  | true => rfl
  | false => rfl

theorem call?_relay_of_classify (s : Session) (hroute : Route.classify plan.call.path = some .json)
    (commandId : String) (cursor : Int) (reply : Json.Members → Json) :
    (s.relay plan commandId cursor reply).call?
      = if s.caller.mayAccess s.policy plan.call.method plan.call.path then
          (s.client.command plan.call commandId).filter Core.Request.isSendable
        else none := by
  rw [s.relay_of_classify hroute]
  split
  · exact Exchange.call?_ask _ _
  · rfl

theorem unrefused_afterCall (s : Session) (hextra : plan.SparesError) (commandId : String)
    (cursor : Int) (id : Json) (outcome : Except Core.Failure Core.Reply) :
    Unrefused (afterCall plan commandId cursor (fun members => s.record (("id", id) :: members))
      outcome).reply := by
  rw [afterCall]
  split
  · exact unrefused_of_none (s.error?_record_replyMembers id commandId hextra _)
  · next e _ =>
    have herror := s.error?_record_errorMembers id e.message [] (by simp)
    rw [List.append_nil] at herror
    exact unrefused_of_message herror

theorem relayed_of_classify (s : Session) (hroute : Route.classify plan.call.path = some .json)
    (hextra : plan.SparesError) (commandId : String) (cursor : Int) (id : Json) :
    Relayed s plan.call commandId
      (s.relay plan commandId cursor fun members => s.record (("id", id) :: members)) := by
  -- a refusal never sees the core, and nothing that the core can answer reads as a refusal
  have hcalled := s.call?_relay_of_classify hroute commandId cursor
    fun members => s.record (("id", id) :: members)
  rw [s.relay_of_classify hroute] at hcalled ⊢
  cases haccess : s.caller.mayAccess s.policy plan.call.method plan.call.path with
  | false =>
    have hrefusal := s.error?_record_errorMembers id forbidden
      [("path", .text plan.call.path), ("method", .text plan.call.method.name)] (by simp)
    have hne : forbidden ≠ unforwarded := by decide
    refine ⟨haccess ▸ hcalled, fun core disk => iff_of_true hrefusal haccess,
      fun core disk hother => ?_⟩
    exact hne (Json.text.inj (Option.some.inj (hrefusal.symm.trans hother)))
  | true =>
    have hunrefused (core : Core.Request → Core.Answer) (disk : FileWrite → Option String) :=
      Exchange.result_ask core disk (s.client.command plan.call commandId)
        (p := fun after : Handled => Unrefused after.reply)
        (s.unrefused_afterCall hextra commandId cursor id)
    refine ⟨haccess ▸ hcalled, fun core disk => ?_, fun core disk => (hunrefused core disk).2⟩
    rw [haccess]
    exact iff_of_false (hunrefused core disk).1 Bool.noConfusion

/-- What a frame causes depends on the cursor and the fresh id only in the id of the call. -/
theorem unnamed_handle (s : Session) (frame : String) (cursor other : Int)
    {commandId fresh : String} (hid : (Header.value? commandId).isSome)
    (hfresh : (Header.value? fresh).isSome) :
    (s.handle cursor commandId frame).call?.map Core.Request.unnamed
      = (s.handle other fresh frame).call?.map Core.Request.unnamed := by
  simp only [handle]
  cases Message.ofText? frame with
  | none => rfl
  | some m =>
    dsimp only
    cases m.wish with
    | answer members => rfl
    | seek next members => rfl
    | call plan =>
      simp only [relay]
      split
      · rfl
      · split
        · rfl
        · rw [Exchange.call?_ask, Exchange.call?_ask]
          exact s.client.sendable_command_unnamed plan.call hid hfresh

theorem handle_congr (s : Session) {frame frame' : String} {m m' : Message}
    (hframe : Message.ofText? frame = some m) (hframe' : Message.ofText? frame' = some m')
    (hid : m.id = m'.id) (hwish : m.wish = m'.wish) (cursor : Int) (commandId : String) :
    s.handle cursor commandId frame = s.handle cursor commandId frame' := by
  simp only [handle, hframe, hframe', hid, hwish]

theorem handle_of_answer (s : Session) {frame : String} {m : Message} {members : Json.Members}
    (hframe : Message.ofText? frame = some m) (hwish : m.wish = .answer members) (cursor : Int)
    (commandId : String) :
    s.handle cursor commandId frame
      = .done ⟨s.record (("id", m.id.getD .null) :: members), cursor, false⟩ := by
  simp only [handle, hframe, hwish]

theorem call?_of_wish (s : Session) {frame : String} {m : Message}
    (hframe : Message.ofText? frame = some m) (hwish : m.wish = .call plan)
    (hroute : Route.classify plan.call.path = some .json) (cursor : Int) (commandId : String) :
    (s.handle cursor commandId frame).call?
      = if s.caller.mayAccess s.policy plan.call.method plan.call.path then
          (s.client.command plan.call commandId).filter Core.Request.isSendable
        else none := by
  simp only [handle, hframe, hwish]
  exact s.call?_relay_of_classify hroute commandId cursor _

theorem relayed_of_wish (s : Session) {frame : String} {m : Message}
    (hframe : Message.ofText? frame = some m) (hwish : m.wish = .call plan)
    (hroute : Route.classify plan.call.path = some .json) (hextra : plan.SparesError)
    (cursor : Int) (commandId : String) :
    Relayed s plan.call commandId (s.handle cursor commandId frame) := by
  rw [handle, hframe]
  simp only [hwish]
  exact s.relayed_of_classify hroute hextra commandId cursor _

end Session

end Live

end Gatehouse
