import Gatehouse.Proofs.Live.Typed
import Gatehouse.Proofs.Relay.Forwarding

/-!
# The key that a reply reports

A call is sent under the key of its client without the blanks around it, or under none if nothing is
left of the key. What is reported is the key that the core names, and otherwise that of the client.
A request is told the key that was sent. A frame is told its own key as it stands there: padded, or
blank although none was sent.
-/

namespace Gatehouse

open Live

/-! ### The key of a message -/

namespace Message

/-- The key under which the call of a message is to be done once. Two kinds of message only look,
and leave theirs out. -/
def carriedKey? (m : Message) : Option String :=
  if Text.lower (Text.trim m.kind) ∈ ["terminal_list", "terminal_poll"] then none
  else m.idempotencyKey

variable {m : Message} {plan : Plan}

theorem carriedKey?_of_isKind {name : String} (kind : m.IsKind name)
    (hname : name ∉ ["terminal_list", "terminal_poll"]) : m.carriedKey? = m.idempotencyKey := by
  rw [carriedKey?, kind.eq]
  exact if_neg hname

theorem StandsFor.idempotencyKey_eq {call : Core.Call} (h : m.StandsFor call) :
    call.idempotencyKey = m.carriedKey? := by
  have hbrowser : ∀ name ∈ browserNames,
      "browser_" ++ name ∉ ["terminal_list", "terminal_poll"] := by
    decide
  cases h with
  | list kind =>
    rw [carriedKey?, kind.eq]
    rfl
  | poll kind =>
    rw [carriedKey?, kind.eq]
    rfl
  | start kind => exact (carriedKey?_of_isKind kind (by decide)).symm
  | type kind => exact (carriedKey?_of_isKind kind (by decide)).symm
  | close kind => exact (carriedKey?_of_isKind kind (by decide)).symm
  | read kind known => exact (carriedKey?_of_isKind kind (hbrowser _ known)).symm
  | act kind known => exact (carriedKey?_of_isKind kind (hbrowser _ known)).symm

theorem of_command_eq_call (h : m.command = .call plan) :
    plan.call.idempotencyKey = m.idempotencyKey ∧ plan.extra = none := by
  unfold command at h
  split at h
  · cases h
  · split at h
    · cases h
    · cases h
      exact ⟨rfl, rfl⟩

theorem idempotencyKey_of_wish (h : m.wish = .call plan) :
    plan.call.idempotencyKey = m.carriedKey? := by
  by_cases hkind : m.IsKind "command"
  · rw [wish_of_command hkind] at h
    rw [(of_command_eq_call h).1, carriedKey?_of_isKind hkind (by decide)]
  · exact (standsFor_of_wish hkind h).idempotencyKey_eq

theorem extra_of_wish (h : m.wish = .call plan) :
    ∀ p, plan.extra = some p → p.1 ∈ ["session_id", "path"] := by
  intro p hp
  rw [wish] at h
  split at h
  · cases h
  · split at h
    · cases h
    · cases h
  · rw [(of_command_eq_call h).2] at hp
    cases hp
  · cases h
    cases hp
  · cases h
    cases hp
  · obtain ⟨id, -, hcall⟩ := of_onTerminal_eq_call h
    cases hcall
    cases hp
    exact List.mem_cons_self
  · obtain ⟨id, -, hcall⟩ := of_onTerminal_eq_call h
    rw [terminalType] at hcall
    split at hcall
    · cases hcall
    · cases hcall
      cases hp
      exact List.mem_cons_self
  · obtain ⟨id, -, hcall⟩ := of_onTerminal_eq_call h
    cases hcall
    cases hp
    exact List.mem_cons_self
  · split at h
    · cases h
      cases hp
      exact List.mem_cons_of_mem _ List.mem_cons_self
    · cases h

end Message

/-! ### Frames -/

namespace Live

/-- The key that a reply reports, if it reports one or none. -/
def reportedKey? : Json → Option Json
  | .object members => Keyed.get? "idempotency_key" members
  | _ => none

namespace Session

variable {s : Session} {cursor : Int} {commandId frame : String} {call : Core.Request}
  {core : Core.Request → Core.Answer} {reply : Core.Reply} {read : Core.JsonReply}

theorem reportedKey?_record_replyMembers (s : Session) (id : Json) (commandId : String)
    {plan : Plan} (hextra : ∀ p, plan.extra = some p → p.1 ∈ ["session_id", "path"]) (r : Core.JsonReply) :
    reportedKey? (s.record (("id", id) :: replyMembers plan commandId r))
      = some (Json.text? (r.idempotencyKey.or plan.call.idempotencyKey)) := by
  obtain ⟨wished, kind, extra⟩ := plan
  let early : Json.Members :=
    [("id", id), ("type", .text kind), ("status", .nat r.status), ("payload", r.payload),
      ("core_request", .text commandId), ("core_request_id", Json.text? r.coreRequestId)]
  -- no member behind the key has its name
  cases extra with
  | none =>
    let late : Json.Members :=
      [("replayed", .bool r.replayed), ("request_id", .text s.requestId)]
    have hlate : ∀ p ∈ late, p.1 ≠ "idempotency_key" := by simp [late]
    exact Keyed.get?_ofPairs_of_last hlate early _
  | some p =>
    obtain ⟨name, value⟩ := p
    have hname : name ≠ "idempotency_key" := by
      rintro rfl
      have hnot : "idempotency_key" ∉ ["session_id", "path"] := by decide
      exact hnot (hextra _ rfl)
    let late : Json.Members :=
      [("replayed", .bool r.replayed), (name, .text value), ("request_id", .text s.requestId)]
    have hlate : ∀ p ∈ late, p.1 ≠ "idempotency_key" := by simp [late, hname]
    exact Keyed.get?_ofPairs_of_last hlate early _

theorem of_call?_handle (hcall : (s.handle cursor commandId frame).call? = some call) :
    ∃ m plan, Message.ofText? frame = some m ∧ m.wish = .call plan ∧
      s.handle cursor commandId frame = .ask (s.client.command plan.call commandId)
        (afterCall plan commandId cursor fun members =>
          s.record (("id", m.id.getD .null) :: members)) := by
  rw [handle] at hcall
  cases hframe : Message.ofText? frame with
  | none =>
    rw [hframe] at hcall
    cases hcall
  | some m =>
    rw [hframe] at hcall
    dsimp only at hcall
    cases hwish : m.wish with
    | answer members =>
      rw [hwish] at hcall
      cases hcall
    | seek next members =>
      rw [hwish] at hcall
      cases hcall
    | call plan =>
      rw [hwish] at hcall
      dsimp only at hcall
      have hhandle : s.handle cursor commandId frame = s.relay plan commandId cursor
          fun members => s.record (("id", m.id.getD .null) :: members) := by
        simp only [handle, hframe, hwish]
      refine ⟨m, plan, rfl, hwish, hhandle.trans ?_⟩
      by_cases hpath : isForwardable plan.call.path = true
      · have hroute := ((isForwardable_iff _).mp hpath).2
        rw [s.relay_of_classify hroute] at hcall ⊢
        split at hcall
        · next hallowed => rw [if_pos hallowed]
        · cases hcall
      · rw [Bool.not_eq_true] at hpath
        simp only [relay, hpath] at hcall
        cases hcall

theorem key_of_ofReply (h : Core.JsonReply.ofReply commandId reply = .ok read) :
    read.idempotencyKey = reply.headers.trimmed? "idempotency-key" := by
  rw [Core.JsonReply.ofReply] at h
  split at h
  · cases h
  · split at h
    · cases h
    · cases h
      rfl

theorem key_of_command {c : Core.Client} {wished : Core.Call}
    (h : c.command wished commandId = some call) :
    call.idempotencyKey = wished.idempotencyKey.bind Text.nonBlank? := by
  obtain ⟨url, -, rfl⟩ := Option.map_eq_some_iff.mp h
  rfl

theorem text?_inj {o p : Option String} : Json.text? o = Json.text? p ↔ o = p := by
  constructor
  · intro h
    cases o <;> cases p <;> cases h <;> rfl
  · rintro rfl
    rfl

/-- What is told of a key is what was used, if the core names one or nothing was trimmed away. -/
theorem or_eq_or_nonBlank?_iff {named carried : Option String} :
    named.or carried = named.or (carried.bind Text.nonBlank?) ↔
      named.isSome ∨ carried.bind Text.nonBlank? = carried := by
  cases named with
  | some k => simp
  | none => simp [eq_comm]

/-- A frame whose call the core answers reports the key that the core names, or else its own as it
stands in the frame, while the call was sent under that key without blanks. So it reports the key
that was used just if the core names one or its own had nothing to trim. -/
theorem reports_key (hcall : (s.handle cursor commandId frame).call? = some call)
    (hreply : core call = .ok reply) (hread : Core.JsonReply.ofReply commandId reply = .ok read)
    (disk : FileWrite → Option String) :
    ∃ m, Message.ofText? frame = some m ∧
      call.idempotencyKey = m.carriedKey?.bind Text.nonBlank? ∧
      reportedKey? ((s.handle cursor commandId frame).result core disk).reply
        = some (Json.text? ((reply.headers.trimmed? "idempotency-key").or m.carriedKey?)) ∧
      (reportedKey? ((s.handle cursor commandId frame).result core disk).reply
          = some (Json.text? ((reply.headers.trimmed? "idempotency-key").or call.idempotencyKey)) ↔
        (reply.headers.trimmed? "idempotency-key").isSome ∨
          m.carriedKey?.bind Text.nonBlank? = m.carriedKey?) := by
  obtain ⟨m, plan, hframe, hwish, hhandle⟩ := of_call?_handle hcall
  rw [hhandle] at hcall ⊢
  have hcarried := m.idempotencyKey_of_wish hwish
  have hsent : call.idempotencyKey = m.carriedKey?.bind Text.nonBlank? := by
    rw [key_of_command (Exchange.of_call?_ask hcall), hcarried]
  have hafter : afterCall plan commandId cursor
      (fun members => s.record (("id", m.id.getD .null) :: members)) (.ok reply)
      = ⟨s.record (("id", m.id.getD .null) :: replyMembers plan commandId read), cursor,
        false⟩ := by
    simp only [afterCall, Except.bind, hread]
  rw [Exchange.result_ask_of_call? hcall hreply, hafter,
    s.reportedKey?_record_replyMembers _ _ (m.extra_of_wish hwish), key_of_ofReply hread, hcarried]
  refine ⟨m, hframe, hsent, rfl, ?_⟩
  rw [Option.some.injEq, text?_inj, hsent, or_eq_or_nonBlank?_iff]

end Session

end Live

/-! ### A padded key -/

def blankReply : Core.Reply :=
  ⟨200, [], .whole []⟩

/-- A key with blanks around it is sent without them and reported with them. -/
theorem Live.Session.reports_key_padded :
    ∃ call read, (trusted.handle 0 "c1" (Relay.runUnderFrame " k1 ")).call? = some call ∧
      Core.JsonReply.ofReply "c1" blankReply = .ok read ∧ call.idempotencyKey = some "k1" ∧
      reportedKey? ((trusted.handle 0 "c1" (Relay.runUnderFrame " k1 ")).result
        (fun _ => .ok blankReply) fun _ => none).reply = some (.text " k1 ") := by
  have hcalled : (trusted.handle 0 "c1" (Relay.runUnderFrame " k1 ")).call?.isSome := by
    decide +kernel
  obtain ⟨call, hcall⟩ := Option.isSome_iff_exists.mp hcalled
  have hread : Core.JsonReply.ofReply "c1" blankReply
      = .ok ⟨200, Core.attachRequestId "c1" (.object []), none, none, false⟩ := rfl
  let core : Core.Request → Core.Answer := fun _ => .ok blankReply
  have hreply : core call = .ok blankReply := rfl
  obtain ⟨m, hframe, hsent, hreported, -⟩ := reports_key hcall hreply hread fun _ => none
  rw [(Relay.inFrame_runUnder " k1 ").ofText?, Option.some.injEq] at hframe
  have hcarried : m.carriedKey? = some " k1 " := by
    rw [← hframe]
    exact if_neg (by decide)
  have hnone : blankReply.headers.trimmed? "idempotency-key" = none := rfl
  have htrim : Text.nonBlank? " k1 " = some "k1" := by decide
  refine ⟨call, _, hcall, hread, ?_, ?_⟩
  · rw [hsent, hcarried, Option.bind_some, htrim]
  · rw [hreported, hnone, Option.none_or, hcarried]
    rfl

/-! ### Requests -/

namespace Relay

open Live.Session (key_of_ofReply key_of_command)

variable {r : Relay} {st : State} {requestId : String} {request : Http.Request}
  {call : Core.Request} {core : Core.Request → Core.Answer} {reply : Core.Reply}
  {read : Core.JsonReply}

theorem nonBlank?_trimmed? (h : Headers) (name : String) :
    (h.trimmed? name).bind Text.nonBlank? = h.trimmed? name := by
  rw [Headers.trimmed?]
  exact Text.nonBlank?_bind_nonBlank? _

/-- A request that is forwarded in JSON is told the key that was used. -/
theorem forwardJson_reports_key (hcall : (r.forwardJson st requestId request).call? = some call)
    (hreply : core call = .ok reply) (hread : Core.JsonReply.ofReply requestId reply = .ok read)
    (disk : FileWrite → Option String) :
    ((r.forwardJson st requestId request).result core disk).1.response.headers.text?
        "idempotency-key"
      = (reply.headers.trimmed? "idempotency-key").or call.idempotencyKey := by
  cases hbody : r.forwardBody request with
  | error refusal =>
    rw [forwardJson, hbody] at hcall
    cases hcall
  | ok body =>
    let wished : Core.Call := ⟨request.method, request.path, request.query, body,
      request.headers.trimmed? "idempotency-key"⟩
    have hforward : r.forwardJson st requestId request
        = .ask (r.client.command wished requestId) (commandAnswer st requestId
          (request.headers.trimmed? "idempotency-key")) := by
      rw [forwardJson, hbody]
      rfl
    rw [hforward] at hcall ⊢
    have hsent : call.idempotencyKey = request.headers.trimmed? "idempotency-key" := by
      rw [key_of_command (Exchange.of_call?_ask hcall)]
      exact nonBlank?_trimmed? _ _
    have hlegible : ∀ k, (read.idempotencyKey.or
        (request.headers.trimmed? "idempotency-key")) = some k → Header.Legible k := by
      intro k hk
      rw [key_of_ofReply hread] at hk
      rcases Option.or_eq_some_iff.mp hk with hnamed | ⟨-, hown⟩
      · exact Headers.legible_of_trimmed? hnamed
      · exact Headers.legible_of_trimmed? hown
    have hanswer : commandAnswer st requestId (request.headers.trimmed? "idempotency-key")
        (.ok reply) = (.of (replyResponse read (request.headers.trimmed? "idempotency-key")),
          st.bumpIf .coreErrors (Core.isServerError read.status)) := by
      simp only [commandAnswer, Except.bind, hread]
    rw [Exchange.result_ask_of_call? hcall hreply, hanswer]
    show (keyFields _ _ _).text? "idempotency-key" = _
    rw [text?_keyFields_key hlegible _ rfl, key_of_ofReply hread, hsent]

end Relay

end Gatehouse
