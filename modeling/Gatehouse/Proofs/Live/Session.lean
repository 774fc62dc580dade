import Gatehouse.Live.Session
import Gatehouse.Proofs.Access.Policy
import Gatehouse.Proofs.Core.Client
import Gatehouse.Proofs.Core.Exchange
import Gatehouse.Proofs.Keyed

/-!
# What a frame can cause

Whatever a frame asks for, it is answered by one record that carries the id of its message and the id
of the session's request, and it causes at most one call, which has passed the check of the path that
is sent. The kinds of messages differ only in what they wish for, so what holds of every wish is
stated once and the session only has to keep it.
-/

namespace Gatehouse

/-! ### Wishes -/

namespace Message

/-- Where a message leaves the cursor of the event feed. -/
def cursorAfter (m : Message) (cursor : Int) : Int :=
  if Text.lower (Text.trim m.kind) = "set_since_id" then
    match m.sinceId with
    | some since => max since 0
    | none => cursor
  else cursor

end Message

namespace Live

/-- Members that leave the id of the message in sight. -/
def SparesId (members : Json.Members) : Prop :=
  ∀ p ∈ members, p.1 ≠ "id"

/-- A plan that calls with one of two methods and whose reply leaves the id of the message in
sight. -/
structure Plan.Sound (plan : Plan) : Prop where
  method : plan.call.method = .get ∨ plan.call.method = .post
  extra : ∀ p, plan.extra = some p → p.1 ≠ "id"

/-- What every wish of a message keeps: a cursor at `before` is where it was, unless it is moved. -/
inductive Wish.Sound (before : Int) : Wish → Int → Prop where
  | answer {members : Json.Members} (spares : SparesId members) :
    Sound before (.answer members) before
  | seek {members : Json.Members} (next : Int) (spares : SparesId members) :
    Sound before (.seek next members) next
  | call {plan : Plan} (sound : plan.Sound) : Sound before (.call plan) before

theorem sparesId_errorMembers (text : String) : SparesId (errorMembers text) := by
  simp [SparesId, errorMembers]

theorem sparesId_notForwardable (path : String) : SparesId (notForwardable path) := by
  simp [SparesId, notForwardable, errorMembers]

variable {before : Int}

theorem Wish.Sound.of_answer {members : Json.Members} {cursor : Int}
    (h : Wish.Sound before (.answer members) cursor) : SparesId members ∧ cursor = before := by
  cases h with
  | answer spares => exact ⟨spares, rfl⟩

theorem Wish.Sound.of_seek {members : Json.Members} {next cursor : Int}
    (h : Wish.Sound before (.seek next members) cursor) : SparesId members ∧ cursor = next := by
  cases h with
  | seek next spares => exact ⟨spares, rfl⟩

theorem Wish.Sound.of_call {plan : Plan} {cursor : Int}
    (h : Wish.Sound before (.call plan) cursor) : plan.Sound ∧ cursor = before := by
  cases h with
  | call sound => exact ⟨sound, rfl⟩

theorem sound_getCall (path : String) (query : Option String) (reply : String)
    {extra : Option (String × String)} (h : ∀ p, extra = some p → p.1 ≠ "id") :
    Wish.Sound before (.call ⟨getCall path query, reply, extra⟩) before :=
  .call ⟨.inl rfl, h⟩

theorem sound_postCall (path : String) (body : Option Json.Members) (key : Option String)
    (reply : String) {extra : Option (String × String)} (h : ∀ p, extra = some p → p.1 ≠ "id") :
    Wish.Sound before (.call ⟨postCall path body key, reply, extra⟩) before :=
  .call ⟨.inr rfl, h⟩

theorem sound_error (text : String) : (Wish.answer (errorMembers text)).Sound before before :=
  .answer (sparesId_errorMembers text)

end Live

namespace Message

open Live

variable {before : Int}

theorem commandMethod?_eq_some {m : Message} {method : Method}
    (h : m.commandMethod? = some method) : method = .get ∨ method = .post := by
  rw [commandMethod?] at h
  split at h
  · split at h
    · exact .inl (Option.some.inj h).symm
    · split at h
      · exact .inr (Option.some.inj h).symm
      · cases h
  · split at h
    · exact .inr (Option.some.inj h).symm
    · exact .inl (Option.some.inj h).symm

theorem sound_command (m : Message) : m.command.Sound before before := by
  rw [command]
  split
  · exact sound_error _
  · next method hmethod =>
    split
    · exact .answer (sparesId_notForwardable _)
    · exact .call ⟨commandMethod?_eq_some hmethod, by simp⟩

theorem sound_onTerminal (m : Message) {wish : String → Wish}
    (h : ∀ id, (wish id).Sound before before) : (m.onTerminal wish).Sound before before := by
  rw [onTerminal]
  split
  · exact h _
  · exact sound_error _

theorem terminalExtra_ne_id {id : String} (p : String × String)
    (h : terminalExtra id = some p) : p.1 ≠ "id" := by
  rw [← Option.some.inj h]
  simp

theorem sound_terminalPoll (m : Message) (id : String) : (m.terminalPoll id).Sound before before :=
  sound_getCall _ _ _ terminalExtra_ne_id

theorem sound_terminalType (m : Message) (id : String) :
    (m.terminalType id).Sound before before := by
  rw [terminalType]
  split
  · exact sound_error _
  · exact sound_postCall _ _ _ _ terminalExtra_ne_id

theorem sound_terminalClose (m : Message) (id : String) :
    (m.terminalClose id).Sound before before :=
  sound_postCall _ _ _ _ terminalExtra_ne_id

theorem method_of_browserRoute? {kind : String} {route : BrowserRoute}
    (h : browserRoute? kind = some route) : route.method = .get ∨ route.method = .post := by
  simp only [browserRoute?, Option.bind_eq_bind, Option.bind_eq_some_iff] at h
  obtain ⟨name, -, a, -, hroute⟩ := h
  cases a <;> cases hroute <;> simp

theorem sound_onBrowser (m : Message) {kind : String} {route : BrowserRoute}
    (h : browserRoute? kind = some route) : (m.onBrowser route).Sound before before := by
  refine .call ⟨method_of_browserRoute? h, fun p hp => ?_⟩
  rw [← Option.some.inj hp]
  simp

theorem sound_wish (m : Message) (cursor : Int) : m.wish.Sound cursor (m.cursorAfter cursor) := by
  have hstays (h : Text.lower (Text.trim m.kind) ≠ "set_since_id") :
      m.cursorAfter cursor = cursor := if_neg h
  rw [wish]
  split
  · next hkind =>
    rw [hstays (by simp [hkind])]
    exact .answer (by simp [SparesId])
  · next hkind =>
    rw [cursorAfter, if_pos hkind]
    cases m.sinceId with
    | some since => exact .seek _ (by simp [SparesId])
    | none => exact sound_error _
  · next hkind =>
    rw [hstays (by simp [hkind])]
    exact sound_command m
  · next hkind =>
    rw [hstays (by simp [hkind])]
    exact sound_getCall _ _ _ (by simp)
  · next hkind =>
    rw [hstays (by simp [hkind])]
    exact sound_postCall _ _ _ _ (by simp)
  · next hkind =>
    rw [hstays (by simp [hkind])]
    exact sound_onTerminal m fun id => sound_terminalPoll m id
  · next hkind =>
    rw [hstays (by simp [hkind])]
    exact sound_onTerminal m fun id => sound_terminalType m id
  · next hkind =>
    rw [hstays (by simp [hkind])]
    exact sound_onTerminal m fun id => sound_terminalClose m id
  · next hkind =>
    rw [hstays fun hseek => by simp_all]
    split
    · next route hroute => exact sound_onBrowser m hroute
    · exact sound_error _

end Message

namespace Live

/-! ### Replies -/

/-- What handling a frame leaves: one record with the id of the message, if there is one, and the id
of the session's request, and the cursor where the message put it. -/
structure Answered (s : Session) (m : Option Message) (cursor : Int) (after : Handled) : Prop where
  reply : ∃ members, after.reply = .object members ∧
    Keyed.get? "id" members = some ((m.bind (·.id)).getD .null) ∧
    Keyed.get? "request_id" members = some (.text s.requestId)
  cursor : after.cursor = (m.map (·.cursorAfter cursor)).getD cursor

/-- A call that a session may make: with one of two methods, for a path that is forwarded in JSON,
that the caller's scopes allow, and that is the one sent. -/
structure Dispatched (s : Session) (call : Core.Request) : Prop where
  method : call.method = .get ∨ call.method = .post
  path : ∃ path query, path ≠ Route.realtimePath ∧ Route.classify path = some .json ∧
    s.caller.mayAccess s.policy call.method path = true ∧
    s.client.url? path query = some call.url

theorem record_ids (s : Session) (id : Json) {members : Json.Members} (h : SparesId members) :
    ∃ all, s.record (("id", id) :: members) = .object all ∧ Keyed.get? "id" all = some id ∧
      Keyed.get? "request_id" all = some (.text s.requestId) := by
  refine ⟨_, rfl, ?_, ?_⟩
  · rw [List.cons_append]
    refine Keyed.get?_ofPairs_cons (fun p hp => ?_) id
    rcases List.mem_append.mp hp with hp | hp
    · exact h p hp
    · rw [List.mem_singleton.mp hp]
      simp
  · rw [Keyed.ofPairs_concat, Keyed.get?_insert_self]

theorem sparesId_replyMembers {plan : Plan} (h : plan.Sound) (commandId : String)
    (r : Core.JsonReply) : SparesId (Session.replyMembers plan commandId r) := by
  intro p hp
  rw [Session.replyMembers] at hp
  rcases List.mem_append.mp hp with hp | hp
  · simp only [List.mem_cons, List.not_mem_nil, or_false] at hp
    rcases hp with rfl | rfl | rfl | rfl | rfl | rfl | rfl
    all_goals simp
  · split at hp
    · next name value hextra =>
      rw [List.mem_singleton.mp hp]
      exact h.extra _ hextra
    · cases hp

theorem isForwardable_iff (path : String) :
    Session.isForwardable path = true
      ↔ path ≠ Route.realtimePath ∧ Route.classify path = some .json := by
  simp [Session.isForwardable]

namespace Session

variable {s : Session} {cursor : Int} {commandId frame : String} {call : Core.Request}

theorem isBrief_relay (s : Session) (plan : Plan) (commandId : String) (cursor : Int)
    (reply : Json.Members → Json) : (s.relay plan commandId cursor reply).IsBrief := by
  simp only [relay]
  split
  · exact .done _
  · split
    · exact .done _
    · exact .ask _ _

theorem isBrief_handle (s : Session) (cursor : Int) (commandId frame : String) :
    (s.handle cursor commandId frame).IsBrief := by
  rw [handle]
  split
  · exact .done _
  · dsimp only
    split
    · exact .done _
    · exact .done _
    · exact isBrief_relay s _ commandId cursor _

theorem dispatched_of_relay {plan : Plan} {reply : Json.Members → Json} (hplan : plan.Sound)
    (h : (s.relay plan commandId cursor reply).call? = some call) : Dispatched s call := by
  simp only [relay] at h
  split at h
  · cases h
  · next hforwardable =>
    split at h
    · cases h
    · next haccess =>
      rw [Bool.not_eq_true, Bool.not_eq_false', isForwardable_iff] at hforwardable
      rw [Bool.not_eq_true, Bool.not_eq_false'] at haccess
      obtain ⟨hurl, hmethod, -⟩ := Core.Client.of_command (Exchange.of_call?_ask h)
      rw [← hmethod] at haccess
      exact ⟨hmethod ▸ hplan.method, _, _, hforwardable.1, hforwardable.2, haccess, hurl⟩

theorem dispatched_of_handle (h : (s.handle cursor commandId frame).call? = some call) :
    Dispatched s call := by
  simp only [handle] at h
  split at h
  · cases h
  · next m _ =>
    have hsound := m.sound_wish cursor
    split at h
    · cases h
    · cases h
    · next plan hwish =>
      rw [hwish] at hsound
      exact dispatched_of_relay hsound.of_call.1 h

/-- However the core behaves, a plan is answered once and leaves the cursor where it is. -/
theorem result_relay (s : Session) (cursor : Int) (commandId : String) {plan : Plan}
    (hplan : plan.Sound) (reply : Json.Members → Json)
    (core : Core.Request → Core.Answer) (disk : FileWrite → Option String) :
    ∃ members failed, SparesId members ∧
      (s.relay plan commandId cursor reply).result core disk = ⟨reply members, cursor, failed⟩ := by
  simp only [relay]
  split
  · exact ⟨_, _, sparesId_notForwardable _, rfl⟩
  · split
    · exact ⟨_, _, by simp [SparesId, errorMembers], rfl⟩
    · refine Exchange.result_ask core disk _
        (p := fun after : Handled => ∃ members failed, SparesId members ∧
          after = ⟨reply members, cursor, failed⟩) fun outcome => ?_
      split
      · exact ⟨_, _, sparesId_replyMembers hplan commandId _, rfl⟩
      · exact ⟨_, _, sparesId_errorMembers _, rfl⟩

theorem answered_of_handle (s : Session) (cursor : Int) (commandId frame : String)
    (core : Core.Request → Core.Answer) (disk : FileWrite → Option String) :
    Answered s (Message.ofText? frame) cursor
      ((s.handle cursor commandId frame).result core disk) := by
  rw [handle]
  split
  · next hframe =>
    rw [hframe]
    exact ⟨record_ids s .null (sparesId_errorMembers _), rfl⟩
  · next m hframe =>
    rw [hframe]
    have hsound := m.sound_wish cursor
    dsimp only
    split
    · next members hwish =>
      rw [hwish] at hsound
      obtain ⟨hmembers, hcursor⟩ := hsound.of_answer
      refine ⟨record_ids s _ hmembers, ?_⟩
      rw [Option.map_some, Option.getD_some, hcursor]
      rfl
    · next next members hwish =>
      rw [hwish] at hsound
      obtain ⟨hmembers, hcursor⟩ := hsound.of_seek
      refine ⟨record_ids s _ hmembers, ?_⟩
      rw [Option.map_some, Option.getD_some, hcursor]
      rfl
    · next plan hwish =>
      rw [hwish] at hsound
      obtain ⟨hplan, hcursor⟩ := hsound.of_call
      obtain ⟨members, failed, hmembers, hresult⟩ := result_relay s cursor commandId hplan
        (fun members => s.record (("id", m.id.getD .null) :: members)) core disk
      rw [hresult]
      refine ⟨record_ids s _ hmembers, ?_⟩
      rw [Option.map_some, Option.getD_some, hcursor]

/-- A frame is answered by one record however the core behaves, and causes at most one call, which
has been checked; a caller that may only read causes no POST. -/
theorem handle_gated (s : Session) (cursor : Int) (commandId frame : String) :
    (∀ core disk, Answered s (Message.ofText? frame) cursor
      ((s.handle cursor commandId frame).result core disk)) ∧
    (∀ call, (s.handle cursor commandId frame).call? = some call → Dispatched s call ∧
      ((∀ scope, s.caller.holds scope = true → scope = .read) → call.method ≠ .post)) ∧
    (∀ core disk, ((s.handle cursor commandId frame).calls core disk).length ≤ 1 ∧
      ∀ call ∈ (s.handle cursor commandId frame).calls core disk,
        (s.handle cursor commandId frame).call? = some call) ∧
    ∀ w : World, ∃ calls,
      (w.run (s.handle cursor commandId frame)).2.asked = w.asked ++ calls ∧ calls.length ≤ 1 ∧
        ∀ call ∈ calls, (s.handle cursor commandId frame).call? = some call := by
  have hbrief := s.isBrief_handle cursor commandId frame
  refine ⟨answered_of_handle s cursor commandId frame, fun call hcall => ?_, hbrief.calls_le_one,
    fun w => w.asked_run hbrief⟩
  have hdispatched := dispatched_of_handle hcall
  refine ⟨hdispatched, fun hreads hpost => ?_⟩
  obtain ⟨path, query, -, -, haccess, -⟩ := hdispatched.path
  rw [hpost] at haccess
  exact Policy.required_post_ne_read s.policy path (hreads _ haccess)

def reader : Session where
  caller := .session "reader" "s1" none (.ofList [.read]) 0
  policy := .deny
  client := ⟨Core.Client.localBase, none⟩
  requestId := "r1"
  poll := .ofTexts none none

def jobsCall : Core.Request where
  method := .get
  url := { Core.Client.localBase with path := .segments ["jobs"] }
  requestId := "c1"
  authorization := none
  contentType := some "application/json"
  idempotencyKey := none
  body := none

theorem handle_gated_jobs :
    (reader.handle 0 "c1" "\x7b\"type\":\"command\",\"path\":\"/jobs\"\x7d").call? = some jobsCall ∧
      Dispatched reader jobsCall := by
  have hcall : (reader.handle 0 "c1" "\x7b\"type\":\"command\",\"path\":\"/jobs\"\x7d").call?
      = some jobsCall := by
    decide +kernel
  exact ⟨hcall, ((handle_gated reader 0 "c1" _).2.1 jobsCall hcall).1⟩

end Session

end Live

end Gatehouse
