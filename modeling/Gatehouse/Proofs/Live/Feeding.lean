import Gatehouse.Proofs.Live.Log
import Gatehouse.Proofs.Live.Order
import Gatehouse.Proofs.Live.Schedule

/-!
# What the feed passes on

The cursor moves before a batch is passed on, and a client may set it at any time, also while a poll is
under way. Still, of the logged events between where it was last set and where it stands none is
missing, if those in flight are counted: a batch moves the cursor only from where it stood when the
batch was polled for. What a step can do to cursor and records is said once, in `Effect`; that nothing
is missing (`Fed`) and, where no frame sets the cursor, nothing is repeated (`Quiet`) is read off it.
-/

namespace Gatehouse.Live

/-! ### Setting the cursor -/

/-- Where a frame sets the cursor. -/
def seek? (frame : String) : Option Int :=
  (Message.ofText? frame).bind fun m =>
    if Text.lower (Text.trim m.kind) = "set_since_id" then m.sinceId.map (max · 0) else none

theorem cursor_handled (s : Session) (t : Turn) (cursor : Int) (frame : String) :
    (s.handled t cursor frame).cursor = (seek? frame).getD cursor := by
  rw [Session.handled, (s.answered_of_handle cursor t.commandId frame t.core t.disk).cursor, seek?]
  cases Message.ofText? frame with
  | none => rfl
  | some m =>
    rw [Option.map_some, Option.getD_some, Option.bind_some, Message.cursorAfter]
    by_cases hkind : Text.lower (Text.trim m.kind) = "set_since_id"
    · rw [if_pos hkind, if_pos hkind]
      cases m.sinceId <;> rfl
    · rw [if_neg hkind, if_neg hkind]
      rfl

theorem seek?_nonneg {frame : String} {cursor : Int} (h : seek? frame = some cursor) :
    0 ≤ cursor := by
  obtain ⟨m, -, hm⟩ := Option.bind_eq_some_iff.mp h
  split at hm
  · obtain ⟨since, -, rfl⟩ := Option.map_eq_some_iff.mp hm
    exact le_max_right since 0
  · cases hm

def Pump.since? : Pump → Option Int
  | polling since => some since
  | received since _ => some since
  | _ => none

namespace Connection

/-- Where the cursor was last set: by the last frame that set it, or at the start. -/
def setAt (since : Int) (c : Connection) : Int :=
  (c.handled.filterMap seek?).getLast?.getD (max since 0)

/-- What the pump sent. -/
def pushed (c : Connection) : List Json :=
  c.sentBy .pump

/-- What the pump sent, and what it is about to send. -/
def issued (c : Connection) : List Json :=
  c.pushed ++ c.inFlight

/-- The events that were passed on, or are in flight. -/
def fed (s : Session) (c : Connection) : List Event :=
  c.issued.filterMap s.told?

theorem setAt_concat (since : Int) {c after : Connection} {frame : String}
    (h : after.handled = c.handled ++ [frame]) :
    after.setAt since = (seek? frame).getD (c.setAt since) := by
  rw [setAt, setAt, h, List.filterMap_append]
  cases hseek : seek? frame with
  | none => simp [hseek]
  | some cursor => simp [hseek]

/-! ### What a step does to the feed -/

/-- The feed stays as it is, though what is in flight may be lost with a record that the client
refuses. -/
structure Stays (s : Session) (answers : Core.Request → Core.Answer → Prop) (c after : Connection) :
    Prop where
  cursor : after.cursor = c.cursor
  handled : after.handled = c.handled
  issued : after.issued <+: c.issued
  kept : after.isBroken = false → after.issued = c.issued ∧ c.isBroken = false
  polled : ∀ since, after.pump.since? = some since → since = c.cursor ∨ c.pump.since? = some since
  received : ∀ since outcome, after.pump = .received since outcome →
    c.pump = .received since outcome ∨ s.Brings answers since outcome

/-- A frame is handled. -/
structure Handles (frame : String) (c after : Connection) : Prop where
  cursor : after.cursor = (seek? frame).getD c.cursor
  handled : after.handled = c.handled ++ [frame]
  issued : after.issued = c.issued
  isBroken : after.isBroken = c.isBroken
  pump : after.pump = c.pump

section Effects

variable [CharTables]

/-- A batch is taken. -/
structure Advances (s : Session) (since : Int) (outcome : Outcome) (c after : Connection) :
    Prop where
  stands : c.pump = .received since outcome
  cursor : after.cursor = (s.feed outcome).advance since c.cursor
  handled : after.handled = c.handled
  issued : after.issued = c.issued ++ (s.feed outcome).envelopes
  isBroken : after.isBroken = c.isBroken
  pump : after.pump.since? = none

/-- What a step can do to the feed. -/
inductive Effect (s : Session) (answers : Core.Request → Core.Answer → Prop)
    (c after : Connection) : Prop where
  | stays (h : Stays s answers c after)
  | handles (frame : String) (h : Handles frame c after)
  | advances (since : Int) (outcome : Outcome) (h : Advances s since outcome c after)

variable {s : Session} {turns : Nat → Turn} {answers : Core.Request → Core.Answer → Prop}
  {c after : Connection}

theorem Effect.of_idle (hcursor : after.cursor = c.cursor) (hhandled : after.handled = c.handled)
    (hpushed : after.pushed = c.pushed) (hpump : after.pump = c.pump)
    (hbroken : after.isBroken = false → c.isBroken = false) : Effect s answers c after := by
  have hissued : after.issued = c.issued := by
    rw [issued, issued, inFlight, inFlight, hpushed, hpump]
  refine .stays ⟨hcursor, hhandled, hissued ▸ List.prefix_rfl, fun h => ⟨hissued, hbroken h⟩, ?_, ?_⟩
  · intro since hsince
    exact .inr (hpump ▸ hsince)
  · intro since outcome hreceived
    exact .inl (hpump ▸ hreceived)

theorem Effect.of_empty (hcursor : after.cursor = c.cursor) (hhandled : after.handled = c.handled)
    (hpushed : after.pushed = c.pushed) (hbroken : after.isBroken = c.isBroken)
    (hbefore : c.inFlight = []) (hafter : after.inFlight = [])
    (hpolled : ∀ since, after.pump.since? = some since →
      since = c.cursor ∨ c.pump.since? = some since)
    (hreceived : ∀ since outcome, after.pump = .received since outcome →
      c.pump = .received since outcome ∨ s.Brings answers since outcome) :
    Effect s answers c after := by
  have hissued : after.issued = c.issued := by
    rw [issued, issued, hpushed, hbefore, hafter]
  exact .stays ⟨hcursor, hhandled, hissued ▸ List.prefix_rfl,
    fun h => ⟨hissued, hbroken.symm.trans h⟩, hpolled, hreceived⟩

theorem effect_of_loopStep (hunborn : c.loop = .greeting → c.pump = .unborn)
    (h : LoopStep s turns c after) : Effect s answers c after := by
  have hown {record : Json} {after : Connection} (hsent : after.sent = c.sent ++ [(.loop, record)]) :
      after.pushed = c.pushed := sentBy_concat_of_ne hsent (by decide)
  cases h with
  | greet stands =>
    exact .of_empty rfl rfl (hown rfl) rfl (by rw [inFlight, hunborn stands]) rfl
      (by simp [Pump.since?]) (by simp)
  | unheard stands => exact .of_idle rfl rfl rfl rfl (by simp)
  | take frame rest stands comes => exact .of_idle rfl rfl rfl rfl id
  | handle frame stands =>
    exact .handles frame ⟨cursor_handled s _ c.cursor frame, rfl, rfl, rfl, rfl⟩
  | reply record stands => exact .of_idle rfl rfl (hown rfl) rfl id
  | refused record stands => exact .of_idle rfl rfl rfl rfl (by simp)
  | gone stands none => exact .of_idle rfl rfl rfl rfl id
  | cancelled stands ends => exact .of_idle rfl rfl rfl rfl id
  | join stands stopped => exact .of_idle rfl rfl rfl rfl id

theorem effect_of_pumpStep (h : PumpStep s answers c after) : Effect s answers c after := by
  cases h with
  | check stands lasts =>
    exact .of_empty rfl rfl rfl rfl (by rw [inFlight, stands]) rfl (by simp [Pump.since?]) (by simp)
  | poll stands =>
    refine .of_empty rfl rfl rfl rfl (by rw [inFlight, stands]) rfl ?_ (by simp)
    intro since hsince
    exact .inl (Option.some.inj hsince).symm
  | receive since outcome stands brought =>
    refine .of_empty rfl rfl rfl rfl (by rw [inFlight, stands]) rfl ?_ ?_
    · intro since' hsince
      exact .inr (by rw [stands]; exact hsince)
    · intro since' outcome' hreceived
      obtain ⟨rfl, rfl⟩ := Pump.received.inj hreceived
      exact .inr brought
  | advance since outcome stands =>
    refine .advances since outcome ⟨stands, rfl, rfl, ?_, rfl, rfl⟩
    rw [issued, issued, inFlight, inFlight, stands, List.append_nil]
    rfl
  | pass record rest pause stands =>
    have hissued : issued { c with
        sent := c.sent ++ [(.pump, record)], pump := .passing rest pause } = c.issued := by
      rw [issued, issued, pushed, sentBy_concat_self rfl, inFlight, inFlight, stands,
        List.append_assoc]
      rfl
    exact .stays ⟨rfl, rfl, hissued ▸ List.prefix_rfl, fun h => ⟨hissued, h⟩,
      by simp [Pump.since?], by simp⟩
  | refused record rest pause stands =>
    refine .stays ⟨rfl, rfl, ?_, by simp, by simp [Pump.since?], by simp⟩
    show c.pushed ++ [] <+: c.pushed ++ c.inFlight
    rw [List.append_nil]
    exact List.prefix_append _ _
  | again stands =>
    exact .of_empty rfl rfl rfl rfl (by rw [inFlight, stands]) rfl (by simp [Pump.since?]) (by simp)
  | pause pause stands long =>
    exact .of_empty rfl rfl rfl rfl (by rw [inFlight, stands]) rfl (by simp [Pump.since?]) (by simp)
  | wake stands =>
    exact .of_empty rfl rfl rfl rfl (by rw [inFlight, stands]) rfl (by simp [Pump.since?]) (by simp)
  | stop stands ends =>
    have hempty : c.inFlight = [] := by
      rw [inFlight]
      obtain stands | ⟨since, stands⟩ | stands := stands
      all_goals rw [stands]
    exact .of_empty rfl rfl rfl rfl hempty rfl (by simp [Pump.since?]) (by simp)

theorem effect_of_step (hunborn : c.loop = .greeting → c.pump = .unborn)
    (h : Step s turns answers c after) : Effect s answers c after := by
  cases h with
  | loop h => exact effect_of_loopStep hunborn h
  | pump h => exact effect_of_pumpStep h

/-- What was handled stays handled, and without a frame that sets it the cursor only moves on. -/
theorem Effect.mono (h : Effect s answers c after) :
    c.handled <+: after.handled ∧
      ((∀ frame ∈ after.handled, seek? frame = none) → c.cursor ≤ after.cursor) := by
  cases h with
  | stays h => exact ⟨h.handled ▸ List.prefix_rfl, fun _ => h.cursor.ge⟩
  | handles frame h =>
    refine ⟨h.handled ▸ List.prefix_append _ _, fun hquiet => ?_⟩
    rw [h.cursor, hquiet frame (by simp [h.handled])]
    exact le_refl c.cursor
  | advances since outcome h =>
    refine ⟨h.handled ▸ List.prefix_rfl, fun _ => ?_⟩
    have hcursor := h.cursor
    obtain ⟨hstays, -⟩ | ⟨next, -, -, hstart, hmoves, hnext⟩ :=
      advance_feed_cases s outcome since c.cursor
    · omega
    · omega

theorem unborn_of_step (hunborn : c.loop = .greeting → c.pump = .unborn)
    (h : Step s turns answers c after) : after.loop = .greeting → after.pump = .unborn := by
  intro hgreeting
  cases h with
  | loop h => cases h <;> simp_all
  | pump h =>
    have hframe := pumpFrame_of_pumpStep h
    have hlive := hframe.live
    rw [hunborn (hframe.loop.symm.trans hgreeting)] at hlive
    cases hlive

end Effects

/-! ### What is asked -/

/-- What the pump asks: polls from where the cursor stood, and for the poll under way one, if it can be
sent. -/
structure Asks (s : Session) (c : Connection) : Prop where
  polls : ∀ r ∈ c.asked, ∃ since, 0 ≤ since ∧ s.client.IsPoll since r
  last : ∀ since r, c.pump = .polling since → s.client.poll since s.poll s.requestId = some r →
    r.isSendable = true → c.asked.getLast? = some r

section Asks

variable [CharTables] {s : Session} {turns : Nat → Turn}
  {answers : Core.Request → Core.Answer → Prop} {c after : Connection}

theorem Asks.of_step (h : Asks s c) (hnonneg : 0 ≤ c.cursor) (hstep : Step s turns answers c after) :
    Asks s after := by
  have hkept : after.asked = c.asked → (∀ since, after.pump = .polling since → after.pump = c.pump) →
      Asks s after := by
    intro hasked hpump
    refine ⟨hasked ▸ h.polls, fun since r hpolling => ?_⟩
    rw [hasked]
    exact h.last since r ((hpump since hpolling).symm.trans hpolling)
  cases hstep with
  | loop hstep =>
    cases hstep
    case greet => exact hkept rfl (by simp)
    all_goals exact hkept rfl fun _ _ => rfl
  | pump hstep =>
    cases hstep
    case poll stands =>
      refine ⟨fun r hr => ?_, fun since r hpolling hpoll hsendable => ?_⟩
      · rcases List.mem_append.mp hr with hr | hr
        · exact h.polls r hr
        · have hpoll := Exchange.of_call?_ask (Option.mem_toList.mp hr)
          exact ⟨c.cursor, hnonneg, Core.Client.isPoll_of_poll hpoll⟩
      · obtain rfl := Pump.polling.inj hpolling
        show (c.asked ++ (s.pollRequest c.cursor).call?.toList).getLast? = some r
        rw [Session.pollRequest, Exchange.call?_ask, hpoll, Option.filter_some, if_pos hsendable]
        simp
    all_goals exact hkept rfl (by simp)

end Asks

/-! ### Nothing is missing -/

section Completeness

variable [CharTables] {s : Session} {since : Int} {log : List Event} {c after : Connection}

/-- What every schedule keeps between the log, the cursor and what was passed on. -/
structure Fed (s : Session) (since : Int) (log : List Event) (c : Connection) : Prop where
  unborn : c.loop = .greeting → c.pump = .unborn
  nonneg : 0 ≤ c.cursor
  anchored : c.cursor = c.setAt since ∨ ∃ e ∈ log, e.id? = some c.cursor
  received : ∀ since outcome, c.pump = .received since outcome → Conforms log since outcome
  logged : ∀ record ∈ c.issued, (∃ e ∈ log, record = s.tells e) ∨ ∃ failure, record = s.reports failure
  complete : c.isBroken = false → ∀ e ∈ log, ∀ id, e.id? = some id → c.setAt since < id →
    id ≤ c.cursor → s.tells e ∈ c.issued

theorem fed_start (s : Session) (since : Int) (log : List Event) (frames : List String) :
    Fed s since log (start since frames) where
  unborn _ := rfl
  nonneg := le_max_right since 0
  anchored := .inl rfl
  received := by simp [start]
  logged := by simp [start, issued, pushed, sentBy, inFlight]
  complete := by
    intro _ e _ id _ hlt hle
    exact absurd (lt_of_lt_of_le hlt hle) (lt_irrefl _)

/-- The log may grow: what is added lies behind the cursor only if the cursor was set there. -/
theorem Fed.concat (h : Fed s since log c) {last : Event} (hlog : IsLog (log ++ [last])) :
    Fed s since (log ++ [last]) c where
  unborn := h.unborn
  nonneg := h.nonneg
  anchored := by
    obtain hset | ⟨e, he, hid⟩ := h.anchored
    · exact .inl hset
    · exact .inr ⟨e, List.mem_append_left _ he, hid⟩
  received since outcome hreceived := (h.received since outcome hreceived).concat last
  logged := by
    intro record hrecord
    obtain ⟨e, he, htells⟩ | hreports := h.logged record hrecord
    · exact .inl ⟨e, List.mem_append_left _ he, htells⟩
    · exact .inr hreports
  complete := by
    intro hopen e he id hid hlt hle
    rcases List.mem_append.mp he with he | he
    · exact h.complete hopen e he id hid hlt hle
    · rw [List.mem_singleton.mp he] at hid
      obtain hset | ⟨e', he', hid'⟩ := h.anchored
      · omega
      · have hless := hlog.lt_of_concat he' hid' hid
        omega

theorem Fed.of_stays (h : Fed s since log c)
    (hunborn : after.loop = .greeting → after.pump = .unborn)
    (hstays : Stays s (Answers log s.client) c after) : Fed s since log after := by
  have hset : after.setAt since = c.setAt since := by rw [setAt, setAt, hstays.handled]
  refine ⟨hunborn, hstays.cursor ▸ h.nonneg, ?_, ?_, ?_, ?_⟩
  · rw [hstays.cursor, hset]
    exact h.anchored
  · intro since' outcome hstands
    obtain hbefore | hbrought := hstays.received since' outcome hstands
    · exact h.received since' outcome hbefore
    · exact conforms_of_brings hbrought
  · intro record hrecord
    exact h.logged record (hstays.issued.subset hrecord)
  · intro hopen e he id hid hlt hle
    obtain ⟨hsame, hwas⟩ := hstays.kept hopen
    rw [hset] at hlt
    rw [hstays.cursor] at hle
    rw [hsame]
    exact h.complete hwas e he id hid hlt hle

theorem Fed.of_handles (h : Fed s since log c)
    (hunborn : after.loop = .greeting → after.pump = .unborn) {frame : String}
    (hhandles : Handles frame c after) : Fed s since log after := by
  have hset := setAt_concat since hhandles.handled
  have hcursor := hhandles.cursor
  have hreceived : ∀ since outcome, after.pump = .received since outcome →
      Conforms log since outcome := by
    rw [hhandles.pump]
    exact h.received
  cases hseek : seek? frame with
  | some cursor =>
    rw [hseek, Option.getD_some] at hset hcursor
    refine ⟨hunborn, ?_, .inl (hcursor.trans hset.symm), hreceived, hhandles.issued ▸ h.logged, ?_⟩
    · rw [hcursor]
      exact seek?_nonneg hseek
    · -- no number lies between the cursor and where it has just been set
      intro _ e _ id _ hlt hle
      omega
  | none =>
    rw [hseek, Option.getD_none] at hset hcursor
    refine ⟨hunborn, hcursor ▸ h.nonneg, ?_, hreceived, hhandles.issued ▸ h.logged, ?_⟩
    · rw [hcursor, hset]
      exact h.anchored
    · rw [hhandles.isBroken, hset, hcursor, hhandles.issued]
      exact h.complete

theorem Fed.of_advances (h : Fed s since log c) (hlog : IsLog log)
    (hunborn : after.loop = .greeting → after.pump = .unborn) {start : Int} {outcome : Outcome}
    (hadvances : Advances s start outcome c after) : Fed s since log after := by
  have hconforms := h.received start outcome hadvances.stands
  have hset : after.setAt since = c.setAt since := by rw [setAt, setAt, hadvances.handled]
  have hreceived : ∀ since outcome, after.pump = .received since outcome →
      Conforms log since outcome := by
    intro since' outcome' hafter
    have hpump := hadvances.pump
    rw [hafter] at hpump
    cases hpump
  have hlogged : ∀ record ∈ after.issued,
      (∃ e ∈ log, record = s.tells e) ∨ ∃ failure, record = s.reports failure := by
    intro record hrecord
    rw [hadvances.issued] at hrecord
    rcases List.mem_append.mp hrecord with hrecord | hrecord
    · exact h.logged record hrecord
    · obtain ⟨e, he, htells⟩ | hreports := Session.of_mem_feed hrecord
      · exact .inl ⟨e, (hconforms.mem he).1, htells⟩
      · exact .inr hreports
  have hkeeps : after.isBroken = false → ∀ e ∈ log, ∀ id, e.id? = some id →
      after.setAt since < id → id ≤ c.cursor → s.tells e ∈ after.issued := by
    intro hopen e he id hid hlt hle
    rw [hadvances.issued]
    exact List.mem_append_left _
      (h.complete (hadvances.isBroken.symm.trans hopen) e he id hid (hset ▸ hlt) hle)
  have hcursor := hadvances.cursor
  obtain ⟨hstays, -⟩ | ⟨next, hmem, -, hstart, hmoves, hnext⟩ :=
    advance_feed_cases s outcome start c.cursor
  · rw [hstays] at hcursor
    refine ⟨hunborn, hcursor ▸ h.nonneg, ?_, hreceived, hlogged, hcursor ▸ hkeeps⟩
    rw [hcursor, hset]
    exact h.anchored
  · rw [hnext] at hcursor
    obtain ⟨e, he, hid⟩ := mem_idsOf.mp hmem
    have hnonneg := h.nonneg
    refine ⟨hunborn, by omega, .inr ⟨e, (hconforms.mem he).1, ?_⟩, hreceived, hlogged, ?_⟩
    · rw [hcursor]
      exact hid
    · intro hopen e he id hid hlt hle
      -- up to the old cursor nothing was missing, and from there the batch has everything
      by_cases hold : id ≤ c.cursor
      · exact hkeeps hopen e he id hid hlt hold
      · have hbatch := hconforms.complete hlog hmem he hid (by omega) (by omega)
        rw [hadvances.issued]
        exact List.mem_append_right _ (s.tells_mem_feed hbatch)

theorem Fed.of_effect (h : Fed s since log c) (hlog : IsLog log)
    (hunborn : after.loop = .greeting → after.pump = .unborn)
    (heffect : Effect s (Answers log s.client) c after) : Fed s since log after := by
  cases heffect with
  | stays hstays => exact h.of_stays hunborn hstays
  | handles frame hhandles => exact h.of_handles hunborn hhandles
  | advances since outcome hadvances => exact h.of_advances hlog hunborn hadvances

end Completeness

/-! ### Nothing is repeated -/

section Order

variable {s : Session} {answers : Core.Request → Core.Answer → Prop} {log : List Event}
  {c after : Connection}

/-- What a schedule keeps on which no frame sets the cursor. -/
structure Quiet (s : Session) (c : Connection) : Prop where
  polled : ∀ since, c.pump.since? = some since → since = c.cursor
  increasing : (idsOf (c.fed s)).Pairwise (· < ·)
  below : ∀ id ∈ idsOf (c.fed s), id ≤ c.cursor

theorem quiet_start (s : Session) (since : Int) (frames : List String) :
    Quiet s (start since frames) where
  polled := by simp [start, Pump.since?]
  increasing := .nil
  below := by simp [start, Connection.fed, issued, pushed, sentBy, inFlight, idsOf]

theorem Quiet.of_stays (h : Quiet s c) (hstays : Stays s answers c after) : Quiet s after := by
  have hinitial : idsOf (after.fed s) <+: idsOf (c.fed s) :=
    (hstays.issued.filterMap s.told?).filterMap Event.id?
  refine ⟨fun since hsince => ?_, h.increasing.sublist hinitial.sublist, fun id hid => ?_⟩
  · rw [hstays.cursor]
    obtain hpoll | hbefore := hstays.polled since hsince
    · exact hpoll
    · exact h.polled since hbefore
  · rw [hstays.cursor]
    exact h.below id (hinitial.subset hid)

theorem Quiet.of_handles (h : Quiet s c) {frame : String} (hhandles : Handles frame c after)
    (hseek : seek? frame = none) : Quiet s after := by
  have hcursor : after.cursor = c.cursor := by rw [hhandles.cursor, hseek, Option.getD_none]
  have hfed : after.fed s = c.fed s := by rw [Connection.fed, Connection.fed, hhandles.issued]
  refine ⟨?_, hfed ▸ h.increasing, ?_⟩
  · rw [hhandles.pump, hcursor]
    exact h.polled
  · rw [hfed, hcursor]
    exact h.below

variable [CharTables]

theorem Quiet.of_advances (h : Quiet s c) (hlog : IsLog log) {since : Int} {outcome : Outcome}
    (hconforms : Conforms log since outcome) (hadvances : Advances s since outcome c after) :
    Quiet s after := by
  -- the cursor stands where the poll was made, so the batch lies behind all that went before
  have hsame : since = c.cursor := h.polled since (by rw [hadvances.stands]; rfl)
  have hlater : ∀ id ∈ idsOf (auditsOf outcome), c.cursor < id := by
    intro id hid
    obtain ⟨e, he, hnumber⟩ := mem_idsOf.mp hid
    obtain ⟨-, id', hid', hlt⟩ := hconforms.mem he
    rw [hnumber] at hid'
    rw [Option.some.inj hid', ← hsame]
    exact hlt
  have hids : idsOf (after.fed s) = idsOf (c.fed s) ++ idsOf (auditsOf outcome) := by
    rw [Connection.fed, hadvances.issued, List.filterMap_append, s.filterMap_told?_feed, idsOf,
      List.filterMap_append]
    rfl
  have hhigh : c.cursor ≤ after.cursor ∧ ∀ id ∈ idsOf (auditsOf outcome), id ≤ after.cursor := by
    have hcursor := hadvances.cursor
    obtain ⟨hstays, hnone⟩ | ⟨next, -, hhighest, -, hmoves, hnext⟩ :=
      advance_feed_cases s outcome since c.cursor
    · refine ⟨by omega, fun id hid => ?_⟩
      have hle := hnone hsame.symm id hid
      omega
    · rw [hcursor, hnext]
      exact ⟨by omega, hhighest⟩
  refine ⟨fun since' hsince => ?_, ?_, fun id hid => ?_⟩
  · rw [hadvances.pump] at hsince
    cases hsince
  · rw [hids, List.pairwise_append]
    refine ⟨h.increasing, hconforms.increasing hlog, fun id hid next hnext => ?_⟩
    exact lt_of_le_of_lt (h.below id hid) (hlater next hnext)
  · rw [hids] at hid
    rcases List.mem_append.mp hid with hid | hid
    · exact (h.below id hid).trans hhigh.1
    · exact hhigh.2 id hid

theorem Quiet.of_effect (h : Quiet s c) (hlog : IsLog log)
    (hreceived : ∀ since outcome, c.pump = .received since outcome → Conforms log since outcome)
    (hquiet : ∀ frame ∈ after.handled, seek? frame = none)
    (heffect : Effect s answers c after) : Quiet s after := by
  cases heffect with
  | stays hstays => exact h.of_stays hstays
  | handles frame hhandles => exact h.of_handles hhandles (hquiet frame (by simp [hhandles.handled]))
  | advances since outcome hadvances =>
    exact h.of_advances hlog (hreceived since outcome hadvances.stands) hadvances

end Order

/-! ### Runs -/

section Runs

variable [CharTables]

/-- A log and a connection move: the log grows, or the connection makes a step in which a poll is
answered from the log. -/
inductive Moves (s : Session) (turns : Nat → Turn) :
    List Event × Connection → List Event × Connection → Prop where
  | logs (log : List Event) (c : Connection) (last : Event) (grown : IsLog (log ++ [last])) :
    Moves s turns (log, c) (log ++ [last], c)
  | steps (log : List Event) {c after : Connection}
    (step : Step s turns (Answers log s.client) c after) : Moves s turns (log, c) (log, after)

abbrev Runs (s : Session) (turns : Nat → Turn) :
    List Event × Connection → List Event × Connection → Prop :=
  Relation.ReflTransGen (Moves s turns)

variable {s : Session} {turns : Nat → Turn} {since : Int} {first log : List Event}
  {frames : List String} {c : Connection} {state : List Event × Connection}

theorem fed_of_runs (hfirst : IsLog first) (h : Runs s turns (first, start since frames) state) :
    IsLog state.1 ∧ Fed s since state.1 state.2 := by
  induction h with
  | refl => exact ⟨hfirst, fed_start s since first frames⟩
  | tail _ hmove ih =>
    obtain ⟨hlog, hfed⟩ := ih
    cases hmove with
    | logs log c last grown => exact ⟨grown, hfed.concat grown⟩
    | steps log step =>
      exact ⟨hlog, hfed.of_effect hlog (unborn_of_step hfed.unborn step)
        (effect_of_step hfed.unborn step)⟩

theorem asks_of_runs (hfirst : IsLog first) (h : Runs s turns (first, start since frames) state) :
    Asks s state.2 := by
  induction h with
  | refl => exact ⟨by simp [start], by simp [start]⟩
  | tail hruns hmove ih =>
    obtain ⟨-, hfed⟩ := fed_of_runs hfirst hruns
    cases hmove with
    | logs log c last grown => exact ih
    | steps log step => exact ih.of_step hfed.nonneg step

theorem quiet_of_runs (hfirst : IsLog first) (h : Runs s turns (first, start since frames) state)
    (hquiet : ∀ frame ∈ state.2.handled, seek? frame = none) : Quiet s state.2 := by
  induction h with
  | refl => exact quiet_start s since frames
  | tail hruns hmove ih =>
    obtain ⟨hlog, hfed⟩ := fed_of_runs hfirst hruns
    cases hmove with
    | logs log c last grown => exact ih hquiet
    | steps log step =>
      have heffect := effect_of_step hfed.unborn step
      have hbefore := ih fun frame hframe => hquiet frame (heffect.mono.1.subset hframe)
      exact hbefore.of_effect hlog hfed.received hquiet heffect

theorem cursor_le_of_runs (hfirst : IsLog first) {middle : List Event × Connection}
    (hmiddle : Runs s turns (first, start since frames) middle) (h : Runs s turns middle state)
    (hquiet : ∀ frame ∈ state.2.handled, seek? frame = none) :
    middle.2.cursor ≤ state.2.cursor := by
  induction h with
  | refl => exact le_refl middle.2.cursor
  | tail hruns hmove ih =>
    obtain ⟨-, hfed⟩ := fed_of_runs hfirst (hmiddle.trans hruns)
    cases hmove with
    | logs log c last grown => exact ih hquiet
    | steps log step =>
      have heffect := effect_of_step hfed.unborn step
      have hbefore := ih fun frame hframe => hquiet frame (heffect.mono.1.subset hframe)
      exact hbefore.trans (heffect.mono.2 hquiet)

theorem runs_of_steps (h : Steps s turns (Answers log s.client) (start since frames) c) :
    Runs s turns (log, start since frames) (log, c) := by
  induction h with
  | refl => exact .refl
  | tail _ hstep ih => exact ih.tail (.steps log hstep)

/-- On every schedule the cursor is never negative, and while no record was refused each logged event
between where the cursor was last set and where it stands was passed on or is in flight. What is passed
on tells of a logged audit event or reports a failed poll; what is asked is for the events after some
cursor, and the poll under way has been asked for if it can be sent. Where no frame sets the cursor it
never moves back, and the events are passed on in the order of their numbers, none of them twice. -/
theorem feeds_completely (hfirst : IsLog first)
    (h : Runs s turns (first, start since frames) (log, c)) :
    0 ≤ c.cursor ∧
      (c.isBroken = false → ∀ e ∈ log, ∀ id, e.id? = some id → c.setAt since < id →
        id ≤ c.cursor → s.tells e ∈ c.pushed ∨ s.tells e ∈ c.inFlight) ∧
      (∀ record ∈ c.pushed, (∃ e ∈ log, e.name = Event.audit ∧ record = s.tells e) ∨
        ∃ failure, record = s.reports failure) ∧
      (∀ r ∈ c.asked, ∃ since, 0 ≤ since ∧ s.client.IsPoll since r) ∧
      (∀ since r, c.pump = .polling since → s.client.poll since s.poll s.requestId = some r →
        r.isSendable = true → c.asked.getLast? = some r) ∧
      ((∀ frame ∈ c.handled, seek? frame = none) →
        (∀ middle, Runs s turns (first, start since frames) middle → Runs s turns middle (log, c) →
          middle.2.cursor ≤ c.cursor) ∧
        (idsOf (c.pushed.filterMap s.told?)).Pairwise (· < ·)) := by
  obtain ⟨hlog, hfed⟩ := fed_of_runs hfirst h
  have hasks := asks_of_runs hfirst h
  refine ⟨hfed.nonneg, ?_, ?_, hasks.polls, hasks.last, fun hquiet => ⟨?_, ?_⟩⟩
  · intro hopen e he id hid hlt hle
    exact List.mem_append.mp (hfed.complete hopen e he id hid hlt hle)
  · intro record hrecord
    obtain ⟨e, he, htells⟩ | hreports := hfed.logged record (List.mem_append_left _ hrecord)
    · exact .inl ⟨e, he, hlog.audit e he, htells⟩
    · exact .inr hreports
  · intro middle hmiddle hrest
    exact cursor_le_of_runs hfirst hmiddle hrest hquiet
  · have hall := (quiet_of_runs hfirst h hquiet).increasing
    rw [Connection.fed, issued, List.filterMap_append, idsOf, List.filterMap_append,
      List.pairwise_append] at hall
    exact hall.1

end Runs

/-- An answer to a poll with two audit events and a frame of another kind. -/
def twoAudits : Core.Reply :=
  ⟨200, [], .whole (Utf8.encode ("event: audit\ndata: \x7b\"id\":3\x7d\n\ndata: 1\n\n" ++
    "event: audit\ndata: \x7b\"id\":5\x7d\n\n"))⟩

/-- A core that answers the poll from the start, and cannot be reached later. -/
def auditCore (r : Core.Request) : Core.Answer :=
  if Form.value? r.url.query "since_id" = some "0" then .ok twoAudits else World.refused

theorem idsOf_twoAudits : idsOf (auditsOf (.ok twoAudits)) = [3, 5] := by
  decide +kernel

theorem isLog_twoAudits : IsLog (auditsOf (.ok twoAudits)) where
  audit _ := name_of_mem_auditsOf
  numbered := by
    have hall : (auditsOf (.ok twoAudits)).all (·.id?.isSome) = true := by decide +kernel
    intro e he
    exact Option.isSome_iff_exists.mp (List.all_eq_true.mp hall e he)
  increasing := by
    rw [idsOf_twoAudits]
    decide

theorem conforms_twoAudits : Conforms (auditsOf (.ok twoAudits)) 0 (.ok twoAudits) := by
  have hall : (auditsOf (.ok twoAudits)).all (fun e => e.id?.any (0 < ·)) = true := by
    decide +kernel
  have hlater : laterThan (auditsOf (.ok twoAudits)) 0 = auditsOf (.ok twoAudits) :=
    List.filter_eq_self.mpr (List.all_eq_true.mp hall)
  exact ⟨[], (List.append_nil _).trans hlater.symm⟩

theorem answers_auditCore (client : Core.Client) (r : Core.Request) :
    Answers (auditsOf (.ok twoAudits)) client r (auditCore r) := by
  intro since hpoll
  rw [auditCore, hpoll.since]
  split
  · next hzero =>
    obtain rfl : since = 0 := Text.toString_int_injective (Option.some.inj hzero)
    exact conforms_twoAudits
  · exact conforms_error _ _ _

theorem result_auditCore (disk : FileWrite → Option String) :
    (Session.reader.pollRequest 0).result auditCore disk = .ok twoAudits := by
  obtain ⟨r, hr, hsendable⟩ : ∃ r, Session.reader.client.poll 0 Session.reader.poll
      Session.reader.requestId = some r ∧ r.isSendable = true := ⟨_, rfl, rfl⟩
  have hsince := (Core.Client.isPoll_of_poll hr).since
  rw [Session.pollRequest, Exchange.result_ask_eq, hr, Exchange.outcome, if_pos hsendable, auditCore,
    hsince, if_pos (by decide)]
  rfl

theorem feeds_completely_twoAudits :
    ∃ c, Runs Session.reader (fun _ => lostTurn) (auditsOf (.ok twoAudits), start 0 [])
        (auditsOf (.ok twoAudits), c) ∧
      c.cursor = 5 ∧ c.taken.length = 3 ∧
      (∀ e ∈ auditsOf (.ok twoAudits), ∀ id, e.id? = some id → 0 < id → id ≤ 5 →
        Session.reader.tells e ∈ c.pushed ∨ Session.reader.tells e ∈ c.inFlight) ∧
      (∀ r ∈ c.asked, ∃ since, 0 ≤ since ∧ Session.reader.client.IsPoll since r) ∧
      (idsOf (c.pushed.filterMap Session.reader.told?)).Pairwise (· < ·) := by
  have hanswers : ∀ core, .poll core ∈ [Happening.poll auditCore] →
      ∀ r, Answers (auditsOf (.ok twoAudits)) Session.reader.client r (core r) := by
    intro core hcore
    obtain rfl := Happening.poll.inj (List.mem_singleton.mp hcore)
    exact answers_auditCore Session.reader.client
  obtain ⟨c, hsteps, hshows⟩ := exists_steps_serve Session.reader (fun _ => lostTurn)
    (fun _ => true) 0 [.poll auditCore] hanswers
  have hserved : ((Serving.start 0).greet Session.reader fun _ => true).serve Session.reader
      (fun _ => lostTurn) (fun _ => true) [.poll auditCore] 0
      = ((Serving.start 0).greet Session.reader fun _ => true).feed (fun _ => true) 0
          (Session.reader.feed (.ok twoAudits)) := by
    have hstart : ((Serving.start 0).greet Session.reader fun _ => true).cursor = 0 := rfl
    rw [Serving.serve, Serving.serve, Serving.poll, hstart, result_auditCore]
  rw [hserved] at hshows
  have hhandled : c.handled = [] := List.prefix_nil.mp (handled_prefix_of_steps hsteps)
  have hset : c.setAt 0 = 0 := by rw [setAt, hhandled]; rfl
  have hcursor : c.cursor = 5 := hshows.cursor.trans (by decide +kernel)
  have htaken : c.taken.length = 3 := by
    rw [hshows.taken]
    decide +kernel
  have hbroken : c.isBroken = false := hshows.isBroken.trans (by decide +kernel)
  have hruns := runs_of_steps hsteps
  obtain ⟨-, hcomplete, -, hasked, -, hquiet⟩ := feeds_completely isLog_twoAudits hruns
  refine ⟨c, hruns, hcursor, htaken, fun e he id hid hlt hle => ?_, hasked, ?_⟩
  · exact hcomplete hbroken e he id hid (hset.trans_lt hlt) (hle.trans hcursor.ge)
  · exact (hquiet fun frame hframe => by rw [hhandled] at hframe; cases hframe).2

end Connection

end Gatehouse.Live
