import Gatehouse.Proofs.Live.Connection
import Gatehouse.Proofs.Live.Session

/-!
# The order of replies, and the end of a connection

Whatever the pump does in between, the loop sends its greeting first and then one reply for each frame
that it handled, in the order of the frames. What the pump does leaves everything of the loop alone
but the flag that ends it, so the invariant is one about the loop, with one case for each place at
which the loop can stand. Once both activities are over no step is left to be taken.
-/

namespace Gatehouse.Live

namespace Session

/-- What a frame is replied does not depend on where the cursor stands. -/
theorem reply_handled (s : Session) (t : Turn) (cursor cursor' : Int) (frame : String) :
    (s.handled t cursor frame).reply = (s.handled t cursor' frame).reply := by
  rw [handled, handled, handle, handle]
  split
  · rfl
  · dsimp only
    split
    · rfl
    · rfl
    · simp only [relay]
      split
      · rfl
      · split
        · rfl
        · rw [Exchange.result_ask_eq, Exchange.result_ask_eq]
          split <;> rfl

/-- The replies to frames in their order, the cursor standing where it may. -/
def replies (s : Session) (turns : Nat → Turn) (cursor : Int) (frames : List String) : List Json :=
  frames.mapIdx fun n frame => (s.handled (turns n) cursor frame).reply

theorem replies_concat (s : Session) (turns : Nat → Turn) (cursor cursor' : Int)
    (frames : List String) (frame : String) :
    s.replies turns cursor (frames ++ [frame])
      = s.replies turns cursor frames ++ [(s.handled (turns frames.length) cursor' frame).reply] := by
  rw [replies, List.mapIdx_concat, s.reply_handled _ cursor cursor']
  rfl

/-- The record with which a connection begins. -/
def greeting (s : Session) : Json :=
  .object [("request_id", .text s.requestId), ("service", .text "relay-gateway"),
    ("type", .text "hello")]

end Session

namespace Connection

/-- The frames that the loop took from the client: those it handled, and the one that it is about to
handle. -/
def begun (c : Connection) : List String :=
  match c.loop with
  | .handling frame => c.handled ++ [frame]
  | _ => c.handled

/-- A connection whose greeting was not taken. -/
structure Mute (c : Connection) : Prop where
  sent : c.sent = []
  handled : c.handled = []
  asked : c.asked = []
  unborn : c.pump = .unborn

/-- The frames handled and those of them whose replies were taken, where the loop stands. -/
def Tallies (s : Session) (turns : Nat → Turn) (handled replied : List String) : Loop → Prop
  | .greeting => False
  | .waiting => handled = replied
  | .handling _ => handled = replied
  | .replying record => ∃ frame cursor, handled = replied ++ [frame] ∧
      record = (s.handled (turns replied.length) cursor frame).reply
  | .joining => ∃ last, handled = replied ++ last ∧ last.length ≤ 1
  | .returned => ∃ last, handled = replied ++ last ∧ last.length ≤ 1

/-- A connection whose greeting was taken, and after it the replies to these frames. -/
structure Talking (s : Session) (turns : Nat → Turn) (frames : List String) (c : Connection)
    (replied : List String) : Prop where
  first : ∃ rest, c.taken = s.greeting :: rest
  own : ∀ cursor, c.sentBy .loop = s.greeting :: s.replies turns cursor replied
  tallies : Tallies s turns c.handled replied c.loop
  frames : c.begun ++ c.incoming = frames
  born : c.pump ≠ .unborn
  returned : c.loop = .returned → c.pump = .stopped

variable {s : Session} {turns : Nat → Turn} {frames replied : List String} {since : Int}
  {c after : Connection}

theorem Talking.begun_eq (h : Talking s turns frames c replied) :
    ∃ last, c.begun = replied ++ last ∧ last.length ≤ 1 := by
  have htallies := h.tallies
  rw [begun]
  cases hloop : c.loop with
  | greeting =>
    rw [hloop] at htallies
    exact htallies.elim
  | waiting =>
    rw [hloop] at htallies
    exact ⟨[], htallies.trans (List.append_nil _).symm, by simp⟩
  | handling frame =>
    rw [hloop] at htallies
    exact ⟨[frame], congrArg (· ++ [frame]) htallies, by simp⟩
  | replying record =>
    rw [hloop] at htallies
    obtain ⟨frame, -, hhandled, -⟩ := htallies
    exact ⟨[frame], hhandled, by simp⟩
  | joining =>
    rw [hloop] at htallies
    exact htallies
  | returned =>
    rw [hloop] at htallies
    exact htallies

/-! ### What the loop does -/

/-- What every schedule keeps. -/
inductive Orderly (s : Session) (turns : Nat → Turn) (frames : List String) (c : Connection) :
    Prop where
  | mute (h : Mute c) (stands : c.loop = .greeting ∧ c.incoming = frames ∨ c.loop = .returned)
  | talking (replied : List String) (h : Talking s turns frames c replied)

theorem talking_of_greet (s : Session) (turns : Nat → Turn) (h : Mute c) :
    Talking s turns c.incoming
      { c with sent := c.sent ++ [(.loop, s.hello)], loop := .waiting, pump := .checking } [] where
  first := ⟨[], by rw [taken, h.sent]; rfl⟩
  own _ := by rw [sentBy, h.sent]; rfl
  tallies := h.handled
  frames := by
    show c.handled ++ c.incoming = c.incoming
    rw [h.handled, List.nil_append]
  born := by simp
  returned := by simp

theorem Talking.reply (h : Talking s turns frames c replied) {record : Json}
    (hstands : c.loop = .replying record) :
    ∃ frame, Talking s turns frames
      { c with sent := c.sent ++ [(.loop, record)], loop := .waiting } (replied ++ [frame]) := by
  have htallies := h.tallies
  rw [hstands] at htallies
  obtain ⟨frame, before, hhandled, hrecord⟩ := htallies
  refine ⟨frame, ?_, fun cursor => ?_, hhandled, ?_, h.born, by simp⟩
  · obtain ⟨rest, hrest⟩ := h.first
    exact ⟨rest ++ [record], by rw [taken_concat rfl, hrest, List.cons_append]⟩
  · rw [sentBy_concat_self rfl, h.own cursor, s.replies_concat turns cursor before, hrecord,
      List.cons_append]
  · have hframes := h.frames
    rw [begun, hstands] at hframes
    exact hframes

theorem Talking.still (h : Talking s turns frames c replied) (hsent : after.sent = c.sent)
    (hpump : after.pump = c.pump) (htallies : Tallies s turns after.handled replied after.loop)
    (hframes : after.begun ++ after.incoming = c.begun ++ c.incoming)
    (hreturned : after.loop = .returned → c.pump = .stopped) :
    Talking s turns frames after replied where
  first := by
    rw [taken, hsent]
    exact h.first
  own := by
    rw [sentBy, hsent]
    exact h.own
  tallies := htallies
  frames := hframes.trans h.frames
  born := by
    rw [hpump]
    exact h.born
  returned hloop := hpump.trans (hreturned hloop)

theorem orderly_of_loopStep (h : Orderly s turns frames c) (hstep : LoopStep s turns c after) :
    Orderly s turns frames after := by
  cases h with
  | mute hmute stands =>
    cases hstep
    case greet hgreeting =>
      obtain ⟨-, rfl⟩ | hreturned := stands
      · exact .talking [] (talking_of_greet s turns hmute)
      · rw [hgreeting] at hreturned
        cases hreturned
    case unheard hgreeting =>
      exact .mute ⟨hmute.sent, hmute.handled, hmute.asked, hmute.unborn⟩ (.inr rfl)
    all_goals simp_all
  | talking replied htalking =>
    -- each step is for one place of the loop, and the tally of that place is what it starts from
    have htallies := htalking.tallies
    cases hstep with
    | greet hstands =>
      rw [hstands] at htallies
      exact htallies.elim
    | unheard hstands =>
      rw [hstands] at htallies
      exact htallies.elim
    | take frame rest hstands hcomes =>
      rw [hstands] at htallies
      refine .talking replied (htalking.still rfl rfl htallies ?_ (by simp))
      rw [begun, begun, hstands, hcomes]
      simp
    | handle frame hstands =>
      rw [hstands] at htallies
      obtain rfl : c.handled = replied := htallies
      refine .talking _ (htalking.still rfl rfl ⟨frame, c.cursor, rfl, rfl⟩ ?_ (by simp))
      rw [begun, begun, hstands]
    | reply record hstands =>
      obtain ⟨frame, hnext⟩ := htalking.reply hstands
      exact .talking _ hnext
    | refused record hstands =>
      rw [hstands] at htallies
      obtain ⟨frame, -, hhandled, -⟩ := htallies
      refine .talking replied (htalking.still rfl rfl ⟨[frame], hhandled, by simp⟩ ?_ (by simp))
      rw [begun, begun, hstands]
    | gone hstands hnone =>
      rw [hstands] at htallies
      refine .talking replied (htalking.still rfl rfl ⟨[], ?_, by simp⟩ ?_ (by simp))
      · rw [List.append_nil]
        exact htallies
      · rw [begun, begun, hstands]
    | cancelled hstands hends =>
      rw [hstands] at htallies
      refine .talking replied (htalking.still rfl rfl ⟨[], ?_, by simp⟩ ?_ (by simp))
      · rw [List.append_nil]
        exact htallies
      · rw [begun, begun, hstands]
    | join hstands hstopped =>
      rw [hstands] at htallies
      refine .talking replied (htalking.still rfl rfl htallies ?_ fun _ => hstopped)
      rw [begun, begun, hstands]

/-! ### The pump leaves the loop alone -/

/-- What a step of the pump does to everything else. -/
structure PumpFrame (c after : Connection) : Prop where
  loop : after.loop = c.loop
  handled : after.handled = c.handled
  incoming : after.incoming = c.incoming
  sent : after.sent = c.sent ∨ ∃ record, after.sent = c.sent ++ [(.pump, record)]
  live : c.pump.isLive = true
  born : after.pump ≠ .unborn

theorem Talking.of_pumpFrame (h : Talking s turns frames c replied) (hframe : PumpFrame c after) :
    Talking s turns frames after replied where
  first := by
    obtain ⟨rest, hrest⟩ := h.first
    obtain hsame | ⟨record, hsent⟩ := hframe.sent
    · exact ⟨rest, by rw [taken, hsame]; exact hrest⟩
    · exact ⟨rest ++ [record], by rw [taken_concat hsent, hrest, List.cons_append]⟩
  own cursor := by
    obtain hsame | ⟨record, hsent⟩ := hframe.sent
    · rw [sentBy, hsame]
      exact h.own cursor
    · rw [sentBy_concat_of_ne hsent (by decide)]
      exact h.own cursor
  tallies := by
    rw [hframe.loop, hframe.handled]
    exact h.tallies
  frames := by
    rw [begun, hframe.loop, hframe.handled, hframe.incoming]
    exact h.frames
  born := hframe.born
  returned hreturned := by
    have hlive := hframe.live
    rw [h.returned (hframe.loop.symm.trans hreturned)] at hlive
    cases hlive

section Schedules

variable [CharTables] {answers : Core.Request → Core.Answer → Prop}

theorem pumpFrame_of_pumpStep (h : PumpStep s answers c after) : PumpFrame c after := by
  cases h
  case pass record rest pause stands =>
    exact ⟨rfl, rfl, rfl, .inr ⟨record, rfl⟩, by rw [stands]; rfl, by simp⟩
  case stop stands ends =>
    have hlive : c.pump.isLive = true := by
      obtain stands | ⟨since, stands⟩ | stands := stands
      all_goals rw [stands]; rfl
    exact ⟨rfl, rfl, rfl, .inl rfl, hlive, by simp⟩
  all_goals exact ⟨rfl, rfl, rfl, .inl rfl, by simp [Pump.isLive, *], by simp⟩

theorem orderly_of_steps (h : Steps s turns answers (start since frames) c) :
    Orderly s turns frames c := by
  induction h with
  | refl => exact .mute ⟨rfl, rfl, rfl, rfl⟩ (.inl ⟨rfl, rfl⟩)
  | tail _ hstep ih =>
    cases hstep with
    | loop hloop => exact orderly_of_loopStep ih hloop
    | pump hpump =>
      have hframe := pumpFrame_of_pumpStep hpump
      cases ih with
      | mute hmute _ =>
        have hlive := hframe.live
        rw [hmute.unborn] at hlive
        cases hlive
      | talking replied htalking => exact .talking replied (htalking.of_pumpFrame hframe)

theorem handled_prefix_of_steps (h : Steps s turns answers (start since frames) c) :
    c.handled <+: frames := by
  cases orderly_of_steps h with
  | mute hmute _ => exact hmute.handled ▸ List.nil_prefix
  | talking replied htalking =>
    have hbegun : c.handled <+: c.begun := by
      rw [begun]
      split
      · exact List.prefix_append _ _
      · exact List.prefix_rfl
    exact hbegun.trans ⟨c.incoming, htalking.frames⟩

/-! ### The end -/

/-- Where one activity has ended the other is told to. -/
theorem isCancelled_of_ended (h : Steps s turns answers (start since frames) c)
    (hended : c.loop = .joining ∨ c.pump = .stopped) : c.isCancelled = true := by
  induction h with
  | refl => simp [start] at hended
  | tail _ hstep ih =>
    cases hstep with
    | loop hloop => cases hloop <;> simp_all
    | pump hpump => cases hpump <;> simp_all

theorem not_step_of_returned (hreturned : c.loop = .returned) (hidle : c.pump.isLive = false) :
    ¬Step s turns answers c after := by
  rintro (hloop | hpump)
  · cases hloop <;> simp_all
  · have hlive := (pumpFrame_of_pumpStep hpump).live
    rw [hidle] at hlive
    cases hlive

theorem eq_of_steps_of_returned (hreturned : c.loop = .returned) (hidle : c.pump.isLive = false)
    (h : Steps s turns answers c after) : after = c := by
  obtain rfl | ⟨next, hstep, -⟩ := Relation.ReflTransGen.cases_head h
  · rfl
  · exact absurd hstep (not_step_of_returned hreturned hidle)

/-- The pump can come to its end while the loop stays where it is. -/
def CanStop (s : Session) (turns : Nat → Turn) (answers : Core.Request → Core.Answer → Prop)
    (c : Connection) : Prop :=
  ∃ after, Steps s turns answers c after ∧ after.pump = .stopped ∧ after.loop = c.loop

theorem CanStop.of_pumpStep (hstep : PumpStep s answers c after) (h : CanStop s turns answers after) :
    CanStop s turns answers c := by
  obtain ⟨last, hsteps, hstopped, hloop⟩ := h
  exact ⟨last, .head (.pump hstep) hsteps, hstopped, hloop.trans (pumpFrame_of_pumpStep hstep).loop⟩

theorem canStop_of_cancelled (hlive : c.pump.isLive = true) (hcancelled : c.isCancelled = true) :
    CanStop s turns answers c := by
  have hheeds : ∀ {c : Connection}, c.pump = .checking ∨ (∃ since, c.pump = .polling since) ∨
      c.pump = .pausing → c.isCancelled = true → CanStop s turns answers c :=
    fun hstands hends => ⟨_, .single (.pump (.stop hstands hends)), rfl, rfl⟩
  -- while a batch is passed on the flag is not looked at, but the next message may be refused
  have hpassing : ∀ {c : Connection} {rest pause}, c.pump = .passing rest pause →
      c.isCancelled = true → CanStop s turns answers c := by
    intro c rest pause hstands hends
    cases rest with
    | cons p rest => exact ⟨_, .single (.pump (.refused p rest pause hstands)), rfl, rfl⟩
    | nil =>
      by_cases hlong : pause = 0
      · subst hlong
        exact .of_pumpStep (.again hstands) (hheeds (.inl rfl) hends)
      · exact .of_pumpStep (.pause pause hstands hlong) (hheeds (.inr (.inr rfl)) hends)
  cases hpump : c.pump with
  | unborn =>
    rw [hpump] at hlive
    cases hlive
  | stopped =>
    rw [hpump] at hlive
    cases hlive
  | checking => exact hheeds (.inl hpump) hcancelled
  | loading =>
    exact .of_pumpStep (.poll hpump) (hheeds (.inr (.inl ⟨c.cursor, rfl⟩)) hcancelled)
  | polling since => exact hheeds (.inr (.inl ⟨since, hpump⟩)) hcancelled
  | received since outcome =>
    exact .of_pumpStep (.advance since outcome hpump) (hpassing rfl hcancelled)
  | passing rest pause => exact hpassing hpump hcancelled
  | pausing => exact hheeds (.inr (.inr hpump)) hcancelled

/-- The connection can come to its end. -/
def CanReturn (s : Session) (turns : Nat → Turn) (answers : Core.Request → Core.Answer → Prop)
    (c : Connection) : Prop :=
  ∃ after, Steps s turns answers c after ∧ after.loop = .returned

theorem CanReturn.of_loopStep (hstep : LoopStep s turns c after) (h : CanReturn s turns answers after) :
    CanReturn s turns answers c := by
  obtain ⟨last, hsteps, hreturned⟩ := h
  exact ⟨last, .head (.loop hstep) hsteps, hreturned⟩

theorem canReturn_of_joining (hjoining : c.loop = .joining) (hborn : c.pump ≠ .unborn)
    (hcancelled : c.isCancelled = true) : CanReturn s turns answers c := by
  obtain ⟨after, hsteps, hstopped, hloop⟩ : CanStop s turns answers c := by
    cases hlive : c.pump.isLive with
    | true => exact canStop_of_cancelled hlive hcancelled
    | false =>
      refine ⟨c, .refl, ?_, rfl⟩
      cases hpump : c.pump <;> simp_all [Pump.isLive]
  exact ⟨_, hsteps.tail (.loop (.join (hloop.trans hjoining) hstopped)), rfl⟩

/-- Once one activity has ended, or the client has left, the connection can come to its end. -/
theorem canReturn_of_cancelled (h : Steps s turns answers (start since frames) c)
    (hcancelled : c.isCancelled = true) : CanReturn s turns answers c := by
  have hreplying : ∀ {c : Connection} {record}, c.loop = .replying record →
      c.pump ≠ .unborn → CanReturn s turns answers c := by
    intro c record hstands hborn
    exact .of_loopStep (.refused record hstands) (canReturn_of_joining rfl hborn rfl)
  cases orderly_of_steps h with
  | mute hmute stands =>
    obtain ⟨hgreeting, -⟩ | hreturned := stands
    · exact ⟨_, .single (.loop (.unheard hgreeting)), rfl⟩
    · exact ⟨c, .refl, hreturned⟩
  | talking replies htalking =>
    have htallies := htalking.tallies
    cases hloop : c.loop with
    | greeting =>
      rw [hloop] at htallies
      exact htallies.elim
    | waiting =>
      exact .of_loopStep (.cancelled hloop hcancelled)
        (canReturn_of_joining rfl htalking.born hcancelled)
    | handling frame =>
      -- a frame that was taken is handled to its end, whatever the flag says
      have hhandle : LoopStep s turns c _ := .handle frame hloop
      exact .of_loopStep hhandle (hreplying rfl htalking.born)
    | replying record => exact hreplying hloop htalking.born
    | joining => exact canReturn_of_joining hloop htalking.born hcancelled
    | returned => exact ⟨c, .refl, hloop⟩

/-- On every schedule nothing is taken from the client or asked of the core before the greeting is
taken; after it the loop's records are the replies to the first frames, in their order and one for each,
and of the frames begun at most the last one lacks its reply. Where one activity has ended the other is
told to end and can; once the connection has returned both are over, and nothing happens any more. -/
theorem serves_in_order (h : Steps s turns answers (start since frames) c) :
    (c.taken = [] ∧ c.begun = [] ∧ c.asked = [] ∨
      ∃ rest replied last, c.taken = s.greeting :: rest ∧
        (∀ cursor, c.sentBy .loop = s.greeting :: s.replies turns cursor replied) ∧
        c.begun = replied ++ last ∧ last.length ≤ 1 ∧ c.begun ++ c.incoming = frames) ∧
      (c.loop = .joining ∨ c.pump = .stopped → c.isCancelled = true ∧ CanReturn s turns answers c) ∧
      (c.loop = .returned → (c.pump = .unborn ∨ c.pump = .stopped) ∧
        ∀ after, Steps s turns answers c after → after = c) := by
  have htogether : c.loop = .joining ∨ c.pump = .stopped →
      c.isCancelled = true ∧ CanReturn s turns answers c := by
    intro hended
    have hcancelled := isCancelled_of_ended h hended
    exact ⟨hcancelled, canReturn_of_cancelled h hcancelled⟩
  cases orderly_of_steps h with
  | mute hmute stands =>
    have hbegun : c.begun = [] := by
      rw [begun]
      obtain ⟨hgreeting, -⟩ | hreturned := stands
      · rw [hgreeting]
        exact hmute.handled
      · rw [hreturned]
        exact hmute.handled
    have htaken : c.taken = [] := by rw [taken, hmute.sent, List.map_nil]
    refine ⟨.inl ⟨htaken, hbegun, hmute.asked⟩, htogether,
      fun hreturned => ⟨.inl hmute.unborn, ?_⟩⟩
    intro after hsteps
    exact eq_of_steps_of_returned hreturned (by rw [hmute.unborn]; rfl) hsteps
  | talking replied htalking =>
    obtain ⟨rest, hfirst⟩ := htalking.first
    obtain ⟨last, hbegun, hlast⟩ := htalking.begun_eq
    refine ⟨.inr ⟨rest, replied, last, hfirst, htalking.own, hbegun, hlast, htalking.frames⟩,
      htogether, fun hreturned => ⟨.inr (htalking.returned hreturned), ?_⟩⟩
    intro after hsteps
    exact eq_of_steps_of_returned hreturned (by rw [htalking.returned hreturned]; rfl) hsteps

end Schedules

def lostTurn : Turn :=
  ⟨"c1", fun _ => World.refused, fun _ => none⟩

/-- A frame is answered while a poll fails, and then the client leaves. -/
theorem serves_in_order_ping :
    ∃ c, Steps Session.reader (fun _ => lostTurn) (fun _ _ => True)
        (start 0 ["\x7b\"type\":\"ping\"\x7d"]) c ∧ c.sent.length = 3 ∧ c.asked.length = 1 ∧
      (∃ rest replied last, c.taken = Session.reader.greeting :: rest ∧
        (∀ cursor, c.sentBy .loop = Session.reader.greeting ::
          Session.reader.replies (fun _ => lostTurn) cursor replied) ∧
        c.begun = replied ++ last ∧ last.length ≤ 1 ∧
        c.begun ++ c.incoming = ["\x7b\"type\":\"ping\"\x7d"]) ∧
      ∀ after, Steps Session.reader (fun _ => lostTurn) (fun _ _ => True) c after → after = c := by
  obtain ⟨c, hsteps, hsent, hasked, hreturned⟩ : ∃ c,
      Steps Session.reader (fun _ => lostTurn) (fun _ _ => True)
          (start 0 ["\x7b\"type\":\"ping\"\x7d"]) c ∧
        c.sent.length = 3 ∧ c.asked.length = 1 ∧ c.loop = .returned := by
    have hgreeted : Steps Session.reader (fun _ => lostTurn) (fun _ _ => True)
        (start 0 ["\x7b\"type\":\"ping\"\x7d"]) _ := .single (.loop (.greet rfl))
    have hpolled := ((hgreeted.tail (.pump (.check rfl rfl))).tail (.loop (.take _ _ rfl rfl))).tail
      (.pump (.poll rfl))
    have hreceived := hpolled.tail (.pump (.receive 0 _ rfl
      ⟨fun _ => World.refused, fun _ => none, fun _ _ => trivial, rfl⟩))
    have hhandled := hreceived.tail (.loop (.handle _ rfl))
    have hpushed := (hhandled.tail (.pump (.advance _ _ rfl))).tail (.pump (.pass _ _ _ rfl))
    have hreplied := (hpushed.tail (.loop (.reply _ rfl))).tail (.pump (.pause _ rfl (by decide)))
    have hended := (hreplied.tail (.loop (.gone rfl rfl))).tail (.pump (.stop (.inr (.inr rfl)) rfl))
    exact ⟨_, hended.tail (.loop (.join rfl rfl)), rfl, rfl, rfl⟩
  obtain ⟨hmute | htalks, -, hends⟩ := serves_in_order hsteps
  · have htaken : c.taken.length = 3 := (List.length_map _).trans hsent
    rw [hmute.1] at htaken
    cases htaken
  · exact ⟨c, hsteps, hsent, hasked, htalks, (hends hreturned).2⟩

end Connection

end Gatehouse.Live
