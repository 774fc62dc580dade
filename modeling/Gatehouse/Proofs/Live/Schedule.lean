import Gatehouse.Proofs.Live.Connection

/-!
# Serving without overlap

`Serving` answers a frame or makes a poll, each to its end before the next one begins. This is one of
the schedules of a connection: whatever frames come and polls are made, some schedule leads to a
connection with the same cursor, from which the client took the same records and which is broken
exactly if serving has ended. So what holds on every schedule holds of what is served.
-/

namespace Gatehouse.Live

/-- What can happen next on a connection. -/
inductive Happening where
  | frame (text : String)
  | poll (core : Core.Request → Core.Answer)

def Happening.frame? : Happening → Option String
  | frame text => some text
  | poll _ => none

namespace Serving

variable [CharTables]

/-- Makes a poll and passes on what becomes of it. -/
def poll (s : Session) (takes : Nat → Bool) (core : Core.Request → Core.Answer) (v : Serving) :
    Serving :=
  v.feed takes v.cursor (s.feed ((s.pollRequest v.cursor).result core fun _ => none))

/-- Serves what happens, after `n` frames that came before. -/
def serve (s : Session) (turns : Nat → Turn) (takes : Nat → Bool) :
    List Happening → Nat → Serving → Serving
  | [], _, v => v
  | .frame text :: rest, n, v =>
    serve s turns takes rest (n + 1)
      ((v.frame s takes (turns n).commandId text).result (turns n).core (turns n).disk)
  | .poll core :: rest, n, v => serve s turns takes rest n (v.poll s takes core)

end Serving

namespace Connection

/-- A connection in which what is served shows. -/
structure Shows (v : Serving) (c : Connection) : Prop where
  cursor : c.cursor = v.cursor
  taken : c.taken = v.taken
  isBroken : c.isBroken = !v.isOpen

/-- A connection between two things that happen: these frames are to come after `n` others. -/
structure Rests (frames : List String) (n : Nat) (c : Connection) : Prop where
  loop : c.loop = .waiting
  pump : c.pump = .checking
  lasts : c.isCancelled = false
  incoming : c.incoming = frames
  handled : c.handled.length = n

section Offers

variable {takes : Nat → Bool} {v : Serving} {c after : Connection} {sender : Sender} {record : Json}

theorem isOpen_send (hopen : v.isOpen = true) : (v.send takes record).isOpen = takes v.offered := by
  rw [Serving.send, if_neg (by simp [hopen])]
  cases htakes : takes v.offered with
  | true => exact hopen
  | false => rfl

theorem Shows.accept (h : Shows v c) (hopen : v.isOpen = true) (htakes : takes v.offered = true)
    (hcursor : after.cursor = c.cursor) (hsent : after.sent = c.sent ++ [(sender, record)])
    (hbroken : after.isBroken = c.isBroken) : Shows (v.send takes record) after := by
  rw [Serving.send, if_neg (by simp [hopen]), if_pos htakes]
  refine ⟨hcursor.trans h.cursor, ?_, hbroken.trans h.isBroken⟩
  rw [taken_concat hsent, h.taken]

theorem Shows.refuse (h : Shows v c) (hopen : v.isOpen = true) (htakes : takes v.offered = false)
    (hcursor : after.cursor = c.cursor) (hsent : after.sent = c.sent)
    (hbroken : after.isBroken = true) : Shows (v.send takes record) after := by
  rw [Serving.send, if_neg (by simp [hopen]), if_neg (by simp [htakes])]
  exact ⟨hcursor.trans h.cursor, (congrArg (List.map Prod.snd) hsent).trans h.taken, hbroken⟩

/-- After a record that is refused nothing is sent. -/
theorem foldl_send_of_not_open (takes : Nat → Bool) {v : Serving} (h : v.isOpen = false)
    (records : List Json) : records.foldl (Serving.send takes) v = v := by
  induction records with
  | nil => rfl
  | cons record records ih =>
    have hsend : v.send takes record = v := if_pos (by simp [h])
    rw [List.foldl_cons, hsend, ih]

end Offers

variable [CharTables] {s : Session} {turns : Nat → Turn}
  {answers : Core.Request → Core.Answer → Prop} {takes : Nat → Bool} {v : Serving}
  {frames : List String} {n : Nat} {c : Connection}

theorem steps_greet (s : Session) (turns : Nat → Turn)
    (answers : Core.Request → Core.Answer → Prop) (takes : Nat → Bool) (since : Int)
    (frames : List String) :
    ∃ c, Steps s turns answers (start since frames) c ∧
      Shows ((Serving.start since).greet s takes) c ∧
      (((Serving.start since).greet s takes).isOpen = true → Rests frames 0 c) := by
  have hstart : Shows (.start since) (start since frames) := ⟨rfl, rfl, rfl⟩
  have hopen : ((Serving.start since).greet s takes).isOpen = takes 0 := isOpen_send rfl
  rw [hopen]
  cases htakes : takes 0 with
  | true =>
    exact ⟨_, .single (.loop (.greet rfl)), hstart.accept rfl htakes rfl rfl rfl,
      fun _ => ⟨rfl, rfl, rfl, rfl, rfl⟩⟩
  | false =>
    exact ⟨_, .single (.loop (.unheard rfl)), hstart.refuse rfl htakes rfl rfl rfl, by simp⟩

theorem steps_frame (answers : Core.Request → Core.Answer → Prop) (takes : Nat → Bool)
    (h : Shows v c) (hopen : v.isOpen = true) {frame : String} (hrests : Rests (frame :: frames) n c) :
    ∃ after, Steps s turns answers c after ∧
      Shows ((v.frame s takes (turns n).commandId frame).result (turns n).core (turns n).disk) after ∧
      (((v.frame s takes (turns n).commandId frame).result (turns n).core (turns n).disk).isOpen
        = true → Rests frames (n + 1) after) := by
  rw [Serving.frame, if_pos hopen, Exchange.result_map, ← h.cursor]
  generalize hresult : (s.handle c.cursor _ frame).result _ _ = handled
  -- the frame is taken and handled before it matters whether the client takes the reply
  obtain ⟨c', hsteps, hstands, hafter, hshows⟩ : ∃ c', Steps s turns answers c c' ∧
      c'.loop = .replying handled.reply ∧ Rests frames (n + 1) { c' with loop := .waiting } ∧
      Shows { v with
        cursor := handled.cursor, failures := v.failures + if handled.isFailed then 1 else 0 } c' := by
    have htake : LoopStep s turns c { c with incoming := frames, loop := .handling frame } :=
      .take frame frames hrests.loop hrests.incoming
    have hhandled : s.handled (turns c.handled.length) c.cursor frame = handled := by
      rw [hrests.handled]
      exact hresult
    refine ⟨_, .head (.loop htake) (.single (.loop (.handle frame rfl))), ?_⟩
    rw [hhandled]
    refine ⟨rfl, ⟨rfl, hrests.pump, hrests.lasts, rfl, ?_⟩, rfl, h.taken, h.isBroken⟩
    simp [hrests.handled]
  have hstill : (v.reply takes handled).isOpen = takes v.offered := isOpen_send hopen
  rw [hstill]
  cases htakes : takes v.offered with
  | true =>
    exact ⟨_, hsteps.tail (.loop (.reply _ hstands)), hshows.accept hopen htakes rfl rfl rfl,
      fun _ => ⟨rfl, hafter.pump, hafter.lasts, hafter.incoming, hafter.handled⟩⟩
  | false =>
    exact ⟨_, hsteps.tail (.loop (.refused _ hstands)), hshows.refuse hopen htakes rfl rfl rfl,
      by simp⟩

/-- The records of a batch are passed on one by one, and then the pump pauses if it is to. -/
theorem steps_pass (turns : Nat → Turn) (answers : Core.Request → Core.Answer → Prop)
    (takes : Nat → Bool) {records : List Json} {pause : Nat} (h : Shows v c) (hopen : v.isOpen = true)
    (hpassing : c.pump = .passing records pause) (hrests : Rests frames n { c with pump := .checking }) :
    ∃ after, Steps s turns answers c after ∧ Shows (records.foldl (Serving.send takes) v) after ∧
      ((records.foldl (Serving.send takes) v).isOpen = true → Rests frames n after) := by
  induction records generalizing v c with
  | nil =>
    by_cases hlong : pause = 0
    · subst hlong
      exact ⟨_, .single (.pump (.again hpassing)), ⟨h.cursor, h.taken, h.isBroken⟩,
        fun _ => ⟨hrests.loop, rfl, hrests.lasts, hrests.incoming, hrests.handled⟩⟩
    · refine ⟨_, .head (.pump (.pause pause hpassing hlong)) (.single (.pump (.wake rfl))),
        ⟨h.cursor, h.taken, h.isBroken⟩, fun _ => ?_⟩
      exact ⟨hrests.loop, rfl, hrests.lasts, hrests.incoming, hrests.handled⟩
  | cons record records ih =>
    rw [List.foldl_cons]
    cases htakes : takes v.offered with
    | true =>
      have hpass : PumpStep s answers c
          { c with sent := c.sent ++ [(.pump, record)], pump := .passing records pause } :=
        .pass record records pause hpassing
      have hshown : Shows (v.send takes record)
          { c with sent := c.sent ++ [(.pump, record)], pump := .passing records pause } :=
        h.accept hopen htakes rfl rfl rfl
      obtain ⟨after, hsteps, hshows, hafter⟩ := ih hshown ((isOpen_send hopen).trans htakes) rfl
        ⟨hrests.loop, rfl, hrests.lasts, hrests.incoming, hrests.handled⟩
      exact ⟨after, .head (.pump hpass) hsteps, hshows, hafter⟩
    | false =>
      have hclosed : (v.send takes record).isOpen = false := (isOpen_send hopen).trans htakes
      rw [foldl_send_of_not_open takes hclosed, hclosed]
      exact ⟨_, .single (.pump (.refused record records pause hpassing)),
        h.refuse hopen htakes rfl rfl rfl, by simp⟩

theorem steps_poll (turns : Nat → Turn) (takes : Nat → Bool) (h : Shows v c) (hopen : v.isOpen = true)
    (hrests : Rests frames n c) {core : Core.Request → Core.Answer}
    (hanswers : ∀ r, answers r (core r)) :
    ∃ after, Steps s turns answers c after ∧ Shows (v.poll s takes core) after ∧
      ((v.poll s takes core).isOpen = true → Rests frames n after) := by
  rw [Serving.poll, Serving.feed.eq_def, if_neg (by simp [hopen]), ← h.cursor]
  generalize houtcome : (s.pollRequest c.cursor).result core _ = outcome
  have hbrings : s.Brings answers c.cursor outcome := ⟨core, _, fun r _ => hanswers r, houtcome⟩
  dsimp only
  generalize v.failures + _ = failures
  -- the cursor moves first, then the records go out one by one
  obtain ⟨c', hsteps, hpassing, hafter, hshows⟩ : ∃ c', Steps s turns answers c c' ∧
      c'.pump = .passing (s.feed outcome).envelopes (s.feed outcome).pause ∧
      Rests frames n { c' with pump := .checking } ∧
      Shows { v with cursor := (s.feed outcome).advance c.cursor c.cursor, failures } c' := by
    have hpolled : Steps s turns answers c _ :=
      .head (.pump (.check hrests.pump hrests.lasts)) (.single (.pump (.poll rfl)))
    have hreceived := hpolled.tail (.pump (.receive c.cursor outcome rfl hbrings))
    exact ⟨_, hreceived.tail (.pump (.advance c.cursor outcome rfl)), rfl,
      ⟨hrests.loop, rfl, hrests.lasts, hrests.incoming, hrests.handled⟩, rfl, h.taken, h.isBroken⟩
  obtain ⟨after, hrest, hpassed, hrested⟩ :=
    steps_pass turns answers takes hshows hopen hpassing hafter
  exact ⟨after, hsteps.trans hrest, hpassed, hrested⟩

theorem steps_serve (takes : Nat → Bool) {happenings : List Happening}
    (hanswers : ∀ core, .poll core ∈ happenings → ∀ r, answers r (core r)) (h : Shows v c)
    (hrests : v.isOpen = true → Rests (happenings.filterMap Happening.frame?) n c) :
    ∃ after, Steps s turns answers c after ∧ Shows (v.serve s turns takes happenings n) after := by
  induction happenings generalizing v n c with
  | nil => exact ⟨c, .refl, h⟩
  | cons happening rest ih =>
    have hothers : ∀ core, .poll core ∈ rest → ∀ r, answers r (core r) :=
      fun core hcore => hanswers core (List.mem_cons_of_mem _ hcore)
    cases happening with
    | frame text =>
      rw [Serving.serve]
      by_cases hopen : v.isOpen = true
      · obtain ⟨middle, hsteps, hshows, hnext⟩ := steps_frame answers takes h hopen (hrests hopen)
        obtain ⟨after, hmore, hend⟩ := ih hothers hshows hnext
        exact ⟨after, hsteps.trans hmore, hend⟩
      · -- no frame is answered any more
        rw [Serving.frame, if_neg hopen, Exchange.result]
        exact ih hothers h fun hstill => absurd hstill hopen
    | poll core =>
      rw [Serving.serve]
      by_cases hopen : v.isOpen = true
      · obtain ⟨middle, hsteps, hshows, hnext⟩ :=
          steps_poll turns takes h hopen (hrests hopen) (hanswers core List.mem_cons_self)
        obtain ⟨after, hmore, hend⟩ := ih hothers hshows hnext
        exact ⟨after, hsteps.trans hmore, hend⟩
      · have hsame : v.poll s takes core = v := by
          rw [Serving.poll, Serving.feed.eq_def, if_pos (by simp [hopen])]
        rw [hsame]
        exact ih hothers h fun hstill => absurd hstill hopen

/-- What is served from the greeting on is what shows at the end of some schedule. -/
theorem exists_steps_serve (s : Session) (turns : Nat → Turn) (takes : Nat → Bool) (since : Int)
    (happenings : List Happening)
    (hanswers : ∀ core, .poll core ∈ happenings → ∀ r, answers r (core r)) :
    ∃ c, Steps s turns answers (start since (happenings.filterMap Happening.frame?)) c ∧
      Shows (((Serving.start since).greet s takes).serve s turns takes happenings 0) c := by
  obtain ⟨greeted, hsteps, hshows, hrests⟩ := steps_greet s turns answers takes since
    (happenings.filterMap Happening.frame?)
  obtain ⟨c, hmore, hend⟩ := steps_serve takes hanswers hshows hrests
  exact ⟨c, hsteps.trans hmore, hend⟩

end Connection

end Gatehouse.Live
