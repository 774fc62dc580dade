import Gatehouse.Proofs.Core.Polling
import Gatehouse.Proofs.Live.Connection

/-!
# The log of the core

The core keeps a log of audit events, numbered upwards, and answers a poll with the first of those
after the cursor. Such an answer leaves no gap: from the cursor of the poll to the highest number in
it every logged event is there. That is all that the feed needs to know of the core. What becomes of an
answer is one record for each audit event in it, and the event can be read off the record again.
-/

namespace Gatehouse.Live

/-! ### Logs -/

def idsOf (events : List Event) : List Int :=
  events.filterMap Event.id?

/-- A log of audit events: each has a number, and the numbers grow. -/
structure IsLog (log : List Event) : Prop where
  audit : ∀ e ∈ log, e.name = Event.audit
  numbered : ∀ e ∈ log, ∃ id, e.id? = some id
  increasing : (idsOf log).Pairwise (· < ·)

/-- The audit events in the answer to a poll. -/
def auditsOf [CharTables] (outcome : Outcome) : List Event :=
  match outcome.bind Core.Reply.events with
  | .error _ => []
  | .ok events => events.filter fun e => e.name = Event.audit

def laterThan (log : List Event) (since : Int) : List Event :=
  log.filter fun e => e.id?.any (since < ·)

/-- What a core with this log may answer to a poll: nothing that can be read, or the first of the
audit events after `since`, with any other events among them. -/
def Conforms [CharTables] (log : List Event) (since : Int) (outcome : Outcome) : Prop :=
  auditsOf outcome <+: laterThan log since

/-- What a core with this log may answer to a request: whatever it likes, unless the request is a poll
of this client. -/
def Answers [CharTables] (log : List Event) (client : Core.Client) (r : Core.Request)
    (answer : Core.Answer) : Prop :=
  ∀ since, client.IsPoll since r → Conforms log since (answer.mapError .ofFault)

theorem mem_idsOf {events : List Event} {id : Int} :
    id ∈ idsOf events ↔ ∃ e ∈ events, e.id? = some id :=
  List.mem_filterMap

theorem mem_laterThan {log : List Event} {since : Int} {e : Event} :
    e ∈ laterThan log since ↔ e ∈ log ∧ ∃ id, e.id? = some id ∧ since < id := by
  rw [laterThan, List.mem_filter]
  cases e.id? <;> simp

theorem IsLog.increasing_laterThan {log : List Event} (h : IsLog log) (since : Int) :
    (idsOf (laterThan log since)).Pairwise (· < ·) :=
  h.increasing.sublist (List.filter_sublist.filterMap Event.id?)

/-- What was added to a log comes after all that was there. -/
theorem IsLog.lt_of_concat {log : List Event} {e last : Event} {id next : Int}
    (h : IsLog (log ++ [last])) (he : e ∈ log) (hid : e.id? = some id)
    (hnext : last.id? = some next) : id < next := by
  have hincreasing := h.increasing
  rw [idsOf, List.filterMap_append, List.pairwise_append] at hincreasing
  exact hincreasing.2.2 id (mem_idsOf.mpr ⟨e, he, hid⟩) next
    (mem_idsOf.mpr ⟨last, List.mem_singleton_self last, hnext⟩)

/-! ### The answers to polls -/

section Outcomes

variable [CharTables] {log : List Event} {since : Int} {outcome : Outcome}

namespace Conforms

theorem mem (h : Conforms log since outcome) {e : Event} (he : e ∈ auditsOf outcome) :
    e ∈ log ∧ ∃ id, e.id? = some id ∧ since < id :=
  mem_laterThan.mp (h.subset he)

/-- An answer still conforms when the log has grown. -/
theorem concat (h : Conforms log since outcome) (last : Event) :
    Conforms (log ++ [last]) since outcome := by
  rw [Conforms, laterThan, List.filter_append]
  exact h.trans (List.prefix_append _ _)

theorem increasing (h : Conforms log since outcome) (hlog : IsLog log) :
    (idsOf (auditsOf outcome)).Pairwise (· < ·) :=
  (hlog.increasing_laterThan since).sublist (h.sublist.filterMap Event.id?)

/-- The answer has every event from the cursor of the poll to the highest in the answer. -/
theorem complete (h : Conforms log since outcome) (hlog : IsLog log) {next : Int}
    (hnext : next ∈ idsOf (auditsOf outcome)) {e : Event} (he : e ∈ log) {id : Int}
    (hid : e.id? = some id) (hsince : since < id) (hle : id ≤ next) : e ∈ auditsOf outcome := by
  obtain ⟨rest, hrest⟩ := h
  have hmem : e ∈ auditsOf outcome ++ rest := by
    rw [hrest]
    exact mem_laterThan.mpr ⟨he, id, hid, hsince⟩
  rcases List.mem_append.mp hmem with hmem | hmem
  · exact hmem
  · have hincreasing := hlog.increasing_laterThan since
    rw [← hrest, idsOf, List.filterMap_append, List.pairwise_append] at hincreasing
    have hlt := hincreasing.2.2 next hnext id (mem_idsOf.mpr ⟨e, hmem, hid⟩)
    omega

end Conforms

theorem conforms_error (log : List Event) (since : Int) (e : Core.Failure) :
    Conforms log since (.error e) :=
  List.nil_prefix

theorem conforms_of_brings {s : Session} (h : s.Brings (Answers log s.client) since outcome) :
    Conforms log since outcome := by
  obtain ⟨core, disk, hanswers, rfl⟩ := h
  rw [Session.pollRequest] at hanswers ⊢
  rw [Exchange.result_ask_eq]
  cases hpoll : s.client.poll since s.poll s.requestId with
  | none => exact conforms_error log since _
  | some r =>
    rw [hpoll] at hanswers
    by_cases hsendable : r.isSendable = true
    · rw [Exchange.ask, if_pos hsendable] at hanswers
      rw [id, Exchange.outcome, if_pos hsendable]
      exact hanswers r List.mem_cons_self since (Core.Client.isPoll_of_poll hpoll)
    · rw [id, Exchange.outcome, if_neg hsendable]
      exact conforms_error log since _

theorem name_of_mem_auditsOf {e : Event} (he : e ∈ auditsOf outcome) : e.name = Event.audit := by
  rw [auditsOf] at he
  split at he
  · cases he
  · simpa using (List.mem_filter.mp he).2

end Outcomes

/-! ### What is passed on -/

namespace Session

/-- The record that tells a client of an audit event. -/
def tells (s : Session) (e : Event) : Json :=
  .object [("data", .object e.data), ("event", .text "audit"), ("request_id", .text s.requestId),
    ("type", .text "event")]

/-- The record that tells a client of a failed poll. -/
def reports (s : Session) (failure : Core.Failure) : Json :=
  .object [("error", .text failure.message), ("request_id", .text s.requestId),
    ("source", .text "events"), ("type", .text "error")]

/-- The event that a record tells of. -/
def told? (s : Session) : Json → Option Event
  | .object [("data", .object data), ("event", .text name), ("request_id", .text id),
      ("type", .text "event")] => if id = s.requestId then some ⟨name, data⟩ else none
  | _ => none

theorem told?_tells (s : Session) {e : Event} (h : e.name = Event.audit) :
    s.told? (s.tells e) = some e := by
  obtain ⟨name, data⟩ := e
  obtain rfl : name = "audit" := h
  exact if_pos rfl

theorem eventRecord_eq (s : Session) {e : Event} (h : e.name = Event.audit) :
    s.eventRecord e = s.tells e := by
  obtain ⟨name, data⟩ := e
  obtain rfl : name = "audit" := h
  rfl

/-- What becomes of a poll is a report, or the audit events of the answer one by one. -/
theorem envelopes_feed [CharTables] (s : Session) (outcome : Outcome) :
    (∃ failure, (s.feed outcome).envelopes = [s.reports failure] ∧ auditsOf outcome = []) ∨
      (s.feed outcome).envelopes = (auditsOf outcome).map s.tells := by
  have hnames : ∀ e ∈ auditsOf outcome, e.name = Event.audit := fun e => name_of_mem_auditsOf
  rw [auditsOf] at hnames ⊢
  rw [feed]
  cases hevents : outcome.bind Core.Reply.events with
  | error failure => exact .inl ⟨failure, rfl, rfl⟩
  | ok events =>
    rw [hevents] at hnames
    exact .inr (List.map_congr_left fun e he => s.eventRecord_eq (hnames e he))

theorem tells_mem_feed [CharTables] (s : Session) {outcome : Outcome} {e : Event}
    (he : e ∈ auditsOf outcome) : s.tells e ∈ (s.feed outcome).envelopes := by
  obtain ⟨failure, -, haudits⟩ | henvelopes := s.envelopes_feed outcome
  · rw [haudits] at he
    cases he
  · rw [henvelopes]
    exact List.mem_map_of_mem he

theorem of_mem_feed [CharTables] {s : Session} {outcome : Outcome} {record : Json}
    (h : record ∈ (s.feed outcome).envelopes) :
    (∃ e ∈ auditsOf outcome, record = s.tells e) ∨ ∃ failure, record = s.reports failure := by
  obtain ⟨failure, henvelopes, -⟩ | henvelopes := s.envelopes_feed outcome
  · rw [henvelopes] at h
    exact .inr ⟨failure, List.mem_singleton.mp h⟩
  · rw [henvelopes] at h
    obtain ⟨e, he, rfl⟩ := List.mem_map.mp h
    exact .inl ⟨e, he, rfl⟩

theorem filterMap_told?_feed [CharTables] (s : Session) (outcome : Outcome) :
    (s.feed outcome).envelopes.filterMap s.told? = auditsOf outcome := by
  obtain ⟨failure, henvelopes, haudits⟩ | henvelopes := s.envelopes_feed outcome
  · rw [henvelopes, haudits]
    rfl
  · rw [henvelopes, List.filterMap_map]
    refine (List.filterMap_congr fun e he => ?_).trans List.filterMap_some
    exact s.told?_tells (name_of_mem_auditsOf he)

end Session

/-! ### Where a batch moves the cursor -/

theorem highest?_eq_some {ids : List Int} {next : Int} (h : Feed.highest? ids = some next) :
    next ∈ ids ∧ ∀ id ∈ ids, id ≤ next := by
  induction ids generalizing next with
  | nil => cases h
  | cons id rest ih =>
    cases hrest : Feed.highest? rest with
    | none =>
      have hnil : rest = [] := by
        cases rest with
        | nil => rfl
        | cons head tail => cases hrest
      subst hnil
      rw [← Option.some.inj h]
      simp [Feed.highest?]
    | some high =>
      obtain ⟨hmem, hhigh⟩ := ih hrest
      rw [Feed.highest?, hrest, Option.elim_some] at h
      rw [← Option.some.inj h]
      refine ⟨?_, fun n hn => ?_⟩
      · rcases Int.le_total id high with hle | hle
        · rw [Int.max_eq_right hle]
          exact List.mem_cons_of_mem _ hmem
        · rw [Int.max_eq_left hle]
          exact List.mem_cons_self
      · rcases List.mem_cons.mp hn with rfl | hn
        · exact Int.le_max_left n high
        · exact Int.le_trans (hhigh n hn) (Int.le_max_right id high)

theorem highest?_isSome {ids : List Int} (h : ids ≠ []) : ∃ next, Feed.highest? ids = some next := by
  cases ids with
  | nil => exact absurd rfl h
  | cons id rest => exact ⟨_, rfl⟩

/-- A batch moves the cursor to its highest number, if it is higher and the cursor is still where it
was at the poll's start; otherwise the cursor stays. -/
theorem advance_feed_cases [CharTables] (s : Session) (outcome : Outcome) (since cursor : Int) :
    (s.feed outcome).advance since cursor = cursor ∧
        (cursor = since → ∀ id ∈ idsOf (auditsOf outcome), id ≤ since) ∨
      ∃ next ∈ idsOf (auditsOf outcome), (∀ id ∈ idsOf (auditsOf outcome), id ≤ next) ∧
        cursor = since ∧ since < next ∧ (s.feed outcome).advance since cursor = next := by
  have hadvance : (s.feed outcome).advance since cursor
      = (Feed.highest? (idsOf (auditsOf outcome))).elim cursor
          (fun next => if since < next ∧ cursor = since then next else cursor) := by
    rw [Session.feed, auditsOf]
    cases outcome.bind Core.Reply.events with
    | error e => rfl
    | ok events =>
      show (Feed.batch (idsOf _) _).advance since cursor = (Feed.highest? (idsOf _)).elim cursor _
      rw [Feed.advance]
      cases Feed.highest? (idsOf _) with
      | none => rfl
      | some next => rfl
  rw [hadvance]
  by_cases hempty : idsOf (auditsOf outcome) = []
  · rw [hempty]
    exact .inl ⟨rfl, by simp⟩
  · obtain ⟨next, hhighest⟩ := highest?_isSome hempty
    obtain ⟨hmem, hhigh⟩ := highest?_eq_some hhighest
    rw [hhighest]
    by_cases hmoves : since < next ∧ cursor = since
    · exact .inr ⟨next, hmem, hhigh, hmoves.2, hmoves.1, if_pos hmoves⟩
    · refine .inl ⟨if_neg hmoves, fun hcursor id hid => ?_⟩
      have hle := hhigh id hid
      omega

end Gatehouse.Live
