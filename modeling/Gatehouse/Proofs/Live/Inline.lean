import Gatehouse.Proofs.Live.Command
import Gatehouse.Proofs.Live.Relaying

/-!
# Queries inside a path

A command may carry its query in a field or after a question mark in its path. Cutting the path gives
both back, so the two are handled alike, with one exception: the test for a host looks at the path
together with the query. A query that holds a URL is refused inside a path and relayed from its field.
-/

namespace Gatehouse

open Live

/-- A path that is forwarded in JSON and a query that goes with it. Neither of them is blank or has
blanks around it. -/
structure Queried (p q : String) : Prop where
  route : Route.classify p = some .json
  path : Text.trim p = p
  query : Text.trim q = q
  nonempty : q ≠ ""

namespace Queried

variable {p q : String}

/-- Of a path with its query only the query can name a host. -/
theorem contains_append (h : Queried p q) :
    Text.contains "://" (p ++ "?" ++ q) = Text.contains "://" q := by
  have hparts : (p ++ "?" ++ q).toList = p.toList ++ '?' :: q.toList := by simp
  rw [Text.contains, hparts, Text.containsChars_append_sep (by decide) (by decide)]
  show (Text.contains "://" p || Text.contains "://" q) = Text.contains "://" q
  rw [not_contains_of_classify h.route, Bool.false_or]

theorem commandPath?_append (h : Queried p q) :
    commandPath? (p ++ "?" ++ q)
      = if Text.contains "://" q then none else some (p ++ "?" ++ q) := by
  rw [← h.contains_append]
  -- what is trimmed away would stand before the path or after the query
  obtain ⟨rest, rfl⟩ := exists_of_classify h.route
  have hstart : ("/" ++ rest).toList.head?.map Text.isBlank = some false := by
    rw [String.toList_append]
    rfl
  have htrim : Text.trim ("/" ++ rest ++ "?" ++ q) = "/" ++ rest ++ "?" ++ q :=
    Text.trim_between hstart (Text.getLast?_of_trim h.query h.nonempty) "?"
  have hslash : "/" ++ rest ++ "?" ++ q = "/" ++ (rest ++ ("?" ++ q)) := by
    simp only [String.append_assoc]
  rw [hslash] at htrim ⊢
  exact commandPath?_slash htrim

theorem commandTarget_append (h : Queried p q) :
    Message.commandTarget (p ++ "?" ++ q) none = (p, some q) := by
  obtain ⟨route, hread, -⟩ := Option.map_eq_some_iff.mp h.route
  have hcut : Text.cut '?' (p ++ "?" ++ q) = some (p, q) :=
    Text.cut_of_toList_eq (by simp) (Route.question_not_mem_of_ofPath? hread)
  simp only [Message.commandTarget, hcut, if_neg h.nonempty, Option.bind_none, Option.none_or]

theorem commandTarget_field (h : Queried p q) :
    Message.commandTarget p (some q) = (p, some q) := by
  have hquery : Text.nonBlank? q = some q :=
    Text.nonBlank?_eq_some_iff.mpr ⟨h.query, h.nonempty⟩
  rw [Message.commandTarget_of_classify h.route, Option.bind_some, hquery]

end Queried

namespace Message

/-- A command whose query stands in its path. -/
def inPath (m : Message) (p q : String) : Message :=
  { m with path := some (p ++ "?" ++ q), query := none }

def inField (m : Message) (p q : String) : Message :=
  { m with path := some p, query := some q }

variable {m : Message} {method : Method} {p q : String}

theorem inPath_path (m : Message) (p q : String) : (m.inPath p q).path = some (p ++ "?" ++ q) := rfl

theorem inField_path (m : Message) (p q : String) : (m.inField p q).path = some p := rfl

theorem wish_inField (hkind : m.IsKind "command") (h : Queried p q)
    (hmethod : m.commandMethod? = some method) :
    (m.inField p q).wish
      = .call ⟨⟨method, p, some q, m.body, m.idempotencyKey⟩, "command_result", none⟩ := by
  have hpath : (m.inField p q).path.bind commandPath? = some p := by
    rw [inField_path, Option.bind_some, commandPath?_of_classify h.route h.path]
  rw [wish_of_command (m := m.inField p q) hkind]
  exact command_of_target (m := m.inField p q) hmethod hpath h.commandTarget_field

/-- A query that names no host can stand in either place, and so can any where there is no method. -/
theorem wish_inPath (hkind : m.IsKind "command") (h : Queried p q)
    (hfree : Text.contains "://" q = false ∨ m.commandMethod? = none) :
    (m.inPath p q).wish = (m.inField p q).wish := by
  cases hmethod : m.commandMethod? with
  | none =>
    have hrefused (other : Message) (hother : other.commandMethod? = none) :
        other.command = .answer (errorMembers "method must be GET or POST") := by
      rw [command, hother]
    rw [wish_of_command (m := m.inPath p q) hkind, wish_of_command (m := m.inField p q) hkind,
      hrefused (m.inPath p q) hmethod, hrefused (m.inField p q) hmethod]
  | some method =>
    have hpath : (m.inPath p q).path.bind commandPath? = some (p ++ "?" ++ q) := by
      rw [inPath_path, Option.bind_some, h.commandPath?_append,
        hfree.resolve_right (by simp [hmethod])]
      rfl
    rw [wish_inField hkind h hmethod, wish_of_command (m := m.inPath p q) hkind]
    exact command_of_target (m := m.inPath p q) hmethod hpath h.commandTarget_append

/-- A query that names a host is refused together with its path. -/
theorem wish_inPath_of_host (hkind : m.IsKind "command") (h : Queried p q)
    (hhost : Text.contains "://" q = true) (hmethod : m.commandMethod? = some method) :
    (m.inPath p q).wish = .answer (notForwardable "") := by
  have hmethod' : (m.inPath p q).commandMethod? = some method := hmethod
  have hpath : (m.inPath p q).path.bind commandPath? = none := by
    rw [inPath_path, Option.bind_some, h.commandPath?_append, hhost]
    rfl
  rw [wish_of_command (m := m.inPath p q) hkind, command, hmethod']
  simp only [hpath]

end Message

namespace Live.Session

/-- A query that names no host means the same inside a path as in its field, whatever the method, the
body and the key. One that names a host is refused inside a path, though from its field it is relayed.
-/
theorem handles_inPath (s : Session) {inline field : String} {m : Message} {p q : String}
    (hinline : Message.ofText? inline = some (m.inPath p q))
    (hfield : Message.ofText? field = some (m.inField p q)) (hkind : m.IsKind "command")
    (h : Queried p q) (cursor : Int) (commandId : String) :
    (Text.contains "://" q = false ∨ m.commandMethod? = none →
      s.handle cursor commandId inline = s.handle cursor commandId field ∧
      ∀ other fresh, (Header.value? commandId).isSome → (Header.value? fresh).isSome →
        (s.handle cursor commandId inline).call?.map Core.Request.unnamed
          = (s.handle other fresh field).call?.map Core.Request.unnamed) ∧
    (Text.contains "://" q = true → ∀ method, m.commandMethod? = some method →
      s.handle cursor commandId inline
        = .done ⟨s.record (("id", m.id.getD .null) :: notForwardable ""), cursor, false⟩ ∧
      Relayed s ⟨method, p, some q, m.body, m.idempotencyKey⟩ commandId
        (s.handle cursor commandId field)) := by
  constructor
  · intro hfree
    have hsame : s.handle cursor commandId inline = s.handle cursor commandId field :=
      s.handle_congr hinline hfield rfl (Message.wish_inPath hkind h hfree) cursor commandId
    refine ⟨hsame, fun other fresh hid hfresh => ?_⟩
    rw [hsame]
    exact s.unnamed_handle field cursor other hid hfresh
  · intro hhost method hmethod
    have hrefused := Message.wish_inPath_of_host hkind h hhost hmethod
    have hrelayed := Message.wish_inField hkind h hmethod
    exact ⟨s.handle_of_answer hinline hrefused cursor commandId,
      s.relayed_of_wish hfield hrelayed h.route (sparesError_of_none _ _) cursor commandId⟩

def jobsMessage : Message where
  kind := "command"
  id := none
  method := none
  path := none
  query := none
  body := none
  idempotencyKey := none
  sinceId := none
  sessionId := none
  sinceSeq := none
  limit := none
  input := none

def inPathFrame (q : String) : String :=
  "\x7b\"type\":\"command\",\"path\":\"/jobs?" ++ q ++ "\"\x7d"

def inFieldFrame (q : String) : String :=
  "\x7b\"type\":\"command\",\"path\":\"/jobs\",\"query\":\"" ++ q ++ "\"\x7d"

/-- Whether a message is that command with a path and a query, and has no other field. -/
def isJobs (path query : Option String) (m : Message) : Bool :=
  m.kind == "command" && m.path == path && m.query == query && m.id.isNone && m.body.isNone &&
    m.method.isNone && m.idempotencyKey.isNone && m.sinceId.isNone && m.sessionId.isNone &&
    m.sinceSeq.isNone && m.limit.isNone && m.input.isNone

theorem ofText?_of_isJobs {frame : String} {path query : Option String}
    (h : (Message.ofText? frame).any (isJobs path query) = true) :
    Message.ofText? frame = some { jobsMessage with path, query } := by
  obtain ⟨m, hm, hfields⟩ := (Option.any_eq_true _ _).mp h
  rw [hm]
  cases m
  simp_all [isJobs, jobsMessage]

theorem handles_inPath_jobs :
    (Queried "/jobs" "limit=5" ∧ Text.contains "://" "limit=5" = false ∧
      reader.handle 0 "c1" (inPathFrame "limit=5") = reader.handle 0 "c1" (inFieldFrame "limit=5") ∧
      (reader.handle 0 "c1" (inPathFrame "limit=5")).call?.isSome) ∧
    Queried "/jobs" "next=http://x" ∧ Text.contains "://" "next=http://x" = true ∧
      reader.handle 0 "c1" (inPathFrame "next=http://x")
        = .done ⟨reader.record (("id", .null) :: notForwardable ""), 0, false⟩ ∧
      (reader.handle 0 "c1" (inFieldFrame "next=http://x")).call?.isSome := by
  have hkind : jobsMessage.IsKind "command" := by
    show Text.lower (Text.trim "command") = "command"
    decide
  have hmethod : jobsMessage.commandMethod? = some .get := rfl
  have hroute : Route.classify "/jobs" = some .json := by decide
  have hpath : Text.trim "/jobs" = "/jobs" := by decide
  have hplain : Queried "/jobs" "limit=5" := ⟨hroute, hpath, by decide, by decide⟩
  have hurl : Queried "/jobs" "next=http://x" := ⟨hroute, hpath, by decide, by decide⟩
  have hfree : Text.contains "://" "limit=5" = false := by decide
  have hhost : Text.contains "://" "next=http://x" = true := by decide
  have hinPath : Message.ofText? (inPathFrame "limit=5")
      = some (jobsMessage.inPath "/jobs" "limit=5") :=
    ofText?_of_isJobs (by decide +kernel)
  have hinField : Message.ofText? (inFieldFrame "limit=5")
      = some (jobsMessage.inField "/jobs" "limit=5") :=
    ofText?_of_isJobs (by decide +kernel)
  have hinPath' : Message.ofText? (inPathFrame "next=http://x")
      = some (jobsMessage.inPath "/jobs" "next=http://x") :=
    ofText?_of_isJobs (by decide +kernel)
  have hinField' : Message.ofText? (inFieldFrame "next=http://x")
      = some (jobsMessage.inField "/jobs" "next=http://x") :=
    ofText?_of_isJobs (by decide +kernel)
  obtain ⟨hsame, -⟩ := (handles_inPath reader hinPath hinField hkind hplain 0 "c1").1 (.inl hfree)
  obtain ⟨hrefused, -⟩ :=
    (handles_inPath reader hinPath' hinField' hkind hurl 0 "c1").2 hhost .get hmethod
  exact ⟨⟨hplain, hfree, hsame, by decide +kernel⟩, hurl, hhost, hrefused, by decide +kernel⟩

end Live.Session

end Gatehouse
