import Gatehouse.Proofs.Access.Grammar
import Gatehouse.Proofs.Json.Edges
import Gatehouse.Proofs.Live.Command
import Gatehouse.Proofs.Live.Relaying

/-!
# Typed messages

A message about terminals or the browser is short for a command. The relation between the two is said
here by kinds, from the fields of the message alone, and it is all there is: whatever is not a command
and asks for a call stands for one. The path of such a call is put together from an id that the client
chose, and a command would have its path trimmed, searched for a host and a query, and classified.
None of this changes it, so the message and the command come to the same call.
-/

namespace Gatehouse

open Live

namespace Message

/-! ### The commands that messages stand for -/

def terminalPath (id name : String) : String :=
  "/terminal/sessions/" ++ id ++ "/" ++ name

/-- The query for output of a terminal: the line to start from, 0 at the least and by default, and
the number of lines, 600 by default and kept between 1 and 5000. -/
def outputQuery (m : Message) : String :=
  "since_seq=" ++ toString (max 0 (m.sinceSeq.getD 0)) ++ "&limit="
    ++ toString (max 1 (min 5000 (m.limit.getD 600)))

/-- The keystrokes that a message brings: its own input, or where this is blank the input in the body.
A value there that is no text is typed as it is written, and null is as good as nothing. -/
inductive Types (m : Message) : String → Prop where
  | own {keys : String} (input : m.input = some keys) (shown : Text.trim keys ≠ "") : Types m keys
  | text {keys : String} (blank : Text.trim (m.input.getD "") = "")
    (body : m.body.bind (Keyed.get? "input") = some (.text keys)) : Types m keys
  | value {v : Json} (blank : Text.trim (m.input.getD "") = "")
    (body : m.body.bind (Keyed.get? "input") = some v) (notText : ∀ s, v ≠ .text s)
    (notNull : v ≠ .null) : Types m v.write
  | blank (blank : Text.trim (m.input.getD "") = "")
    (body : ∀ v, m.body.bind (Keyed.get? "input") = some v → v = .null) : Types m (m.input.getD "")

/-- What the browser can be asked without doing anything. -/
def browserReads : List String :=
  ["status", "pages"]

/-- The call that a typed message stands for, if its fields are valid. -/
inductive StandsFor (m : Message) : Core.Call → Prop where
  | list (kind : m.IsKind "terminal_list") :
    StandsFor m ⟨.get, "/terminal/sessions", none, none, none⟩
  | start (kind : m.IsKind "terminal_start") :
    StandsFor m ⟨.post, "/terminal/sessions", none, some (m.body.getD []), m.idempotencyKey⟩
  | poll {id : String} (kind : m.IsKind "terminal_poll")
    (session : terminalId m.sessionId = .ok id) :
    StandsFor m ⟨.get, terminalPath id "output", some m.outputQuery, none, none⟩
  | type {id keys : String} (kind : m.IsKind "terminal_input")
    (session : terminalId m.sessionId = .ok id) (input : m.Types keys) (typed : keys ≠ "") :
    StandsFor m ⟨.post, terminalPath id "input", none, some [("input", .text keys)],
      m.idempotencyKey⟩
  | close {id : String} (kind : m.IsKind "terminal_close")
    (session : terminalId m.sessionId = .ok id) :
    StandsFor m ⟨.post, terminalPath id "close", none, some (m.body.getD []), m.idempotencyKey⟩
  | read {name : String} (kind : m.IsKind ("browser_" ++ name)) (known : name ∈ browserNames)
    (reads : name ∈ browserReads) :
    StandsFor m ⟨.get, "/browser/" ++ name, none, none, m.idempotencyKey⟩
  | act {name : String} (kind : m.IsKind ("browser_" ++ name)) (known : name ∈ browserNames)
    (acts : name ∉ browserReads) :
    StandsFor m ⟨.post, "/browser/" ++ name, none, some (m.body.getD []), m.idempotencyKey⟩

variable {m : Message} {call : Core.Call} {name id : String}

theorem isResourceId_of_terminalId {raw : Option String} (h : terminalId raw = .ok id) :
    isResourceId id = true := by
  simp only [terminalId] at h
  split at h
  · cases h
  · split at h
    · next hid => exact Except.ok.inj h ▸ hid
    · cases h

theorem exists_types (m : Message) : ∃ keys, m.Types keys := by
  by_cases hblank : Text.trim (m.input.getD "") = ""
  · cases hbody : m.body.bind (Keyed.get? "input") with
    | none => exact ⟨_, .blank hblank (by simp [hbody])⟩
    | some v =>
      cases v with
      | null => exact ⟨_, .blank hblank (by simp [hbody])⟩
      | text keys => exact ⟨_, .text hblank hbody⟩
      | bool _ | number _ | list _ | object _ =>
        exact ⟨_, .value hblank hbody (by simp) (by simp)⟩
  · cases hinput : m.input with
    | none => exact absurd (by rw [hinput]; rfl) hblank
    | some keys =>
      rw [hinput] at hblank
      exact ⟨keys, .own hinput hblank⟩

theorem terminalInput_of_types {keys : String} (h : m.Types keys) :
    m.terminalInput = if keys = "" then none else some keys := by
  cases h with
  | own input shown => simp only [terminalInput, input, Option.getD_some, if_neg shown]
  | text blank body => simp only [terminalInput, if_pos blank, body]
  | @value v blank body notText notNull =>
    cases v with
    | null => exact absurd rfl notNull
    | text s => exact absurd rfl (notText s)
    | bool _ | number _ | list _ | object _ => simp only [terminalInput, if_pos blank, body]
  | blank blank body =>
    simp only [terminalInput, if_pos blank]
    cases hbody : m.body.bind (Keyed.get? "input") with
    | none => rfl
    | some v => rw [body v hbody]

/-- What is typed is what the message brings, unless that is nothing. -/
theorem terminalInput_eq_some_iff {keys : String} :
    m.terminalInput = some keys ↔ m.Types keys ∧ keys ≠ "" := by
  constructor
  · intro h
    obtain ⟨other, hother⟩ := m.exists_types
    rw [terminalInput_of_types hother] at h
    split at h
    · cases h
    · next hne => exact Option.some.inj h ▸ ⟨hother, hne⟩
  · rintro ⟨hkeys, hne⟩
    rw [terminalInput_of_types hkeys, if_neg hne]

/-! ### What they wish for -/

theorem onTerminal_of_ok (h : terminalId m.sessionId = .ok id) (wish : String → Wish) :
    m.onTerminal wish = wish id := by
  simp only [onTerminal, h]

theorem of_onTerminal_eq_call {wish : String → Wish} {plan : Plan}
    (h : m.onTerminal wish = .call plan) :
    ∃ id, terminalId m.sessionId = .ok id ∧ wish id = .call plan := by
  rw [onTerminal] at h
  split at h
  · next id hid => exact ⟨id, hid, h⟩
  · cases h

theorem exists_browserRoute? (a : BrowserAction) :
    ∃ reply, browserRoute? ("browser_" ++ a.name)
      = some ⟨if a.name ∈ browserReads then .get else .post, "/browser/" ++ a.name, reply⟩ := by
  cases a
  all_goals exact ⟨_, rfl⟩

theorem exists_of_browserRoute? {r : BrowserRoute} (h : browserRoute? name = some r) :
    ∃ a : BrowserAction, name = "browser_" ++ a.name := by
  simp only [browserRoute?, Option.bind_eq_bind, Option.bind_eq_some_iff] at h
  obtain ⟨rest, hrest, a, ha, -⟩ := h
  have hname : a.name = rest := BrowserAction.name_of_ofName? ha
  exact ⟨a, by rw [hname, Text.after?_eq_some_iff.mp hrest]⟩

theorem wish_of_browserRoute? {r : BrowserRoute} (kind : m.IsKind name)
    (h : browserRoute? name = some r) : m.wish = m.onBrowser r := by
  rw [Message.wish, kind.eq]
  split
  -- none of the names that come first is that of a browser message
  iterate 8 cases h
  simp only [h]

theorem StandsFor.wish (h : m.StandsFor call) :
    ∃ reply extra, m.wish = .call ⟨call, reply, extra⟩ ∧
      Plan.SparesError ⟨call, reply, extra⟩ := by
  cases h with
  | list kind =>
    refine ⟨"terminal_sessions", none, ?_, sparesError_of_none _ _⟩
    rw [Message.wish, kind.eq]
    rfl
  | start kind =>
    refine ⟨"terminal_started", none, ?_, sparesError_of_none _ _⟩
    rw [Message.wish, kind.eq]
    rfl
  | @poll id kind session =>
    refine ⟨"terminal_output", terminalExtra id, ?_, sparesError_of_some _ _ (by decide) id⟩
    rw [Message.wish, kind.eq]
    exact onTerminal_of_ok session m.terminalPoll
  | @type id keys kind session input typed =>
    refine ⟨"terminal_input_result", terminalExtra id, ?_, sparesError_of_some _ _ (by decide) id⟩
    rw [Message.wish, kind.eq]
    change m.onTerminal m.terminalType = _
    rw [onTerminal_of_ok session, terminalType, terminalInput_eq_some_iff.mpr ⟨input, typed⟩]
    rfl
  | @close id kind session =>
    refine ⟨"terminal_closed", terminalExtra id, ?_, sparesError_of_some _ _ (by decide) id⟩
    rw [Message.wish, kind.eq]
    exact onTerminal_of_ok session m.terminalClose
  | @read name kind known reads =>
    obtain ⟨a, rfl⟩ := mem_browserNames_iff.mp known
    obtain ⟨reply, hroute⟩ := exists_browserRoute? a
    rw [if_pos reads] at hroute
    exact ⟨reply, some ("path", _), wish_of_browserRoute? kind hroute,
      sparesError_of_some _ _ (by decide) _⟩
  | @act name kind known acts =>
    obtain ⟨a, rfl⟩ := mem_browserNames_iff.mp known
    obtain ⟨reply, hroute⟩ := exists_browserRoute? a
    rw [if_neg acts] at hroute
    exact ⟨reply, some ("path", _), wish_of_browserRoute? kind hroute,
      sparesError_of_some _ _ (by decide) _⟩

/-- Whatever is not a command and asks for a call stands for one. -/
theorem standsFor_of_wish {plan : Plan} (hkind : ¬m.IsKind "command") (h : m.wish = .call plan) :
    m.StandsFor plan.call := by
  rw [Message.wish] at h
  -- the kinds in the order in which they are tried
  split at h
  · cases h
  · split at h
    · cases h
    · cases h
  · next kind => exact absurd kind hkind
  · next kind =>
    cases h
    exact .list kind
  · next kind =>
    cases h
    exact .start kind
  · next kind =>
    obtain ⟨id, session, hcall⟩ := of_onTerminal_eq_call h
    cases hcall
    exact .poll kind session
  · next kind =>
    obtain ⟨id, session, hcall⟩ := of_onTerminal_eq_call h
    rw [terminalType] at hcall
    split at hcall
    · cases hcall
    · next keys hkeys =>
      obtain ⟨input, typed⟩ := terminalInput_eq_some_iff.mp hkeys
      cases hcall
      exact .type kind session input typed
  · next kind =>
    obtain ⟨id, session, hcall⟩ := of_onTerminal_eq_call h
    cases hcall
    exact .close kind session
  · split at h
    · next r hroute =>
      obtain ⟨a, hname⟩ := exists_of_browserRoute? hroute
      have known : a.name ∈ browserNames := mem_browserNames_iff.mpr ⟨a, rfl⟩
      obtain ⟨reply, hroute'⟩ := exists_browserRoute? a
      rw [hname, hroute'] at hroute
      cases hroute
      cases h
      by_cases hreads : a.name ∈ browserReads
      · rw [if_pos hreads]
        exact .read hname known hreads
      · rw [if_neg hreads]
        exact .act hname known hreads
    · cases h

/-! ### Spelling them out -/

theorem nonBlank?_outputQuery (m : Message) : Text.nonBlank? m.outputQuery = some m.outputQuery := by
  have hsince : ∀ c ∈ "since_seq=".toList, Text.isBlank c = false :=
    Text.not_blank_of_all (by decide)
  have hlimit : ∀ c ∈ "&limit=".toList, Text.isBlank c = false :=
    Text.not_blank_of_all (by decide)
  have hnumeral (n : Int) : Text.Numeral (toString n) := Json.numeral_write (.integer n)
  have hnumber (n : Int) : ∀ c ∈ (toString n).toList, Text.isBlank c = false := fun c hc =>
    Text.isBlank_of_inNumber ((hnumeral n).inNumber c hc)
  refine Text.nonBlank?_of_forall ?_ fun c hc => ?_
  · intro hempty
    have hnil := congrArg String.toList hempty
    rw [outputQuery, String.toList_append, String.toList_empty, List.append_eq_nil_iff] at hnil
    exact (hnumeral _).ne_nil hnil.2
  · rw [outputQuery, String.toList_append, String.toList_append, String.toList_append,
      List.mem_append, List.mem_append, List.mem_append] at hc
    rcases hc with ((hc | hc) | hc) | hc
    · exact hsince c hc
    · exact hnumber _ c hc
    · exact hlimit c hc
    · exact hnumber _ c hc

section Spellable

variable {method : Method} (hmethod : method = .get ∨ method = .post) (body : Option Json.Members)
  (key : Option String)

include hmethod

/-- A path below a terminal session is read as it is, whatever the id. -/
theorem spellable_terminalPath (hid : isResourceId id = true) (hname : name ∈ terminalNames)
    {query : Option String} (hquery : query.bind Text.nonBlank? = query) :
    Core.Call.Spellable ⟨method, terminalPath id name, query, body, key⟩ := by
  have hnames : ∀ name ∈ terminalNames,
      ("/" ++ name).toList.getLast?.map Text.isBlank = some false := by
    decide
  have htrim : Text.trim (terminalPath id name) = terminalPath id name := by
    -- blanks inside the id are kept, so only the ends of the path matter
    have hpath : terminalPath id name = "/terminal/sessions/" ++ id ++ ("/" ++ name) :=
      String.append_assoc
    exact hpath ▸ Text.trim_between (by decide) (hnames name hname) id
  exact ⟨hmethod, Route.classify_iff_derives.mpr (.terminal (isResourceId_iff.mp hid) hname), htrim,
    hquery⟩

theorem spellable_browser (hname : name ∈ browserNames) :
    Core.Call.Spellable ⟨method, "/browser/" ++ name, none, body, key⟩ := by
  have hnames : ∀ name ∈ browserNames, Text.trim ("/browser/" ++ name) = "/browser/" ++ name := by
    decide
  exact ⟨hmethod, Route.classify_iff_derives.mpr (.browser hname), hnames name hname, rfl⟩

theorem spellable_terminals :
    Core.Call.Spellable ⟨method, "/terminal/sessions", none, body, key⟩ := by
  have hroute : Route.classify "/terminal/sessions" = some .json := by decide
  have htrim : Text.trim "/terminal/sessions" = "/terminal/sessions" := by decide
  exact ⟨hmethod, hroute, htrim, rfl⟩

end Spellable

theorem StandsFor.spellable (h : m.StandsFor call) : call.Spellable := by
  cases h with
  | list kind => exact spellable_terminals (.inl rfl) _ _
  | start kind => exact spellable_terminals (.inr rfl) _ _
  | poll kind session =>
    exact spellable_terminalPath (.inl rfl) _ _ (isResourceId_of_terminalId session) (by decide)
      (by rw [Option.bind_some, nonBlank?_outputQuery])
  | type kind session input typed =>
    exact spellable_terminalPath (.inr rfl) _ _ (isResourceId_of_terminalId session) (by decide) rfl
  | close kind session =>
    exact spellable_terminalPath (.inr rfl) _ _ (isResourceId_of_terminalId session) (by decide) rfl
  | read kind known reads => exact spellable_browser (.inl rfl) _ _ known
  | act kind known acts => exact spellable_browser (.inr rfl) _ _ known

end Message

namespace Live.Session

/-- A typed message and the command that it is short for come to the same call, which is decided by
the caller's scopes alone, and neither is told that its path is not forwarded. -/
theorem handles_as_command (s : Session) {typed spelt : String} {m c : Message} {call : Core.Call}
    (htyped : Message.ofText? typed = some m) (hspelt : Message.ofText? spelt = some c)
    (hcall : m.StandsFor call) (hcommand : c.Spells call) (cursor other : Int)
    {commandId fresh : String} (hid : (Header.value? commandId).isSome)
    (hfresh : (Header.value? fresh).isSome) :
    Relayed s call commandId (s.handle cursor commandId typed) ∧
      Relayed s call fresh (s.handle other fresh spelt) ∧
      (s.handle cursor commandId typed).call?.map Core.Request.unnamed
        = (s.handle other fresh spelt).call?.map Core.Request.unnamed := by
  have hroute := hcall.spellable.route
  obtain ⟨reply, extra, hwish, hextra⟩ := hcall.wish
  have hwish' := hcommand.wish hcall.spellable
  have hmessage : Relayed s call commandId (s.handle cursor commandId typed) :=
    s.relayed_of_wish htyped hwish hroute hextra cursor commandId
  have hspelling : Relayed s call fresh (s.handle other fresh spelt) :=
    s.relayed_of_wish hspelt hwish' hroute (sparesError_of_none _ _) other fresh
  exact ⟨hmessage, hspelling, hmessage.unnamed_eq hspelling hid hfresh⟩

def trusted : Session :=
  { reader with caller := .openAccess }

/-- A message that closes a terminal session with an unusual id, and the command for it. -/
def closeFrame : String :=
  "\x7b\"type\":\"Terminal_Close \",\"session_id\":\" ... \",\"idempotency_key\":\"k1\"\x7d"

def closeCommandFrame : String :=
  "\x7b\"type\":\"command\",\"method\":\"POST\",\"path\":\"/terminal/sessions/.../close\","
    ++ "\"body\":\x7b\x7d,\"idempotency_key\":\"k1\"\x7d"

def closeCall : Core.Call :=
  ⟨.post, Message.terminalPath "..." "close", none, some [], some "k1"⟩

theorem handles_as_command_close :
    ∃ m c, Message.ofText? closeFrame = some m ∧ Message.ofText? closeCommandFrame = some c ∧
      m.StandsFor closeCall ∧ c.Spells closeCall ∧
      Relayed trusted closeCall "c1" (trusted.handle 0 "c1" closeFrame) ∧
      Relayed trusted closeCall "c2" (trusted.handle 0 "c2" closeCommandFrame) ∧
      (trusted.handle 0 "c1" closeFrame).call?.map Core.Request.unnamed
        = (trusted.handle 0 "c2" closeCommandFrame).call?.map Core.Request.unnamed ∧
      (trusted.handle 0 "c1" closeFrame).call?.isSome := by
  have hclose : (Message.ofText? closeFrame).map
      (fun m => (m.kind, m.sessionId, m.body.isNone, m.idempotencyKey))
        = some ("Terminal_Close ", some " ... ", true, some "k1") := by
    decide +kernel
  have hspelt : (Message.ofText? closeCommandFrame).map
      (fun c => ((c.kind, c.method, c.path), c.query, c.body.map List.length, c.idempotencyKey))
        = some (("command", some "POST", some "/terminal/sessions/.../close"), none, some 0,
          some "k1") := by
    decide +kernel
  obtain ⟨m, hm, hmfields⟩ := Option.map_eq_some_iff.mp hclose
  obtain ⟨c, hc, hcfields⟩ := Option.map_eq_some_iff.mp hspelt
  simp only [Prod.mk.injEq, Option.isNone_iff_eq_none] at hmfields
  simp only [Prod.mk.injEq, Option.map_eq_some_iff, List.length_eq_zero_iff] at hcfields
  obtain ⟨hkind, hsession, hbody, hkey⟩ := hmfields
  obtain ⟨⟨hckind, hmethod, hpath⟩, hquery, ⟨body, hcbody, rfl⟩, hckey⟩ := hcfields
  have hstands : m.StandsFor closeCall := by
    have hnamed : m.IsKind "terminal_close" := by
      rw [Message.IsKind, hkind]
      decide
    have hid : terminalId m.sessionId = .ok "..." := by
      rw [hsession]
      rfl
    have hcall := Message.StandsFor.close hnamed hid
    rwa [hbody, hkey] at hcall
  have hspells : c.Spells closeCall := by
    refine ⟨?_, hmethod, hpath, hquery, hcbody, hckey⟩
    rw [Message.IsKind, hckind]
    decide
  have hid : (Header.value? "c1").isSome := by decide
  have hfresh : (Header.value? "c2").isSome := by decide
  obtain ⟨hmessage, hspelling, hsame⟩ :=
    handles_as_command trusted hm hc hstands hspells 0 0 hid hfresh
  have hcalled : (trusted.handle 0 "c1" closeFrame).call?.isSome := by decide +kernel
  exact ⟨m, c, hm, hc, hstands, hspells, hmessage, hspelling, hsame, hcalled⟩

end Live.Session

end Gatehouse
