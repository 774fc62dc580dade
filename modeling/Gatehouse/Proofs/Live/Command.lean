import Gatehouse.Live.Session
import Gatehouse.Proofs.Access.Route
import Gatehouse.Proofs.Http.Header
import Gatehouse.Proofs.Json.Records

/-!
# Commands

A command asks the core for one thing. A frame that spells it out is handled as one call with the
parts of the command, in whatever order and with whatever white space it is written: a path of the
grammar needs no slash in front and names no host, and nothing in it is taken for a query.
-/

namespace Gatehouse

/-- What is asked of the core: a method, a path and a query, a body, and a key under which it is done
once. -/
structure Command where
  method : Method
  path : String
  query : Option String
  body : Json.Members
  key : Option String

namespace Command

/-- A command with one of two methods, for a path that is forwarded in JSON and that the relay does
not answer itself. No text in it is blank or has blanks around it, and the key may be sent. -/
structure Plain (c : Command) : Prop where
  method : c.method = .get ∨ c.method = .post
  route : Route.classify c.path = some .json
  health : c.path ≠ "/health"
  path : Text.trim c.path = c.path
  query : c.query.bind Text.nonBlank? = c.query
  key : c.key.bind Text.nonBlank? = c.key
  sendable : ∀ k, c.key = some k → (Header.value? k).isSome

def fieldNames : List String :=
  ["type", "method", "path", "query", "body", "idempotency_key"]

/-- The members of an object that spells a command out. Each field stands once; a query or a key that
there is not is null or left out. -/
structure Spelt (c : Command) (pairs : Json.Members) : Prop where
  known : ∀ p ∈ pairs, p.1 ∈ fieldNames
  distinct : (pairs.map Prod.fst).Nodup
  kind : Keyed.get? "type" pairs = some (.text "command")
  method : Keyed.get? "method" pairs = some (.text c.method.name)
  path : Keyed.get? "path" pairs = some (.text c.path)
  query : (Keyed.get? "query" pairs).getD .null = Json.text? c.query
  body : Keyed.get? "body" pairs = some (.object c.body)
  key : (Keyed.get? "idempotency_key" pairs).getD .null = Json.text? c.key

/-- A frame that spells a command out, its members nested one level less deep than a frame may be. -/
def InFrame (c : Command) (frame : String) : Prop :=
  ∃ members pairs, Json.Written.ofText? frame = some (.object members) ∧
    Json.pairs? (Json.maxDepth - 1) members = some pairs ∧ c.Spelt pairs

def message (c : Command) : Message where
  kind := "command"
  id := none
  method := some c.method.name
  path := some c.path
  query := c.query
  body := some c.body
  idempotencyKey := c.key
  sinceId := none
  sessionId := none
  sinceSeq := none
  limit := none
  input := none

/-- The call that a command asks for, and the kind of the reply. -/
def plan (c : Command) : Live.Plan :=
  ⟨⟨c.method, c.path, c.query, some c.body, c.key⟩, "command_result", none⟩

variable {c : Command}

/-! ### From the frame to the message -/

theorem Spelt.absent {pairs : Json.Members} (h : c.Spelt pairs) {name : String}
    (hname : name ∉ fieldNames) : Keyed.get? name pairs = none := by
  rw [Keyed.get?_eq_none_iff]
  intro hmem
  obtain ⟨p, hp, rfl⟩ := List.mem_map.mp hmem
  exact hname (h.known p hp)

theorem InFrame.ofText? {frame : String} (h : c.InFrame frame) :
    Message.ofText? frame = some c.message := by
  obtain ⟨members, pairs, htree, hpairs, hspelt⟩ := h
  obtain ⟨fields, hmembers, hfields⟩ := Json.fields_of_pairs? hpairs
  have hkeys : fields.map Prod.fst = pairs.map Prod.fst := Json.keys_of_standsFor hfields
  have hnames : ∀ name ∈ fieldNames, name ∈ Message.fieldNames := by decide
  have hknown : ∀ f ∈ fields, f.1 ∈ Message.fieldNames := by
    intro f hf
    have hmem : f.1 ∈ fields.map Prod.fst := List.mem_map_of_mem hf
    rw [hkeys] at hmem
    obtain ⟨p, hp, hname⟩ := List.mem_map.mp hmem
    rw [← hname]
    exact hnames p.1 (hspelt.known p hp)
  have hread := Json.fields?_object hmembers hknown (hkeys ▸ hspelt.distinct)
  have hkind := Json.field?_of_standsFor hfields "" hspelt.kind fun w hw =>
    Json.text?_of_value? hw
  have hmethod := Json.field?_nullable_text? hfields (o := some c.method.name)
    (by rw [hspelt.method]; rfl)
  have hpath := Json.field?_nullable_text? hfields (o := some c.path) (by rw [hspelt.path]; rfl)
  have hquery := Json.field?_nullable_text? hfields hspelt.query
  have hbody := Json.field?_of_standsFor hfields none hspelt.body fun w hw =>
    Json.nullable_members?_of_value? hw
  have hkey := Json.field?_nullable_text? hfields hspelt.key
  have habsent {α : Type} (read : Json.Written → Option (Option α)) {name : String}
      (hname : name ∉ fieldNames) : Json.field? read none name fields = some none :=
    Json.field?_absent hfields (hspelt.absent hname)
  rw [Message.ofText?]
  refine Option.bind_eq_some_iff.mpr ⟨_, htree, ?_⟩
  refine Option.bind_eq_some_iff.mpr ⟨_, hread, ?_⟩
  -- the fields in the order in which they are read
  refine Option.bind_eq_some_iff.mpr ⟨_, hkind, ?_⟩
  refine Option.bind_eq_some_iff.mpr ⟨_, habsent _ (show "id" ∉ fieldNames by decide), ?_⟩
  refine Option.bind_eq_some_iff.mpr ⟨_, hmethod, ?_⟩
  refine Option.bind_eq_some_iff.mpr ⟨_, hpath, ?_⟩
  refine Option.bind_eq_some_iff.mpr ⟨_, hquery, ?_⟩
  refine Option.bind_eq_some_iff.mpr ⟨_, hbody, ?_⟩
  refine Option.bind_eq_some_iff.mpr ⟨_, hkey, ?_⟩
  refine Option.bind_eq_some_iff.mpr ⟨_, habsent _ (show "since_id" ∉ fieldNames by decide), ?_⟩
  refine Option.bind_eq_some_iff.mpr ⟨_, habsent _ (show "session_id" ∉ fieldNames by decide), ?_⟩
  refine Option.bind_eq_some_iff.mpr ⟨_, habsent _ (show "since_seq" ∉ fieldNames by decide), ?_⟩
  refine Option.bind_eq_some_iff.mpr ⟨_, habsent _ (show "limit" ∉ fieldNames by decide), ?_⟩
  refine Option.bind_eq_some_iff.mpr ⟨_, habsent _ (show "input" ∉ fieldNames by decide), ?_⟩
  rfl

/-! ### From the message to the call -/

end Command

section Classified

variable {path : String} {kind : ForwardKind}

/-- A path of the grammar names no host: two slashes in a row would enclose a segment that names
nothing. -/
theorem not_contains_of_classify (hroute : Route.classify path = some kind) :
    Text.contains "://" path = false := by
  obtain ⟨route, hread, -⟩ := Option.map_eq_some_iff.mp hroute
  obtain ⟨rest, hrest, hnaming⟩ := Route.isNaming_of_ofPath? hread
  rw [Bool.eq_false_iff]
  intro hcontains
  obtain ⟨a, b, hparts⟩ := Text.exists_of_containsChars hcontains
  obtain ⟨a, rfl⟩ : ∃ tail, a = '/' :: tail := by
    rw [hrest] at hparts
    cases a with
    | nil => cases hparts
    | cons c tail => exact ⟨tail, by rw [(List.cons.inj hparts).1]⟩
  have hrest' : rest = (a ++ [':']) ++ '/' :: '/' :: b := by
    rw [hrest] at hparts
    simpa using hparts
  have hempty : [] ∈ Text.splitChars '/' rest := by
    rw [hrest', Text.splitChars_append_sep, Text.splitChars_cons_sep]
    simp
  exact (hnaming [] hempty).1 rfl

theorem exists_of_classify (hroute : Route.classify path = some kind) :
    ∃ rest, path = "/" ++ rest := by
  obtain ⟨route, hread, -⟩ := Option.map_eq_some_iff.mp hroute
  obtain ⟨rest, hrest, -⟩ := Route.isNaming_of_ofPath? hread
  refine ⟨String.ofList rest, ?_⟩
  rw [← String.toList_inj, hrest]
  simp

theorem commandPath?_slash {rest : String} (htrim : Text.trim ("/" ++ rest) = "/" ++ rest) :
    commandPath? ("/" ++ rest)
      = if Text.contains "://" ("/" ++ rest) then none else some ("/" ++ rest) := by
  have hne : "/" ++ rest ≠ "" := by simp
  simp only [commandPath?, htrim, hne, false_or, Text.after?_append, Option.isSome_some, if_true]

/-- A path of the grammar that has no blanks around it is taken as it is. -/
theorem commandPath?_of_classify (hroute : Route.classify path = some kind)
    (htrim : Text.trim path = path) : commandPath? path = some path := by
  obtain ⟨rest, rfl⟩ := exists_of_classify hroute
  rw [commandPath?_slash htrim, not_contains_of_classify hroute]
  rfl

end Classified

/-- The kind of a message, apart from blanks around it and from capitals. -/
def Message.IsKind (m : Message) (name : String) : Prop :=
  Text.lower (Text.trim m.kind) = name

theorem Message.IsKind.eq {m : Message} {name : String} (h : m.IsKind name) :
    Text.lower (Text.trim m.kind) = name := h

/-- A call that a command can spell out: with one of the two methods of a command, for a path that is
forwarded in JSON. Neither the path nor the query has blanks around it. -/
structure Core.Call.Spellable (call : Core.Call) : Prop where
  method : call.method = .get ∨ call.method = .post
  route : Route.classify call.path = some .json
  path : Text.trim call.path = call.path
  query : call.query.bind Text.nonBlank? = call.query

/-- A command that spells a call out part by part. -/
structure Message.Spells (m : Message) (call : Core.Call) : Prop where
  kind : m.IsKind "command"
  method : m.method = some call.method.name
  path : m.path = some call.path
  query : m.query = call.query
  body : m.body = call.body
  key : m.idempotencyKey = call.idempotencyKey

namespace Message

variable {m : Message} {method : Method} {path : String} {query : Option String}

theorem commandMethod?_of_name (hmethod : method = .get ∨ method = .post)
    (h : m.method = some method.name) : m.commandMethod? = some method := by
  have hnames : Text.nonBlank? Method.get.name = some "GET" ∧
      Text.nonBlank? Method.post.name = some "POST" := by
    decide
  rw [commandMethod?, h, Option.bind_some]
  rcases hmethod with rfl | rfl
  · rw [hnames.1]
    exact if_pos (by decide)
  · rw [hnames.2]
    exact (if_neg (by decide)).trans (if_pos (by decide))

theorem wish_of_command (h : m.IsKind "command") : m.wish = m.command := by
  rw [wish, h.eq]
  rfl

theorem command_of_target {full : String} (hmethod : m.commandMethod? = some method)
    (hpath : m.path.bind commandPath? = some full)
    (htarget : commandTarget full m.query = (path, query)) :
    m.command
      = .call ⟨⟨method, path, query, m.body, m.idempotencyKey⟩, "command_result", none⟩ := by
  rw [command, hmethod]
  simp only [hpath, htarget]

/-- Nothing in a path of the grammar is taken for a query. -/
theorem commandTarget_of_classify {kind : ForwardKind} (h : Route.classify path = some kind)
    (query : Option String) : commandTarget path query = (path, query.bind Text.nonBlank?) := by
  obtain ⟨route, hread, -⟩ := Option.map_eq_some_iff.mp h
  rw [commandTarget, Text.cut_of_not_mem (Route.question_not_mem_of_ofPath? hread)]

theorem Spells.wish {call : Core.Call} (h : m.Spells call) (hcall : call.Spellable) :
    m.wish = .call ⟨call, "command_result", none⟩ := by
  have hpath : m.path.bind commandPath? = some call.path := by
    rw [h.path]
    exact commandPath?_of_classify hcall.route hcall.path
  have htarget : commandTarget call.path m.query = (call.path, call.query) := by
    rw [commandTarget_of_classify hcall.route, h.query, hcall.query]
  rw [wish_of_command h.kind,
    command_of_target (commandMethod?_of_name hcall.method h.method) hpath htarget, h.body, h.key]

end Message

namespace Command

variable {c : Command}

theorem Plain.wish (h : c.Plain) : c.message.wish = .call c.plan := by
  have hkind : Text.lower (Text.trim "command") = "command" := by decide
  have hspells : c.message.Spells c.plan.call := ⟨hkind, rfl, rfl, rfl, rfl, rfl⟩
  exact hspells.wish ⟨h.method, h.route, h.path, h.query⟩

theorem handle_eq_relay (h : c.Plain) {frame : String} (hframe : c.InFrame frame)
    (s : Live.Session) (cursor : Int) (commandId : String) :
    s.handle cursor commandId frame
      = s.relay c.plan commandId cursor fun members => s.record (("id", .null) :: members) := by
  rw [Live.Session.handle, hframe.ofText?]
  simp only [h.wish]
  rfl

end Command

end Gatehouse
