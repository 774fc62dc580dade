import Gatehouse.Live.Event
import Gatehouse.Proofs.Json.Padding
import Gatehouse.Proofs.Text.Split

/-!
# The event stream

The events of a stream are told from its lines alone. Each data line is one event, and its name
stands in the last event line behind the data line before it. A carriage return at the end of a line
does not matter, since what follows the field of a line is trimmed. So a stream that is written as
frames is read as the events of the frames, and a stream of any other form loses no data line.
-/

namespace Gatehouse

/-! ### Carriage returns -/

/-- What is dropped at the end of a list is dropped at the end of what stands behind its start. -/
theorem Text.afterChars_dropEnd {p : Char → Bool} {start : List Char}
    (hstart : dropEnd p start = start) (l : List Char) :
    afterChars start (dropEnd p l) = (afterChars start l).map (dropEnd p) := by
  cases hl : afterChars start l with
  | some rest =>
    rw [afterChars_eq_some_iff.mp hl, dropEnd_append_of_fixed hstart, Option.map_some]
    exact afterChars_eq_some_iff.mpr rfl
  | none =>
    rw [Option.map_none]
    by_contra hsome
    obtain ⟨rest, hrest⟩ := Option.ne_none_iff_exists'.mp hsome
    obtain ⟨tail, htail⟩ := List.rdropWhile_prefix p l
    rw [← dropEnd_eq_rdropWhile, afterChars_eq_some_iff.mp hrest, List.append_assoc] at htail
    rw [afterChars_eq_some_iff.mpr htail.symm] at hl
    cases hl

namespace Event

theorem isBlank_of_return {c : Char} (h : (c == '\r') = true) : Text.isBlank c = true := by
  rw [eq_of_beq h]
  decide

theorem trim_bareLine (l : List Char) : Text.trim (bareLine l) = Text.trim (String.ofList l) := by
  rw [Text.trim, Text.trim, bareLine, String.toList_ofList, String.toList_ofList,
    Text.trimChars_dropEnd fun c => isBlank_of_return]

theorem nonBlank?_bareLine (l : List Char) :
    Text.nonBlank? (bareLine l) = Text.nonBlank? (String.ofList l) := by
  rw [Text.nonBlank?, Text.nonBlank?, trim_bareLine]

theorem after?_bareLine {field : String}
    (hfield : Text.dropEnd (· == '\r') field.toList = field.toList) (l : List Char) :
    Text.after? field (bareLine l)
      = (Text.after? field (String.ofList l)).map fun rest => bareLine rest.toList := by
  rw [Text.after?, Text.after?, bareLine, String.toList_ofList, String.toList_ofList,
    Text.afterChars_dropEnd hfield, Option.map_map, Option.map_map]
  refine Option.map_congr fun rest _ => ?_
  rw [Function.comp, Function.comp, bareLine, String.toList_ofList]

theorem line_bareLine (r : Reader) (l : List Char) :
    r.line (bareLine l) = r.line (String.ofList l) := by
  rw [Reader.line, Reader.line, after?_bareLine (by decide), after?_bareLine (by decide)]
  cases Text.after? "event:" (String.ofList l) with
  | some name =>
    rw [Option.map_some]
    dsimp only
    rw [nonBlank?_bareLine, String.ofList_toList]
  | none =>
    cases Text.after? "data:" (String.ofList l) with
    | some data =>
      rw [Option.map_some, Option.map_none]
      dsimp only
      rw [trim_bareLine, String.ofList_toList]
    | none => rfl

def readLines (lines : List String) : Reader :=
  lines.foldl Reader.line ⟨unnamed, []⟩

theorem ofStream_eq (raw : String) :
    ofStream raw = (readLines (Text.split '\n' raw)).events.reverse := by
  rw [ofStream, readLines, Text.split, List.foldl_map, List.foldl_map]
  simp only [line_bareLine]

/-! ### Lines and events -/

def isData (line : String) : Bool :=
  "data:".toList.isPrefixOf line.toList

/-- The name that a data line takes behind some lines: that of the last event line behind the last
data line, if there is one and its name is not blank. -/
def nameBehind (lines : List String) : String :=
  let since := lines.reverse.takeWhile fun line => !isData line
  ((since.findSome? (Text.after? "event:")).bind Text.nonBlank?).getD unnamed

theorem isData_iff {line : String} : isData line = true ↔ ∃ data, line = "data:" ++ data := by
  rw [isData, List.isPrefixOf_iff_prefix]
  constructor
  · rintro ⟨rest, hrest⟩
    refine ⟨String.ofList rest, String.toList_inj.mp ?_⟩
    rw [← hrest, String.toList_append]
    exact congrArg _ String.toList_ofList.symm
  · rintro ⟨data, rfl⟩
    rw [String.toList_append]
    exact List.prefix_append ..

theorem after?_data_of_not_isData {line : String} (h : isData line = false) :
    Text.after? "data:" line = none := by
  cases hdata : Text.after? "data:" line with
  | none => rfl
  | some data =>
    rw [isData_iff.mpr ⟨data, Text.after?_eq_some_iff.mp hdata⟩] at h
    cases h

theorem line_cases (r : Reader) (line : String) :
    (∃ name, isData line = false ∧ Text.after? "event:" line = some name ∧
      r.line line = ⟨(Text.nonBlank? name).getD unnamed, r.events⟩) ∨
    (∃ data, line = "data:" ++ data ∧ isData line = true ∧
      r.line line = ⟨unnamed, ⟨r.name, dataOf (Text.trim data)⟩ :: r.events⟩) ∨
    (isData line = false ∧ Text.after? "event:" line = none ∧ r.line line = r) := by
  cases hline : isData line with
  | true =>
    obtain ⟨data, rfl⟩ := isData_iff.mp hline
    refine .inr (.inl ⟨data, rfl, rfl, ?_⟩)
    rw [Reader.line, Text.after?_append_eq_none (by decide) (by decide), Text.after?_append]
  | false =>
    have hdata := after?_data_of_not_isData hline
    cases hname : Text.after? "event:" line with
    | some name =>
      refine .inl ⟨name, rfl, rfl, ?_⟩
      rw [Reader.line, hname]
    | none =>
      refine .inr (.inr ⟨rfl, rfl, ?_⟩)
      rw [Reader.line, hname, hdata]

theorem readLines_concat (lines : List String) (line : String) :
    readLines (lines ++ [line]) = (readLines lines).line line := by
  rw [readLines, List.foldl_append]
  rfl

/-- The reader carries the name that the lines give to the next event. -/
theorem name_readLines (lines : List String) : (readLines lines).name = nameBehind lines := by
  induction lines using List.reverseRecOn with
  | nil => rfl
  | append_singleton lines line ih =>
    rw [readLines_concat, nameBehind, List.reverse_append, List.reverse_singleton,
      List.singleton_append]
    rcases line_cases (readLines lines) line with
      ⟨name, hdata, hname, hread⟩ | ⟨data, -, hdata, hread⟩ | ⟨hdata, hname, hread⟩
    · rw [hread]
      simp [hdata, hname]
    · rw [hread]
      simp [hdata]
    · rw [hread, ih, nameBehind]
      simp [hdata, hname]

theorem length_readLines (lines : List String) :
    (readLines lines).events.length = lines.countP isData := by
  induction lines using List.reverseRecOn with
  | nil => rfl
  | append_singleton lines line ih =>
    rw [readLines_concat, List.countP_append, ← ih]
    rcases line_cases (readLines lines) line with
      ⟨name, hdata, -, hread⟩ | ⟨data, -, hdata, hread⟩ | ⟨hdata, -, hread⟩
    · simp [hread, hdata]
    · simp [hread, hdata]
    · simp [hread, hdata]

/-- Reading on leaves the events that there are. -/
theorem events_suffix (before after : List String) :
    (readLines before).events <:+ (readLines (before ++ after)).events := by
  induction after using List.reverseRecOn with
  | nil => simp
  | append_singleton after line ih =>
    rw [← List.append_assoc, readLines_concat]
    refine ih.trans ?_
    rcases line_cases (readLines (before ++ after)) line with
      ⟨name, -, -, hread⟩ | ⟨data, -, -, hread⟩ | ⟨-, -, hread⟩
    · simp [hread]
    · rw [hread]
      exact List.suffix_cons ..
    · simp [hread]

theorem length_ofStream (raw : String) :
    (ofStream raw).length = (Text.split '\n' raw).countP isData := by
  rw [ofStream_eq, List.length_reverse, length_readLines]

/-- The event of a data line stands behind those of the data lines before it. -/
theorem getElem?_ofStream {raw data : String} {before after : List String}
    (h : Text.split '\n' raw = before ++ ("data:" ++ data) :: after) :
    (ofStream raw)[before.countP isData]? =
      some ⟨nameBehind before, dataOf (Text.trim data)⟩ := by
  have hstep : (readLines (before ++ ["data:" ++ data])).events
      = ⟨nameBehind before, dataOf (Text.trim data)⟩ :: (readLines before).events := by
    rw [readLines_concat, Reader.line, Text.after?_append_eq_none (by decide) (by decide),
      Text.after?_append, name_readLines]
  obtain ⟨newer, hnewer⟩ := events_suffix (before ++ ["data:" ++ data]) after
  rw [List.append_assoc, List.singleton_append, ← h, hstep] at hnewer
  rw [ofStream_eq, ← hnewer, List.reverse_append, List.reverse_cons, List.append_assoc,
    List.singleton_append, ← length_readLines before, ← List.length_reverse,
    List.getElem?_append_right (Nat.le_refl _), Nat.sub_self]
  rfl

/-! ### Frames -/

/-- A frame on two lines and an empty one, each ended as its writer likes. -/
structure Frame where
  name : String
  text : String
  members : Json.Members
  /-- Which of the three lines end in a carriage return as well. -/
  returns : Bool × Bool × Bool
  ne_empty : name ≠ ""
  trimmed : Text.trim name = name
  name_line : '\n' ∉ name.toList
  text_line : '\n' ∉ text.toList
  text_value : Json.ofText? text = some (.object members)

namespace Frame

/-- The carriage return of a line that has one. -/
def mark (returns : Bool) : String :=
  if returns then "\r" else ""

def lines (f : Frame) : List String :=
  ["event: " ++ f.name ++ mark f.returns.1, "data: " ++ f.text ++ mark f.returns.2.1,
    mark f.returns.2.2]

def ended : List String → String
  | [] => ""
  | line :: rest => line ++ "\n" ++ ended rest

/-- A stream of frames. -/
def stream (frames : List Frame) : String :=
  ended (frames.flatMap lines)

def event (f : Frame) : Event :=
  ⟨f.name, f.members⟩

theorem split_ended {lines : List String} (h : ∀ line ∈ lines, '\n' ∉ line.toList) :
    Text.split '\n' (ended lines) = lines ++ [""] := by
  induction lines with
  | nil => rfl
  | cons line rest ih =>
    have hcut : (ended (line :: rest)).toList = line.toList ++ '\n' :: (ended rest).toList := by
      rw [ended, String.toList_append, String.toList_append, List.append_assoc]
      rfl
    rw [Text.split_of_toList_eq hcut, Text.split_of_not_mem (h line (by simp)),
      ih fun l hl => h l (List.mem_cons_of_mem _ hl), List.singleton_append, List.cons_append]

theorem not_mem_mark (returns : Bool) : '\n' ∉ (mark returns).toList := by
  cases returns <;> decide

theorem not_mem_lines (f : Frame) : ∀ line ∈ f.lines, '\n' ∉ line.toList := by
  have hevent : '\n' ∉ "event: ".toList := by decide
  have hdata : '\n' ∉ "data: ".toList := by decide
  have hmark := not_mem_mark
  intro line hline
  simp only [lines, List.mem_cons, List.not_mem_nil, or_false] at hline
  rcases hline with rfl | rfl | rfl
  · simp only [String.toList_append, List.mem_append, not_or]
    exact ⟨⟨hevent, f.name_line⟩, hmark _⟩
  · simp only [String.toList_append, List.mem_append, not_or]
    exact ⟨⟨hdata, f.text_line⟩, hmark _⟩
  · exact hmark _

theorem trim_padded (s : String) (returns : Bool) :
    Text.trim (" " ++ s ++ mark returns) = Text.trim s := by
  have hfront : Text.trimChars (' ' :: s.toList) = Text.trimChars s.toList :=
    Text.trimChars_cons (by decide) _
  have hchars : Text.trimChars (" " ++ s ++ mark returns).toList = Text.trimChars s.toList := by
    rw [String.toList_append, String.toList_append]
    cases returns with
    | true => exact (Text.trimChars_concat (by decide) _).trans hfront
    | false => exact (congrArg Text.trimChars (List.append_nil _)).trans hfront
  rw [Text.trim, hchars, Text.trim]

/-- The three lines of a frame add its event, and the next frame starts without a name. -/
theorem foldl_lines (f : Frame) (r : Reader) :
    f.lines.foldl Reader.line r = ⟨unnamed, f.event :: r.events⟩ := by
  have hevent : r.line ("event: " ++ f.name ++ mark f.returns.1) = ⟨f.name, r.events⟩ := by
    have hsplit : "event: " ++ f.name ++ mark f.returns.1
        = "event:" ++ (" " ++ f.name ++ mark f.returns.1) := by
      rw [← String.append_assoc, ← String.append_assoc]
      rfl
    rw [Reader.line, hsplit, Text.after?_append]
    dsimp only
    rw [Text.nonBlank?, trim_padded, f.trimmed, if_neg f.ne_empty, Option.getD_some]
  have hdata (r : Reader) : r.line ("data: " ++ f.text ++ mark f.returns.2.1)
      = ⟨unnamed, ⟨r.name, f.members⟩ :: r.events⟩ := by
    have hsplit : "data: " ++ f.text ++ mark f.returns.2.1
        = "data:" ++ (" " ++ f.text ++ mark f.returns.2.1) := by
      rw [← String.append_assoc, ← String.append_assoc]
      rfl
    have htext : Json.ofText? (Text.trim f.text) = some (.object f.members) :=
      Json.ofText?_trim f.text_value
    rw [Reader.line, hsplit, Text.after?_append_eq_none (by decide) (by decide),
      Text.after?_append]
    dsimp only
    rw [trim_padded, dataOf, htext]
  have hmark (r : Reader) : r.line (mark f.returns.2.2) = r := by
    cases f.returns.2.2 <;> rfl
  rw [lines, List.foldl_cons, hevent, List.foldl_cons, hdata, List.foldl_cons, hmark,
    List.foldl_nil]
  rfl

theorem foldl_flatMap_lines (frames : List Frame) (events : List Event) :
    (frames.flatMap lines).foldl Reader.line ⟨unnamed, events⟩
      = ⟨unnamed, (frames.map event).reverse ++ events⟩ := by
  induction frames generalizing events with
  | nil => rfl
  | cons f rest ih =>
    rw [List.flatMap_cons, List.foldl_append, foldl_lines, ih, List.map_cons, List.reverse_cons,
      List.append_assoc, List.singleton_append]

theorem ofStream_stream (frames : List Frame) :
    ofStream (stream frames) = frames.map event := by
  have hfree : ∀ line ∈ frames.flatMap lines, '\n' ∉ line.toList := by
    intro line hline
    obtain ⟨f, -, hmem⟩ := List.mem_flatMap.mp hline
    exact f.not_mem_lines line hmem
  rw [ofStream_eq, stream, split_ended hfree, readLines, List.foldl_append, foldl_flatMap_lines,
    List.append_nil]
  exact List.reverse_reverse _

end Frame

/-- A stream of frames is read as the events of the frames; and of any text, every data line is one
event, with its data and the name of the last event line behind the data line before it. -/
theorem ofStream_spec :
    (∀ frames : List Frame, ofStream (Frame.stream frames) = frames.map Frame.event) ∧
    ∀ raw : String,
      (ofStream raw).length = (Text.split '\n' raw).countP isData ∧
      ∀ before data after, Text.split '\n' raw = before ++ ("data:" ++ data) :: after →
        (ofStream raw)[before.countP isData]? =
          some ⟨nameBehind before, dataOf (Text.trim data)⟩ :=
  ⟨Frame.ofStream_stream,
    fun raw => ⟨length_ofStream raw, fun _ _ _ => getElem?_ofStream⟩⟩

/-! ### A frame with carriage returns -/

/-- Whether a value is the object with one text under `action`. -/
def isAction (action : String) : Json → Bool
  | .object [(key, .text s)] => key == "action" && s == action
  | _ => false

theorem eq_of_isAction {action : String} {v : Json} (h : isAction action v = true) :
    v = .object [("action", .text action)] := by
  unfold isAction at h
  split at h
  · rw [Bool.and_eq_true, beq_iff_eq, beq_iff_eq] at h
    rw [h.1, h.2]
  · cases h

theorem ofText?_run :
    Json.ofText? " \x7b\"action\":\"run\"\x7d " = some (.object [("action", .text "run")]) := by
  have hany : (Json.ofText? " \x7b\"action\":\"run\"\x7d ").any (isAction "run") = true := by
    decide +kernel
  obtain ⟨v, hv, hrun⟩ := (Option.any_eq_true _ _).mp hany
  rw [hv, eq_of_isAction hrun]

def auditFrame : Frame where
  name := "audit"
  text := " \x7b\"action\":\"run\"\x7d "
  members := [("action", .text "run")]
  returns := (true, false, true)
  ne_empty := by decide
  trimmed := by decide
  name_line := by decide
  text_line := by decide
  text_value := ofText?_run

/-- Two frames, and a data line behind an event line without a name. -/
theorem ofStream_auditFrame :
    ofStream (Frame.stream [auditFrame, auditFrame])
      = [⟨"audit", [("action", .text "run")]⟩, ⟨"audit", [("action", .text "run")]⟩] ∧
    (ofStream "event: audit\nevent:\ndata: 5")[0]? = some ⟨unnamed, dataOf "5"⟩ := by
  have hsplit : Text.split '\n' "event: audit\nevent:\ndata: 5"
      = ["event: audit", "event:"] ++ ("data:" ++ " 5") :: [] := by decide
  exact ⟨ofStream_spec.1 [auditFrame, auditFrame], (ofStream_spec.2 _).2 _ " 5" [] hsplit⟩

end Event

end Gatehouse
