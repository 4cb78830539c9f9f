import TestScribe.Generation.StreamEvent
import TestScribe.Proofs.Json.Writing

/-!
# Streams of events as they are read

A reader of a stream of events takes its lines, which may end in either kind of line break or in
both, up to a blank one at a time.  Of such a frame it takes the event and the data, unless the
frame is a comment (`readEvents?`).  It reads what was written (`event_stream_reads_back`), because
no line break can stand in the data.
-/

namespace TestScribe.Generation

/-! ## A reader -/

/-- The lines of a stream, each ended by a line break; a line without its end is none. -/
def endedLines : List Char → List (List Char)
  | [] => []
  | '\r' :: '\n' :: r => [] :: endedLines r
  | c :: r =>
    if c = '\n' ∨ c = '\r' then [] :: endedLines r
    else match endedLines r with
      | [] => []
      | l :: ls => (c :: l) :: ls

/-- The frames that lines make up, each ended by a blank line; a frame without its end is none. -/
def framesOf : List (List Char) → List (List (List Char))
  | [] => []
  | [] :: ls => [] :: framesOf ls
  | l :: ls =>
    match framesOf ls with
    | [] => []
    | f :: fs => (l :: f) :: fs

/-- Whether a frame tells nothing: it is empty, or it begins with a colon. -/
def isSilent : List (List Char) → Bool
  | [] => true
  | (':' :: _) :: _ => true
  | _ => false

/-- The value of the field `name` on a line, without the blank in front of it. -/
def fieldOn? (name line : List Char) : Option (List Char) :=
  if (name ++ [':']).isPrefixOf line then
    match line.drop (name.length + 1) with
    | ' ' :: value => some value
    | value => some value
  else none

/-- The event and the data of a frame; the data may take several lines. -/
def eventIn? (frame : List (List Char)) : Option (String × Json) := do
  let name ← (frame.filterMap (fieldOn? "event".toList)).getLast?
  let data := List.intercalate ['\n'] (frame.filterMap (fieldOn? "data".toList))
  let v ← Json.read? (String.ofList data)
  return (String.ofList name, v)

/-- The events of a stream, if each of them can be read. -/
def readEvents? (stream : String) : Option (List (String × Json)) :=
  ((framesOf (endedLines stream.toList)).filter fun f => !isSilent f).mapM eventIn?

/-! ## Lines and frames -/

/-- A text without a line break. -/
def IsLine (l : List Char) : Prop :=
  ∀ c ∈ l, c ≠ '\n' ∧ c ≠ '\r'

/-- By induction on the line, whose characters are none of a line break. -/
theorem endedLines_append {l : List Char} (h : IsLine l) (r : List Char) :
    endedLines (l ++ '\n' :: r) = l :: endedLines r := by
  induction l with
  | nil => rfl
  | cons c l ih =>
    obtain ⟨hc, hl⟩ := List.forall_mem_cons.1 h
    rw [List.cons_append, endedLines.eq_3 _ _ (fun _ hreturn _ => hc.2 hreturn),
      if_neg (by simp [hc]), ih hl]

theorem endedLines_flatMap {ls : List (List Char)} (h : ∀ l ∈ ls, IsLine l) (r : List Char) :
    endedLines (ls.flatMap (· ++ ['\n']) ++ r) = ls ++ endedLines r := by
  induction ls with
  | nil => rfl
  | cons l ls ih =>
    obtain ⟨hl, hls⟩ := List.forall_mem_cons.1 h
    rw [List.flatMap_cons, List.append_assoc, List.append_assoc, List.singleton_append,
      endedLines_append hl, ih hls]
    rfl

/-- By induction on the frame, none of whose lines is blank. -/
theorem framesOf_append {f : List (List Char)} (h : ∀ l ∈ f, l ≠ []) (ls : List (List Char)) :
    framesOf (f ++ [] :: ls) = f :: framesOf ls := by
  induction f with
  | nil => rfl
  | cons l f ih =>
    obtain ⟨hl, hf⟩ := List.forall_mem_cons.1 h
    rw [List.cons_append, framesOf.eq_3 _ _ hl, ih hf]

/-! ## Lines of an event -/

namespace StreamEvent

/-- The line of an event that says what it tells. -/
def nameLine (e : StreamEvent) : List Char :=
  "event: ".toList ++ e.event.text.toList

/-- The data of an event as they stand in a stream. -/
def payload (e : StreamEvent) : List Char :=
  Json.chars .spaced 0 (.obj e.data)

/-- The line of an event that holds its data. -/
def dataLine (e : StreamEvent) : List Char :=
  "data: ".toList ++ e.payload

/-- The lines of an event in a stream, without the blank one. -/
def lines (e : StreamEvent) : List (List Char) :=
  if e.event = .heartbeat then [":heartbeat".toList] else [e.nameLine, e.dataLine]

variable {e : StreamEvent}

theorem lines_of_heartbeat (h : e.event = .heartbeat) : e.lines = [":heartbeat".toList] :=
  if_pos h

theorem lines_of_ne (h : e.event ≠ .heartbeat) : e.lines = [e.nameLine, e.dataLine] :=
  if_neg h

/-- An event is written as its lines, each with its end, and a blank line. -/
theorem frame_eq (e : StreamEvent) : e.frame = e.lines.flatMap (· ++ ['\n']) ++ ['\n'] := by
  unfold frame lines nameLine dataLine payload
  cases e.event with
  | heartbeat => rfl
  | _ => simp

theorem isLine_nameLine (e : StreamEvent) : IsLine e.nameLine := by
  unfold nameLine IsLine
  cases e.event <;> decide

theorem isPrintable_of_mem_payload (h : Json.IsIntegral (.obj e.data)) :
    ∀ c ∈ e.payload, Json.IsPrintable c :=
  Json.isPrintable_of_mem_chars Json.isOneLine_spaced h 0

theorem isLine_dataLine (h : Json.IsIntegral (.obj e.data)) : IsLine e.dataLine := by
  intro c hc
  rcases List.mem_append.1 hc with hc | hc
  · exact (by decide : ∀ c ∈ "data: ".toList, c ≠ '\n' ∧ c ≠ '\r') c hc
  · have hprintable := isPrintable_of_mem_payload h c hc
    constructor
    · rintro rfl
      exact absurd hprintable (by decide)
    · rintro rfl
      exact absurd hprintable (by decide)

theorem isLine_of_mem_lines (h : Json.IsIntegral (.obj e.data)) : ∀ l ∈ e.lines, IsLine l := by
  by_cases hevent : e.event = .heartbeat
  · rw [lines_of_heartbeat hevent, List.forall_mem_singleton]
    unfold IsLine
    decide
  · rw [lines_of_ne hevent, List.forall_mem_cons, List.forall_mem_singleton]
    exact ⟨isLine_nameLine e, isLine_dataLine h⟩

theorem ne_nil_of_mem_lines (e : StreamEvent) : ∀ l ∈ e.lines, l ≠ [] := by
  by_cases hevent : e.event = .heartbeat
  · rw [lines_of_heartbeat hevent]
    decide
  · rw [lines_of_ne hevent, List.forall_mem_cons, List.forall_mem_singleton]
    exact ⟨List.cons_ne_nil _ _, List.cons_ne_nil _ _⟩

/-- Only a heartbeat is skipped. -/
theorem isSilent_lines (e : StreamEvent) : isSilent e.lines = decide (e.event = .heartbeat) := by
  by_cases hevent : e.event = .heartbeat
  · rw [lines_of_heartbeat hevent, hevent]
    rfl
  · rw [lines_of_ne hevent, decide_eq_false hevent]
    rfl

/-- What is read in the frame of an event is the event. -/
theorem eventIn?_lines (h : Json.IsIntegral (.obj e.data)) (hevent : e.event ≠ .heartbeat) :
    eventIn? e.lines = some (e.event.text, .obj e.data) := by
  have hname : fieldOn? "event".toList e.nameLine = some e.event.text.toList := rfl
  have hnameless : fieldOn? "event".toList e.dataLine = none := rfl
  have hdata : fieldOn? "data".toList e.dataLine = some e.payload := rfl
  have hdataless : fieldOn? "data".toList e.nameLine = none := rfl
  have hread : Json.read? (String.ofList e.payload) = some (.obj e.data) :=
    Json.read?_render Json.isProper_spaced h
  have hnames : [e.nameLine, e.dataLine].filterMap (fieldOn? "event".toList) =
      [e.event.text.toList] := by
    rw [List.filterMap_cons_some hname, List.filterMap_cons_none hnameless, List.filterMap_nil]
  have hvalues : [e.nameLine, e.dataLine].filterMap (fieldOn? "data".toList) = [e.payload] := by
    rw [List.filterMap_cons_none hdataless, List.filterMap_cons_some hdata, List.filterMap_nil]
  rw [lines_of_ne hevent]
  unfold eventIn?
  rw [hnames, hvalues]
  simp [hread]

end StreamEvent

/-! ## Reading what was written -/

/-- By induction on the events: the frame of the first one is cut off the stream. -/
theorem framesOf_stream {es : List StreamEvent} (h : ∀ e ∈ es, Json.IsIntegral (.obj e.data)) :
    framesOf (endedLines (es.flatMap StreamEvent.frame)) = es.map StreamEvent.lines := by
  induction es with
  | nil => rfl
  | cons e es ih =>
    obtain ⟨he, hes⟩ := List.forall_mem_cons.1 h
    rw [List.flatMap_cons, e.frame_eq, List.append_assoc,
      endedLines_flatMap (e.isLine_of_mem_lines he)]
    have hblank : endedLines (['\n'] ++ es.flatMap StreamEvent.frame) =
        [] :: endedLines (es.flatMap StreamEvent.frame) := rfl
    rw [hblank, framesOf_append e.ne_nil_of_mem_lines, ih hes, List.map_cons]

theorem toList_join_render (es : List StreamEvent) :
    (String.join (es.map StreamEvent.render)).toList = es.flatMap StreamEvent.frame := by
  induction es with
  | nil => rfl
  | cons e es ih =>
    rw [List.map_cons, String.join_cons, String.toList_append, ih, List.flatMap_cons]
    exact congrArg (· ++ _) String.toList_ofList

theorem mapM_eq_some {α β : Type} {f : α → Option β} {g : α → β} {xs : List α}
    (h : ∀ x ∈ xs, f x = some (g x)) : xs.mapM f = some (xs.map g) := by
  induction xs with
  | nil => rfl
  | cons x xs ih =>
    obtain ⟨hx, hxs⟩ := List.forall_mem_cons.1 h
    rw [List.mapM_cons, hx, ih hxs]
    rfl

/-- A reader of a stream reads the events that were written to it, without the heartbeats, if their
data hold no other numbers than integers.  The data stand on one line of printable ASCII. -/
theorem event_stream_reads_back (es : List StreamEvent)
    (h : ∀ e ∈ es, Json.IsIntegral (.obj e.data)) :
    readEvents? (String.join (es.map StreamEvent.render)) =
      some ((es.filter fun e => e.event ≠ .heartbeat).map fun e => (e.event.text, .obj e.data)) ∧
    ∀ e ∈ es, e.event ≠ .heartbeat →
      e.render = "event: " ++ e.event.text ++ "\ndata: " ++ Json.render .spaced (.obj e.data) ++
        "\n\n" ∧
      ∀ c ∈ (Json.render .spaced (.obj e.data)).toList, Json.IsPrintable c := by
  constructor
  · have hspoken : ((es.map StreamEvent.lines).filter fun f => !isSilent f) =
        (es.filter fun e => e.event ≠ .heartbeat).map StreamEvent.lines := by
      rw [List.filter_map]
      congr 2
      funext e
      simp [StreamEvent.isSilent_lines]
    unfold readEvents?
    rw [toList_join_render, framesOf_stream h, hspoken, List.mapM_map]
    apply mapM_eq_some
    intro e he
    obtain ⟨hmem, hevent⟩ := List.mem_filter.1 he
    exact e.eventIn?_lines (h e hmem) (of_decide_eq_true hevent)
  · intro e he hevent
    constructor
    · rw [← String.toList_inj, StreamEvent.render, String.toList_ofList, StreamEvent.frame]
      split
      · next hheartbeat => exact absurd hheartbeat hevent
      · simp [Json.render]
    · rw [Json.render, String.toList_ofList]
      exact e.isPrintable_of_mem_payload (h e he)

/-- Events with nested data, and characters that cannot stand in a text as they are. -/
def unrulyEvents : List StreamEvent :=
  [{ event := .start
     data := [("sizes", .arr [.int 0, .int (-12), .obj [("deep", .arr [])]]),
       ("open", .bool true)] },
    { event := .heartbeat, data := [] },
    { event := .token, data := [("token", .str "\"\\\r\n\u2028\x01 😀")] }]

theorem event_stream_reads_back_unruly :
    (∀ e ∈ unrulyEvents, Json.IsIntegral (.obj e.data)) ∧
    readEvents? (String.join (unrulyEvents.map StreamEvent.render)) =
      some [("start", .obj [("sizes", .arr [.int 0, .int (-12), .obj [("deep", .arr [])]]),
          ("open", .bool true)]),
        ("token", .obj [("token", .str "\"\\\r\n\u2028\x01 😀")])] := by
  have hdeep : Json.IsIntegral (.obj [("deep", .arr [])]) :=
    .obj (by decide) (by simp [Json.IsIntegral.arr])
  have hsizes : Json.IsIntegral (.arr [.int 0, .int (-12), .obj [("deep", .arr [])]]) :=
    .arr (by simp [Json.IsIntegral.int, hdeep])
  have hintegral : ∀ e ∈ unrulyEvents, Json.IsIntegral (.obj e.data) := by
    simp only [unrulyEvents, List.forall_mem_cons]
    exact ⟨.obj (by decide) (by simp [hsizes, Json.IsIntegral.bool]), .obj (by decide) (by simp),
      .obj (by decide) (by simp [Json.IsIntegral.str]), by simp⟩
  exact ⟨hintegral, (event_stream_reads_back unrulyEvents hintegral).1⟩

end TestScribe.Generation
