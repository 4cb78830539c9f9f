import Mathlib.Data.List.TakeWhile
import TestScribe.Generation.Generator
import TestScribe.Proofs.Generation.Asking

/-!
# The grammar of a stream of events

A stream of events should begin with a start, go on with tokens and end with one last event, a mark
of the end or an error (`WellFormed`).  Lines that follow the mark of the end are read on, so it
does just if no reply holds text or an error, or breaks off, after the mark
(`events_wellFormed_iff`).
-/

namespace TestScribe.Generation

open Transport TestScribe.Flow Component

/-! ## The grammar -/

namespace StreamEvent

/-- Whether an event is to be the last of its stream. -/
def isTerminal (e : StreamEvent) : Prop :=
  e.event = .done ∨ e.event = .error

/-- A start, any number of tokens, and one last event. -/
def WellFormed (es : List StreamEvent) : Prop :=
  ∃ start tokens last, es = start :: tokens ++ [last] ∧ start.event = .start ∧
    (∀ t ∈ tokens, t.event = .token) ∧ last.isTerminal

theorem not_isTerminal_of_token {e : StreamEvent} (h : e.event = .token) : ¬ e.isTerminal := by
  simp [isTerminal, h]

/-- Nothing follows a terminal event of a well-formed stream. -/
theorem WellFormed.eq_nil {start : StreamEvent} {es es' : List StreamEvent}
    (h : WellFormed (start :: es ++ es')) (hlast : ∃ e ∈ es, e.isTerminal) : es' = [] := by
  obtain ⟨start', tokens, last, heq, -, htokens, -⟩ := h
  obtain ⟨e, he, hterminal⟩ := hlast
  by_cases hne : es' = []
  · exact hne
  exfalso
  have hbody : es ++ es' = tokens ++ [last] := (List.cons.inj heq).2
  have hmem : e ∈ (es ++ es').dropLast := by
    rw [List.dropLast_append_of_ne_nil hne]
    exact List.mem_append_left _ he
  rw [hbody, List.dropLast_concat] at hmem
  exact not_isTerminal_of_token (htokens e hmem) hterminal

/-- What the events of a well-formed stream are. -/
theorem WellFormed.map_event {es : List StreamEvent} (h : WellFormed es) :
    ∃ n k, es.map event = .start :: List.replicate n .token ++ [k] := by
  obtain ⟨start, tokens, last, rfl, hstart, htokens, -⟩ := h
  refine ⟨tokens.length, last.event, ?_⟩
  rw [List.map_append, List.map_cons, hstart, List.map_singleton]
  congr 2
  exact List.eq_replicate_iff.2 ⟨List.length_map _, List.forall_mem_map.2 htokens⟩

end StreamEvent

/-! ## Replies in order -/

/-- After a line that marks the end, a reply holds no text and no error, and does not break off. -/
def Orderly (r : Reply) : Prop :=
  ∀ a, r = .answer a → isError a.status = false → ∀ before l after, a.lines = before ++ l :: after →
    (∀ x ∈ before ++ [l], errorOn? x = none) → isMark l = true →
    a.ending = .complete ∧ ∀ x ∈ after, errorOn? x = none ∧ pieceOn? x = none

/-! ## Deliveries before and after the mark -/

/-- Lines among which no first mark of the end stands deliver only their pieces of text. -/
theorem foldl_deliver_eq {given : List Chunk} {ls : List (List Char)}
    (h : ∀ l ∈ ls, isMark l = true → isMarked given = true) :
    ls.foldl deliver given = given ++ (ls.filterMap pieceOn?).map .piece := by
  induction ls generalizing given with
  | nil => exact (List.append_nil given).symm
  | cons l ls ih =>
    obtain ⟨hl, hrest⟩ := List.forall_mem_cons.1 h
    have hmark : (isMark l && !isMarked given) = false := by
      cases hline : isMark l with
      | false => rfl
      | true => rw [hl hline]; rfl
    have hnext : isMarked (deliver given l) = isMarked given := by
      rw [isMarked_deliver]
      cases hgiven : isMarked given with
      | true => rfl
      | false => simpa [hgiven] using hmark
    rw [List.foldl_cons, ih (by rwa [hnext]), deliver, hmark]
    cases hpiece : pieceOn? l <;> simp [hpiece]

theorem heard_append {ls : List (List Char)} (h : ∀ l ∈ ls, errorOn? l = none)
    (ls' : List (List Char)) : heard (ls ++ ls') = ls ++ heard ls' :=
  List.takeWhile_append_of_pos fun l hl => by simp [h l hl]

theorem heard_eq_self {ls : List (List Char)} (h : ∀ l ∈ ls, errorOn? l = none) :
    heard ls = ls := by
  simpa [heard] using heard_append h []

theorem errorOn?_of_mem_heard (ls : List (List Char)) {l : List Char} (h : l ∈ heard ls) :
    errorOn? l = none :=
  Option.isNone_iff_eq_none.1 (List.mem_takeWhile_imp (p := fun l => (errorOn? l).isNone) h)

theorem isWhole_iff {a : Answer} :
    isWhole a = true ↔ a.ending = .complete ∧ ∀ l ∈ a.lines, errorOn? l = none := by
  unfold isWhole
  cases a.ending <;> simp

theorem isMarked_foldl_of_mark (before : List (List Char)) {l : List Char} (h : isMark l = true) :
    isMarked ((before ++ [l]).foldl deliver []) = true := by
  rw [List.foldl_append, List.foldl_cons, List.foldl_nil, isMarked_deliver, h, Bool.or_true]

/-- What an answer delivers that marks the end with a line: after the mark, pieces of text only. -/
theorem deliveryOfLines_of_mark {a : Answer} {before after : List (List Char)} {l : List Char}
    (hheard : heard a.lines = before ++ l :: after) (hmark : isMark l = true) :
    deliveryOfLines a =
      (before ++ [l]).foldl deliver [] ++ (after.filterMap pieceOn?).map .piece := by
  have hmarked := isMarked_foldl_of_mark before hmark
  have hgiven : (heard a.lines).foldl deliver [] =
      (before ++ [l]).foldl deliver [] ++ (after.filterMap pieceOn?).map .piece := by
    rw [hheard, List.append_cons, List.foldl_append]
    exact foldl_deliver_eq fun _ _ _ => hmarked
  simp only [deliveryOfLines, hgiven, isMarked_append, hmarked, Bool.true_or, Bool.not_true,
    Bool.and_false, Bool.false_eq_true, if_false, List.append_nil]

/-- What a reply delivers that holds a mark of the end before any error. -/
theorem delivery_of_mark {a : Answer} (hstatus : isError a.status = false)
    {before after : List (List Char)} {l : List Char} (hlines : a.lines = before ++ l :: after)
    (herrors : ∀ x ∈ before ++ [l], errorOn? x = none) (hmark : isMark l = true) :
    delivery (.answer a) =
      (before ++ [l]).foldl deliver [] ++ ((heard after).filterMap pieceOn?).map .piece := by
  have hheard : heard a.lines = before ++ l :: heard after := by
    rw [hlines, List.append_cons, heard_append herrors, ← List.append_cons]
  rw [delivery, hstatus]
  exact deliveryOfLines_of_mark hheard hmark

theorem exists_first_mark {ls : List (List Char)} (h : ∃ l ∈ ls, isMark l = true) :
    ∃ before l after, ls = before ++ l :: after ∧ isMark l = true ∧
      ∀ x ∈ before, isMark x = false := by
  obtain ⟨l, hl⟩ := Option.isSome_iff_exists.1 (List.find?_isSome.2 h)
  obtain ⟨hmark, before, after, hls, hbefore⟩ := List.find?_eq_some_iff_append.1 hl
  exact ⟨before, l, after, hls, hmark, fun x hx => by simpa using hbefore x hx⟩

/-- Up to the first line that marks the end, the pieces of text are delivered and then the mark. -/
theorem foldl_of_first_mark {before : List (List Char)} {l : List Char} (hmark : isMark l = true)
    (hbefore : ∀ x ∈ before, isMark x = false) :
    (before ++ [l]).foldl deliver [] =
      ((before ++ [l]).filterMap pieceOn?).map .piece ++ [.last] := by
  have hgiven : before.foldl deliver [] = (before.filterMap pieceOn?).map .piece :=
    foldl_deliver_eq fun x hx hx' => by
      rw [hbefore x hx] at hx'
      cases hx'
  rw [List.foldl_append, hgiven, List.foldl_cons, List.foldl_nil, deliver, hmark, isMarked_pieces]
  cases hpiece : pieceOn? l <;> simp [hpiece]

/-! ## Events of chunks -/

section Events

variable (a : Analysis)

theorem chunkEvent?_piece {v : Json} (h : v.truthy = true) :
    chunkEvent? a (.piece v) = some { event := .token, data := [("token", v)] } := by
  simp [chunkEvent?, Chunk.piece, h]

/-- The pieces of text on lines are tokens, one each. -/
theorem filterMap_pieces (ls : List (List Char)) :
    ((ls.filterMap pieceOn?).map .piece).filterMap (chunkEvent? a) =
      (ls.filterMap pieceOn?).map fun v => { event := .token, data := [("token", v)] } := by
  induction ls with
  | nil => rfl
  | cons l ls ih =>
    cases hpiece : pieceOn? l with
    | none =>
      rw [List.filterMap_cons_none hpiece]
      exact ih
    | some v =>
      rw [List.filterMap_cons_some hpiece, List.map_cons, List.map_cons,
        List.filterMap_cons_some (chunkEvent?_piece a (truthy_of_pieceOn? hpiece)), ih]

/-- A mark of the end among chunks is a terminal event. -/
theorem exists_isTerminal {cs : List Chunk} (h : isMarked cs = true) :
    ∃ e ∈ cs.filterMap (chunkEvent? a), e.isTerminal := by
  obtain ⟨c, hc, hdone⟩ := List.any_eq_true.1 h
  refine ⟨{ event := .done, data := [("component", .str a.name)] },
    List.mem_filterMap.2 ⟨c, hc, ?_⟩, .inl rfl⟩
  simp [chunkEvent?, hdone]

/-- Pieces of text and a terminal event are well-formed behind a start. -/
theorem wellFormed_of_pieces {start last : StreamEvent} (hstart : start.event = .start)
    (ls : List (List Char)) (hlast : last.isTerminal) :
    StreamEvent.WellFormed
      (start :: ((ls.filterMap pieceOn?).map .piece).filterMap (chunkEvent? a) ++ [last]) := by
  refine ⟨start, _, last, rfl, hstart, fun t ht => ?_, hlast⟩
  rw [filterMap_pieces] at ht
  obtain ⟨v, -, rfl⟩ := List.mem_map.1 ht
  rfl

/-! ## The grammar of a reply -/

/-- The events that follow the chunks of a reply: none after an attempt that is done, and one error
after any other. -/
structure Closes (r : Reply) (last : List StreamEvent) : Prop where
  done : (attemptOf Backend.textAction r).finish = .done → last = []
  failed : (attemptOf Backend.textAction r).finish ≠ .done → ∃ e, last = [e] ∧ e.event = .error

variable {a} {start : StreamEvent} {r : Reply} {last : List StreamEvent}

/-- A well-formed stream is made of a reply that is orderly. -/
theorem orderly_of_wellFormed (hlast : Closes r last)
    (h : StreamEvent.WellFormed (start :: (delivery r).filterMap (chunkEvent? a) ++ last)) :
    Orderly r := by
  rintro answer rfl hstatus before l after hlines herrors hmark
  have hmarked := isMarked_foldl_of_mark before hmark
  rw [delivery_of_mark hstatus hlines herrors hmark, List.filterMap_append, List.cons_append,
    List.append_assoc, ← List.cons_append] at h
  -- the mark is terminal, so neither a token nor an error event comes behind it
  obtain ⟨hpieces, hnil⟩ := List.append_eq_nil_iff.1 (h.eq_nil (exists_isTerminal a hmarked))
  have hfinish : (attemptOf Backend.textAction (.answer answer)).finish = .done := by
    by_cases hdone : (attemptOf Backend.textAction (.answer answer)).finish = .done
    · exact hdone
    · obtain ⟨e, he, -⟩ := hlast.failed hdone
      rw [hnil] at he
      cases he
  obtain ⟨answer', hanswer, -, hwhole⟩ := finish_eq_done_iff.1 hfinish
  obtain rfl := Reply.answer.inj hanswer
  obtain ⟨hcomplete, hall⟩ := isWhole_iff.1 hwhole
  have hafter : ∀ x ∈ after, errorOn? x = none := fun x hx => hall x (by simp [hlines, hx])
  rw [filterMap_pieces, List.map_eq_nil_iff, heard_eq_self hafter,
    List.filterMap_eq_nil_iff] at hpieces
  exact ⟨hcomplete, fun x hx => ⟨hafter x hx, hpieces x hx⟩⟩

theorem wellFormed_of_whole {answer : Answer} (hstart : start.event = .start)
    (hlast : Closes (.answer answer) last) (hstatus : isError answer.status = false)
    (hwhole : isWhole answer = true) (ls : List (List Char))
    (hdelivery : deliveryOfLines answer = (ls.filterMap pieceOn?).map .piece ++ [.last]) :
    StreamEvent.WellFormed
      (start :: (delivery (.answer answer)).filterMap (chunkEvent? a) ++ last) := by
  have hnil := hlast.done (finish_eq_done_iff.2 ⟨answer, rfl, hstatus, hwhole⟩)
  rw [delivery, hstatus, if_neg Bool.false_ne_true, hdelivery, hnil, List.append_nil,
    List.filterMap_append, ← List.cons_append]
  exact wellFormed_of_pieces a hstart ls (.inl rfl)

theorem finish_ne_done {answer : Answer}
    (h : isError answer.status = true ∨ isWhole answer = false) :
    (attemptOf Backend.textAction (.answer answer)).finish ≠ .done := by
  rw [Ne, finish_eq_done_iff]
  rintro ⟨answer', hanswer, hstatus, hwhole⟩
  obtain rfl := Reply.answer.inj hanswer
  rcases h with h | h
  · rw [hstatus] at h
    cases h
  · rw [hwhole] at h
    cases h

/-- The stream of an orderly answer that marks the end with a line is well-formed. -/
theorem wellFormed_of_mark {answer : Answer} (hstart : start.event = .start)
    (hlast : Closes (.answer answer) last) (h : Orderly (.answer answer))
    (hstatus : isError answer.status = false)
    (hmark : ∃ l ∈ heard answer.lines, isMark l = true) :
    StreamEvent.WellFormed
      (start :: (delivery (.answer answer)).filterMap (chunkEvent? a) ++ last) := by
  -- the first mark splits the lines, and nothing that counts comes behind it
  obtain ⟨before, l, after, hheard, hlmark, hbefore⟩ := exists_first_mark hmark
  have hlines : answer.lines =
      before ++ l :: (after ++ answer.lines.dropWhile fun l => (errorOn? l).isNone) := by
    rw [← List.cons_append, ← List.append_assoc, ← hheard]
    exact List.takeWhile_append_dropWhile.symm
  have herrors : ∀ x ∈ before ++ [l], errorOn? x = none := by
    intro x hx
    refine errorOn?_of_mem_heard answer.lines ?_
    rw [hheard, List.append_cons]
    exact List.mem_append_left _ hx
  obtain ⟨hcomplete, hrest⟩ := h answer rfl hstatus before l _ hlines herrors hlmark
  have hwhole : isWhole answer = true := by
    refine isWhole_iff.2 ⟨hcomplete, fun x hx => ?_⟩
    rw [hlines, List.append_cons] at hx
    rcases List.mem_append.1 hx with hx | hx
    · exact herrors x hx
    · exact (hrest x hx).1
  have hafter : after.filterMap pieceOn? = [] :=
    List.filterMap_eq_nil_iff.2 fun x hx => (hrest x (List.mem_append_left _ hx)).2
  refine wellFormed_of_whole hstart hlast hstatus hwhole (before ++ [l]) ?_
  rw [deliveryOfLines_of_mark hheard hlmark, hafter, foldl_of_first_mark hlmark hbefore]
  exact List.append_nil _

/-- The stream of an answer without such a line is well-formed: the end is marked when the answer is
complete, and there is an error event if it is not. -/
theorem wellFormed_of_unmarked {answer : Answer} (hstart : start.event = .start)
    (hlast : Closes (.answer answer) last) (hstatus : isError answer.status = false)
    (hmark : ¬ ∃ l ∈ heard answer.lines, isMark l = true) :
    StreamEvent.WellFormed
      (start :: (delivery (.answer answer)).filterMap (chunkEvent? a) ++ last) := by
  have hgiven : (heard answer.lines).foldl deliver [] =
      ((heard answer.lines).filterMap pieceOn?).map .piece :=
    foldl_deliver_eq fun l hl hl' => absurd ⟨l, hl, hl'⟩ hmark
  cases hwhole : isWhole answer with
  | true =>
    refine wellFormed_of_whole hstart hlast hstatus hwhole (heard answer.lines) ?_
    simp [deliveryOfLines, hgiven, hwhole]
  | false =>
    obtain ⟨e, rfl, he⟩ := hlast.failed (finish_ne_done (.inr hwhole))
    have hdelivery : delivery (.answer answer) =
        ((heard answer.lines).filterMap pieceOn?).map .piece := by
      simp [delivery, hstatus, deliveryOfLines, hgiven, hwhole]
    rw [hdelivery]
    exact wellFormed_of_pieces a hstart (heard answer.lines) (.inr he)

/-- The stream of an orderly reply is well-formed. -/
theorem wellFormed_of_orderly (hstart : start.event = .start) (hlast : Closes r last)
    (h : Orderly r) :
    StreamEvent.WellFormed (start :: (delivery r).filterMap (chunkEvent? a) ++ last) := by
  match r with
  | .mishap m =>
    obtain ⟨e, rfl, he⟩ := hlast.failed (by simp [attemptOf, Attempt.without])
    exact wellFormed_of_pieces a hstart [] (.inr he)
  | .answer answer =>
    by_cases hstatus : isError answer.status = true
    · obtain ⟨e, rfl, he⟩ := hlast.failed (finish_ne_done (.inl hstatus))
      rw [delivery, if_pos hstatus]
      exact wellFormed_of_pieces a hstart [] (.inr he)
    · rw [Bool.not_eq_true] at hstatus
      by_cases hmark : ∃ l ∈ heard answer.lines, isMark l = true
      · exact wellFormed_of_mark hstart hlast h hstatus hmark
      · exact wellFormed_of_unmarked hstart hlast hstatus hmark

end Events

/-! ## Streams of events -/

/-- The events for the end of a generation. -/
def closingEvents : Except Problem Backend.Summary → List StreamEvent
  | .ok _ => []
  | .error (.failure f) => [errorEvent f.message f.cause.code]
  | .error (.defect .endless) => []
  | .error (.defect d) => [errorEvent (.str d.message) Cause.internal.code]

theorem closingEvents_of_error {p : Problem} (h : p ≠ .defect .endless) :
    ∃ e, closingEvents (.error p) = [e] ∧ e.event = .error := by
  match p with
  | .failure f => exact ⟨_, rfl, rfl⟩
  | .defect d =>
    cases d with
    | endless => exact absurd rfl h
    | _ => exact ⟨_, rfl, rfl⟩

theorem run_closing? (correlation : Json) (r : Except Problem Backend.Summary) (b : Backend) :
    ∃ rs : List Journal.Record, Flow.run (closing? correlation r) b =
      (.ok (closingEvents r), { b with journal := b.journal ++ rs.map .record }) := by
  have hnone : b = { b with journal := b.journal ++ ([] : List Journal.Record).map .record } := by
    simp
  match r with
  | .ok _ => exact ⟨[], congrArg (Prod.mk _) hnone⟩
  | .error (.failure f) => exact ⟨[_], rfl⟩
  | .error (.defect d) =>
    cases d with
    | endless => exact ⟨[], congrArg (Prod.mk _) hnone⟩
    | _ => exact ⟨[_], rfl⟩

section Run

variable (s : Settings) (a : Analysis) (options : Option Options) (stop : Backend.Stop)
  (correlation : Json) (b : Backend)

/-- The request for text that a stream of events follows. -/
def followed : Flow Backend Backend.Summary :=
  Backend.stream s (promptFor a (options.getD .none)) (some (options.getD .none)) stop

/-- The events of a stream are those of the chunks, and those for the end. -/
theorem run_events {e : Except Problem Backend.Summary × Backend}
    (h : Flow.run (followed s a options stop) b = e) :
    ∃ (b' : Backend) (rs : List Journal.Record), Flow.run (events s a options stop correlation) b =
        (.ok (startEvent s a (options.getD .none) :: e.2.handed.filterMap (chunkEvent? a) ++
          closingEvents e.1), b') ∧
      b'.journal = e.2.journal ++ rs.map .record := by
  obtain ⟨rs, hclosing⟩ := run_closing? correlation e.1 e.2
  refine ⟨{ e.2 with journal := e.2.journal ++ rs.map .record }, rs, ?_, rfl⟩
  have houtcome : Flow.run (Flow.outcome (followed s a options stop)) b = (.ok e.1, e.2) := by
    rw [run_outcome, h]
  have hevents : Flow.run (events s a options stop correlation) b =
      Flow.run (Flow.outcome (followed s a options stop) >>= fun r => do
        let tokens := (← get).handed.filterMap (chunkEvent? a)
        let last ← closing? correlation r
        return startEvent s a (options.getD .none) :: tokens ++ last) b := rfl
  rw [hevents, run_bind_of_ok houtcome, run_bind_of_ok (run_get e.2), run_bind_of_ok hclosing]
  rfl

end Run

theorem finish_ne_hanging {r : Reply} (h : ¬ IsEndless r) (action : String) :
    (attemptOf action r).finish ≠ .hanging := by
  match r with
  | .mishap m => simp [attemptOf, Attempt.without]
  | .answer a =>
    have hending : ∀ x, x ≠ .hanging → finishOf action x a.ending ≠ .hanging := by
      intro x hx
      cases ha : a.ending with
      | complete => exact hx
      | broken m => simp [finishOf]
      | endless => exact absurd ⟨a, rfl, ha⟩ h
    by_cases hstatus : isError a.status = true
    · simp only [attemptOf, if_pos hstatus]
      exact hending _ (by simp)
    · simp only [attemptOf, if_neg hstatus, attemptOfLines]
      split
      · simp
      · exact hending _ (by simp)

section Grammar

variable {s : Settings} {a : Analysis} {options : Option Options} {stop : Backend.Stop}
  {b : Backend}

/-- What comes behind the chunks of the last reply. -/
theorem closes_of_served {prompt : String} {n : Nat} {e : Except Problem Unit × Backend}
    (h : Backend.Served (Backend.textCall s prompt options) stop (Patience.ofSettings s) b.begun n
      e)
    (hclock : (Time.milliseconds? (b.clock.reading b.clock.used)
      (b.clock.reading (b.clock.used + 1))).isSome)
    (hend : ¬ IsEndless (b.script.reply n)) :
    Closes (b.script.reply n) (closingEvents (Backend.summarized s options b e).1) := by
  constructor
  case done =>
    intro hdone
    obtain ⟨x, hx⟩ :=
      Backend.summarized_of_clock s options b e (h.eq_ok_iff.2 hdone) h.clock hclock
    rw [hx]
    rfl
  case failed =>
    intro hfailed
    have hne := h.ne_endless (finish_ne_hanging hend _)
    have hok := mt h.eq_ok_iff.1 hfailed
    cases hresult : e.1 with
    | ok u => exact absurd hresult hok
    | error p =>
      rw [Backend.summarized_of_error s options b e hresult]
      exact closingEvents_of_error fun hp => hne (hp ▸ hresult)

theorem orderly_of_delivery_nil {r : Reply} (h : delivery r = []) : Orderly r := by
  rintro answer rfl hstatus before l after hlines herrors hmark
  have hmarked := isMarked_foldl_of_mark before hmark
  rw [delivery_of_mark hstatus hlines herrors hmark] at h
  rw [(List.append_eq_nil_iff.1 h).1] at hmarked
  cases hmarked

/-- All replies that a request for text has taken are orderly just if the last one is. -/
theorem orderly_iff_of_served {call : Call} {patience : Patience} {n : Nat}
    {e : Except Problem Unit × Backend} (h : Backend.Served call stop patience b n e) :
    (∀ k < n + 1, Orderly (b.script.reply k)) ↔ Orderly (b.script.reply n) := by
  refine ⟨fun hall => hall n (Nat.lt_succ_self n), fun hlast k hk => ?_⟩
  rcases Nat.lt_succ_iff_lt_or_eq.1 hk with hlt | rfl
  · exact orderly_of_delivery_nil (h.earlier k hlt).1
  · exact hlast

/-- A stream of events is well-formed just if all replies that made it are orderly. -/
theorem events_wellFormed_iff (s : Settings) (a : Analysis) (options : Option Options)
    (stop : Backend.Stop) (correlation : Json) (b : Backend)
    (hclock : (Time.milliseconds? (b.clock.reading b.clock.used)
      (b.clock.reading (b.clock.used + 1))).isSome)
    (hend : ∀ k, ¬ IsEndless (b.script.reply k)) :
    ∃ es b', Flow.run (events s a options stop correlation) b = (.ok es, b') ∧
      (StreamEvent.WellFormed es ↔ ∀ k < (Flow.sent b b').length, Orderly (b.script.reply k)) := by
  rcases Backend.stream_served s (promptFor a (options.getD .none)) (some (options.getD .none)) stop
    b with ⟨d, hd, hrun⟩ | ⟨n, e, hserved, hrun⟩
  · -- nothing is sent: the stream is a start and an error
    obtain ⟨b', rs, hevents, hjournal⟩ := run_events s a options stop correlation b hrun
    have hsent : Flow.sent b b' = [] := (Flow.sent_eq hjournal).trans (callsIn_records rs)
    obtain ⟨x, hx, hxerror⟩ := closingEvents_of_error (p := .defect d) fun hp =>
      ne_endless_of_objection hd (Problem.defect.inj hp)
    refine ⟨_, b', hevents, iff_of_true ?_ fun k hk => ?_⟩
    · simp only [hx]
      exact wellFormed_of_pieces a rfl [] (.inr hxerror)
    · rw [hsent] at hk
      exact absurd hk (Nat.not_lt_zero k)
  · -- the last reply decides, for those before it delivered nothing
    obtain ⟨b', rs, hevents, hjournal⟩ := run_events s a options stop correlation b hrun
    obtain ⟨es, hes, hcalls⟩ := hserved.journal
    rw [Backend.journal_summarized, hes, List.append_assoc] at hjournal
    have hsent : (Flow.sent b b').length = n + 1 := by
      rw [Flow.sent_eq hjournal, callsIn_append, callsIn_records, hcalls]
      simp
    have hhanded : (Backend.summarized s (some (options.getD .none)) b e).2.handed =
        delivery (b.script.reply n) :=
      (Backend.handed_summarized s _ b e).trans hserved.handed
    have hcloses := closes_of_served hserved hclock (hend n)
    refine ⟨_, b', hevents, ?_⟩
    rw [hsent, hhanded]
    refine Iff.trans ⟨fun hwf => ?_, fun hord => ?_⟩ (orderly_iff_of_served hserved).symm
    · exact orderly_of_wellFormed hcloses hwf
    · exact wellFormed_of_orderly rfl hcloses hord

end Grammar

/-! ## A model that crashes after the end of its text -/

/-- Settings under which nothing is sent again. -/
def impatient : Settings :=
  { serviceName := "rtlgen", analysisUrl := "http://localhost:3001"
    generationUrl := "http://localhost:3002", validationUrl := "http://localhost:3003"
    requestTimeout := 120.0, retryAttempts := 0, retryBaseDelay := 0.1, failureThreshold := 3
    cooldown := 30.0, rateLimitWindow := 60.0, rateLimitMax := 100
    modelUrl := "http://localhost:11434", modelName := "llama3", temperature := 0.7
    maxTokens := 2048, modelTimeout := 60.0, heartbeatInterval := 15.0, logLevel := "INFO"
    logFile := none }

/-- The analysis of a component. -/
def greeting : Analysis :=
  { name := "Greeting", form := .functional, props := [], state := [], hooks := [], handlers := []
    imports := [], testIds := [], complexity := 3, recommendations := [], metadata := [] }

/-- A model server that reports an error after it has marked the end of the text. -/
def crashing : Backend :=
  { script :=
      { first := .answer
          { status := 200
            text := "\x7b\"response\":\"a\"\x7d\n\x7b\"done\":true\x7d\n" ++
              "\x7b\"error\":\"model crashed\"\x7d\n"
            ending := .complete }
        rest := [] }
    handed := [], clock := { reading := fun _ => 0.0, used := 0 }, journal := [] }

theorem not_isEndless_crashing (k : Nat) : ¬ IsEndless (crashing.script.reply k) := by
  have hreply : crashing.script.reply k = crashing.script.first :=
    congrArg Script.first (Script.after_of_last rfl k)
  rw [hreply]
  rintro ⟨answer, hanswer, hending⟩
  obtain rfl := Reply.answer.inj hanswer
  cases hending

theorem events_wellFormed_iff_crashing :
    (Time.milliseconds? (crashing.clock.reading crashing.clock.used)
      (crashing.clock.reading (crashing.clock.used + 1))).isSome ∧
    (∀ k, ¬ IsEndless (crashing.script.reply k)) ∧
    ∃ es b', Flow.run (events impatient greeting none none .null) crashing = (.ok es, b') ∧
      (StreamEvent.WellFormed es ↔
        ∀ k < (Flow.sent crashing b').length, Orderly (crashing.script.reply k)) :=
  ⟨by decide, not_isEndless_crashing,
    events_wellFormed_iff impatient greeting none none .null crashing (by decide)
      not_isEndless_crashing⟩

/-- An error event follows the event for the end of the text. -/
theorem events_crashing_not_wellFormed :
    ∃ es b', Flow.run (events impatient greeting none none .null) crashing = (.ok es, b') ∧
      es.map (·.event) = [.start, .token, .done, .error] ∧ ¬ StreamEvent.WellFormed es := by
  have hkinds : (Flow.run (events impatient greeting none none .null) crashing).1.toOption.map
      (·.map (·.event)) = some [.start, .token, .done, .error] := by
    decide +kernel
  rcases hrun : Flow.run (events impatient greeting none none .null) crashing with ⟨p | es, b'⟩
  · rw [hrun] at hkinds
    cases hkinds
  · rw [hrun] at hkinds
    have hes : es.map (·.event) = [.start, .token, .done, .error] := Option.some.inj hkinds
    refine ⟨es, b', rfl, hes, fun hwf => ?_⟩
    obtain ⟨n, k, hk⟩ := hwf.map_event
    have hk : [.start, .token, .done, .error] = EventName.start :: List.replicate n .token ++ [k] :=
      hes.symm.trans hk
    have hlength : n = 2 := by simpa using (congrArg List.length hk).symm
    subst hlength
    cases hk

end TestScribe.Generation
