import TestScribe.Generation.Chunk

/-!
# What a reply delivers

The chunks that come of a reply, read off its lines one after another (`delivery`): a line that
holds no object delivers nothing, a piece of text is delivered where it stands, and the end is
marked once, by the first line that does so or when the answer is complete.  The attempt that takes
the reply hands on just these (`chunks_attemptOf`).
-/

namespace TestScribe.Generation

open Transport

/-! ## Lines -/

/-- The error that a line reports. -/
def errorOn? (l : List Char) : Option Json :=
  (objectOn? l).bind fun ms => telling? ms "error"

/-- The piece of text on a line. -/
def pieceOn? (l : List Char) : Option Json :=
  (objectOn? l).bind fun ms => telling? ms "response"

/-- Whether a line marks the end of the text. -/
def isMark (l : List Char) : Bool :=
  (objectOn? l).any marksEnd

/-- The lines before the first that reports an error. -/
def heard (ls : List (List Char)) : List (List Char) :=
  ls.takeWhile fun l => (errorOn? l).isNone

/-- The chunk of a piece of text. -/
def Chunk.piece (v : Json) : Chunk := { content := v, done := false }

/-- Whether the end was marked. -/
def isMarked (cs : List Chunk) : Bool :=
  cs.any Chunk.done

/-- The chunks that were delivered after a line, from those before it. -/
def deliver (given : List Chunk) (l : List Char) : List Chunk :=
  given ++ (pieceOn? l).toList.map .piece ++ if isMark l && !isMarked given then [.last] else []

/-- Whether an answer has arrived as a whole, with no error in it. -/
def isWhole (a : Answer) : Bool :=
  match a.ending with
  | .complete => a.lines.all fun l => (errorOn? l).isNone
  | _ => false

/-- The chunks of an answer that reports no error by its status. -/
def deliveryOfLines (a : Answer) : List Chunk :=
  let given := (heard a.lines).foldl deliver []
  given ++ if isWhole a && !isMarked given then [.last] else []

/-- The chunks that a reply delivers. -/
def delivery : Reply → List Chunk
  | .mishap _ => []
  | .answer a => if isError a.status then [] else deliveryOfLines a

/-! ## Following the lines -/

@[simp] theorem isMarked_append (cs cs' : List Chunk) :
    isMarked (cs ++ cs') = (isMarked cs || isMarked cs') :=
  List.any_append

@[simp] theorem isMarked_pieces (vs : List Json) : isMarked (vs.map .piece) = false := by
  simp [isMarked, Chunk.piece]

@[simp] theorem isMarked_last : isMarked [.last] = true := rfl

theorem isMarked_deliver (given : List Chunk) (l : List Char) :
    isMarked (deliver given l) = (isMarked given || isMark l) := by
  unfold deliver
  rw [isMarked_append, isMarked_append, isMarked_pieces]
  cases isMarked given <;> cases isMark l <;> rfl

theorem follow_of_error {l : List Char} {e : Json} (h : errorOn? l = some e) (ended : Bool)
    (ls : List (List Char)) :
    follow ended (l :: ls) =
      { chunks := [], records := [], ended, failure := some (.plain .serviceFault e.plain) } := by
  unfold errorOn? at h
  rw [follow]
  cases hobject : objectOn? l with
  | none => simp [hobject] at h
  | some ms =>
    simp only [hobject, Option.bind_some] at h
    simp only [h]

/-- A line without an error adds its chunks, and following goes on. -/
theorem follow_of_heard {l : List Char} (h : errorOn? l = none) (ended : Bool)
    (ls : List (List Char)) :
    (follow ended (l :: ls)).chunks =
        (pieceOn? l).toList.map .piece ++ (if isMark l && !ended then [.last] else []) ++
          (follow (ended || isMark l) ls).chunks ∧
      (follow ended (l :: ls)).ended = (follow (ended || isMark l) ls).ended ∧
      (follow ended (l :: ls)).failure = (follow (ended || isMark l) ls).failure := by
  unfold errorOn? at h
  unfold pieceOn? isMark
  rw [follow]
  cases hobject : objectOn? l with
  | none => simp
  | some ms =>
    simp only [hobject, Option.bind_some] at h
    simp only [h]
    exact ⟨rfl, rfl, rfl⟩

theorem recordsOn_of_object {l : List Char} {ms : Members} (h : objectOn? l = some ms) :
    recordsOn l = [] := by
  unfold objectOn? at h
  unfold recordsOn
  cases hline : Line.ofChars l with
  | nothing => rfl
  | unreadable s => simp [hline] at h
  | object ms' => rfl

theorem records_follow_line (ended : Bool) (l : List Char) :
    (follow ended [l]).records = recordsOn l := by
  rw [follow]
  cases hobject : objectOn? l with
  | none => exact List.append_nil _
  | some ms =>
    rw [recordsOn_of_object hobject]
    dsimp only
    cases telling? ms "error" with
    | none => rfl
    | some e => rfl

/-- A line read by itself gives the object that following looks at, and leaves the same records. -/
theorem run_readLine (line : String) (ended : Bool) (j : Events) :
    Flow.run (readLine line) j =
      (.ok (objectOn? line.toList),
        j ++ (follow ended [line.toList]).records.map .record) := by
  rw [records_follow_line]
  rfl

theorem heard_cons_of_error {l : List Char} {e : Json} (h : errorOn? l = some e)
    (ls : List (List Char)) : heard (l :: ls) = [] :=
  List.takeWhile_cons_of_neg (by simp [h])

theorem heard_cons_of_none {l : List Char} (h : errorOn? l = none) (ls : List (List Char)) :
    heard (l :: ls) = l :: heard ls :=
  List.takeWhile_cons_of_pos (by simp [h])

/-- Following the lines delivers the chunks of those that are heard. -/
theorem chunks_follow (given : List Chunk) (ls : List (List Char)) :
    given ++ (follow (isMarked given) ls).chunks = (heard ls).foldl deliver given := by
  induction ls generalizing given with
  | nil => exact List.append_nil given
  | cons l ls ih =>
    cases herror : errorOn? l with
    | some e =>
      rw [follow_of_error herror, heard_cons_of_error herror]
      exact List.append_nil given
    | none =>
      rw [heard_cons_of_none herror, List.foldl_cons, ← ih, (follow_of_heard herror _ _).1,
        isMarked_deliver]
      unfold deliver
      simp only [List.append_assoc]

/-- Following the lines ends with the end marked if one of those that are heard marks it. -/
theorem ended_follow (given : List Chunk) (ls : List (List Char)) :
    (follow (isMarked given) ls).ended = isMarked ((heard ls).foldl deliver given) := by
  induction ls generalizing given with
  | nil => rfl
  | cons l ls ih =>
    cases herror : errorOn? l with
    | some e =>
      rw [follow_of_error herror, heard_cons_of_error herror]
      rfl
    | none =>
      rw [heard_cons_of_none herror, List.foldl_cons, ← ih, (follow_of_heard herror _ _).2.1,
        isMarked_deliver]

/-- Following the lines fails with the first error. -/
theorem failure_follow (ended : Bool) (ls : List (List Char)) :
    (follow ended ls).failure =
      (ls.findSome? errorOn?).map fun e => .plain .serviceFault e.plain := by
  induction ls generalizing ended with
  | nil => rfl
  | cons l ls ih =>
    cases herror : errorOn? l with
    | some e =>
      rw [follow_of_error herror, List.findSome?_cons_of_isSome (by simp [herror]), herror]
      rfl
    | none =>
      rw [(follow_of_heard herror _ _).2.2, ih, List.findSome?_cons_of_isNone (by simp [herror])]

/-! ## Attempts -/

theorem not_isWhole_of_error {a : Answer} {e : Json} (h : a.lines.findSome? errorOn? = some e) :
    isWhole a = false := by
  obtain ⟨l, hl, hle⟩ := List.exists_of_findSome?_eq_some h
  unfold isWhole
  split
  · rw [List.all_eq_false]
    exact ⟨l, hl, by simp [hle]⟩
  · rfl

theorem isWhole_of_complete {a : Answer} (hending : a.ending = .complete)
    (h : a.lines.findSome? errorOn? = none) : isWhole a = true := by
  rw [List.findSome?_eq_none_iff] at h
  simp only [isWhole, hending, List.all_eq_true]
  intro l hl
  simp [h l hl]

theorem not_isWhole_of_ending {a : Answer} (hending : a.ending ≠ .complete) :
    isWhole a = false := by
  unfold isWhole
  split
  · next h => exact absurd h hending
  · rfl

/-- An attempt hands on what its reply delivers. -/
theorem chunks_attemptOf (action : String) (r : Reply) :
    (attemptOf action r).chunks = delivery r := by
  match r with
  | .mishap m => rfl
  | .answer a =>
    by_cases hstatus : isError a.status = true
    · simp [attemptOf, delivery, hstatus, Attempt.without]
    · have hchunks : (follow false a.lines).chunks = (heard a.lines).foldl deliver [] :=
        chunks_follow [] a.lines
      have hended : (follow false a.lines).ended = isMarked ((heard a.lines).foldl deliver []) :=
        ended_follow [] a.lines
      simp only [attemptOf, delivery, hstatus, Bool.false_eq_true, if_false, attemptOfLines,
        deliveryOfLines, failure_follow]
      cases herror : a.lines.findSome? errorOn? with
      | some e => simp [hchunks, not_isWhole_of_error herror]
      | none =>
        cases hending : a.ending with
        | complete =>
          simp only [Option.map_none, hchunks, hended, isWhole_of_complete hending herror]
          cases isMarked ((heard a.lines).foldl deliver []) <;> rfl
        | broken m => simp [hchunks, not_isWhole_of_ending (a := a) (by simp [hending])]
        | endless => simp [hchunks, not_isWhole_of_ending (a := a) (by simp [hending])]

/-- An error on a line is the failure of the attempt. -/
theorem finish_of_error (action : String) {a : Answer} (hstatus : isError a.status = false)
    {e : Json}
    (h : a.lines.findSome? errorOn? = some e) :
    (attemptOf action (.answer a)).finish = .failed (.plain .serviceFault e.plain) := by
  simp [attemptOf, hstatus, attemptOfLines, failure_follow, h]

/-- An attempt is done when a whole answer without an error has arrived. -/
theorem finish_eq_done_iff {action : String} {r : Reply} :
    (attemptOf action r).finish = .done ↔
      ∃ a, r = .answer a ∧ isError a.status = false ∧ isWhole a = true := by
  match r with
  | .mishap m => simp [attemptOf, Attempt.without]
  | .answer a =>
    by_cases hstatus : isError a.status = true
    · cases hending : a.ending <;> simp [attemptOf, hstatus, Attempt.without, finishOf, hending]
    · rw [Bool.not_eq_true] at hstatus
      cases herror : a.lines.findSome? errorOn? with
      | some e => simp [finish_of_error action hstatus herror, not_isWhole_of_error herror]
      | none =>
        simp only [attemptOf, hstatus, Bool.false_eq_true, if_false, attemptOfLines, failure_follow,
          herror, Option.map_none]
        cases hending : a.ending with
        | complete => simp [finishOf, hstatus, isWhole_of_complete hending herror]
        | broken m => simp [finishOf, not_isWhole_of_ending (a := a) (by simp [hending])]
        | endless => simp [finishOf, not_isWhole_of_ending (a := a) (by simp [hending])]

/-! ## Pieces and marks -/

/-- The pieces of text among chunks. -/
def piecesIn (cs : List Chunk) : List Json :=
  (cs.filter fun c => !c.done).map Chunk.content

@[simp] theorem piecesIn_append (cs cs' : List Chunk) :
    piecesIn (cs ++ cs') = piecesIn cs ++ piecesIn cs' := by
  simp [piecesIn]

@[simp] theorem piecesIn_pieces (vs : List Json) : piecesIn (vs.map .piece) = vs := by
  induction vs with
  | nil => rfl
  | cons v vs ih => exact congrArg (v :: ·) ih

@[simp] theorem piecesIn_last_if (b : Bool) : piecesIn (if b then [.last] else []) = [] := by
  cases b <;> rfl

theorem piecesIn_foldl_deliver (given : List Chunk) (ls : List (List Char)) :
    piecesIn (ls.foldl deliver given) = piecesIn given ++ ls.filterMap pieceOn? := by
  induction ls generalizing given with
  | nil => exact (List.append_nil _).symm
  | cons l ls ih =>
    rw [List.foldl_cons, ih, deliver, piecesIn_append, piecesIn_append, piecesIn_pieces,
      piecesIn_last_if, List.append_nil, List.append_assoc]
    cases hpiece : pieceOn? l <;> simp [hpiece]

/-- Each piece of text on a line that is heard is delivered once, in the order of the lines. -/
theorem piecesIn_deliveryOfLines (a : Answer) :
    piecesIn (deliveryOfLines a) = (heard a.lines).filterMap pieceOn? := by
  unfold deliveryOfLines
  rw [piecesIn_append, piecesIn_last_if, List.append_nil, piecesIn_foldl_deliver]
  rfl

theorem truthy_of_pieceOn? {l : List Char} {v : Json} (h : pieceOn? l = some v) :
    v.truthy = true := by
  obtain ⟨ms, -, hms⟩ := Option.bind_eq_some_iff.1 h
  exact (Option.filter_eq_some_iff.1 hms).2

/-- A chunk of an answer: a piece of text that counts as true, or the mark of the end. -/
def Chunk.IsProper (c : Chunk) : Prop :=
  c = .last ∨ ∃ v, v.truthy = true ∧ c = .piece v

theorem isProper_of_mem_last_if {b : Bool} {c : Chunk} (h : c ∈ if b then [Chunk.last] else []) :
    c.IsProper := by
  cases b with
  | true => exact .inl (List.mem_singleton.1 h)
  | false => exact absurd h List.not_mem_nil

theorem isProper_of_mem_foldl_deliver {given : List Chunk} (hgiven : ∀ c ∈ given, c.IsProper)
    (ls : List (List Char)) : ∀ c ∈ ls.foldl deliver given, c.IsProper := by
  induction ls generalizing given with
  | nil => exact hgiven
  | cons l ls ih =>
    refine ih fun c hc => ?_
    rcases List.mem_append.1 hc with hc | hc
    · rcases List.mem_append.1 hc with hc | hc
      · exact hgiven c hc
      · obtain ⟨v, hv, rfl⟩ := List.mem_map.1 hc
        exact .inr ⟨v, truthy_of_pieceOn? (Option.mem_def.1 (Option.mem_toList.1 hv)), rfl⟩
    · exact isProper_of_mem_last_if hc

theorem isProper_of_mem_delivery {r : Reply} {c : Chunk} (h : c ∈ delivery r) : c.IsProper := by
  match r with
  | .mishap m => exact absurd h List.not_mem_nil
  | .answer a =>
    by_cases hstatus : isError a.status = true
    · rw [delivery, if_pos hstatus] at h
      exact absurd h List.not_mem_nil
    · rw [delivery, if_neg hstatus] at h
      rcases List.mem_append.1 h with h | h
      · exact isProper_of_mem_foldl_deliver (fun c hc => absurd hc List.not_mem_nil) _ c h
      · exact isProper_of_mem_last_if h

theorem countP_last_if (b : Bool) :
    (if b then [Chunk.last] else []).countP Chunk.done = if b then 1 else 0 := by
  cases b <;> rfl

theorem countP_done_pieces (vs : List Json) : (vs.map Chunk.piece).countP Chunk.done = 0 := by
  simp [List.countP_eq_zero, Chunk.piece]

theorem isMarked_eq_false_iff {cs : List Chunk} :
    isMarked cs = false ↔ cs.countP Chunk.done = 0 := by
  simp [isMarked, List.countP_eq_zero]

theorem countP_done_foldl_deliver (given : List Chunk) (ls : List (List Char))
    (h : given.countP Chunk.done ≤ 1) : (ls.foldl deliver given).countP Chunk.done ≤ 1 := by
  induction ls generalizing given with
  | nil => exact h
  | cons l ls ih =>
    refine ih _ ?_
    unfold deliver
    rw [List.countP_append, List.countP_append, countP_done_pieces, countP_last_if]
    by_cases hmark : (isMark l && !isMarked given) = true
    · rw [Bool.and_eq_true, Bool.not_eq_true'] at hmark
      have hzero := isMarked_eq_false_iff.1 hmark.2
      split <;> omega
    · rw [if_neg hmark]
      omega

/-- A whole answer marks the end once. -/
theorem countP_done_of_isWhole {a : Answer} (h : isWhole a = true) :
    (deliveryOfLines a).countP Chunk.done = 1 := by
  unfold deliveryOfLines
  rw [List.countP_append, countP_last_if, h, Bool.true_and]
  have hle := countP_done_foldl_deliver [] (heard a.lines) (Nat.zero_le 1)
  cases hmarked : isMarked ((heard a.lines).foldl deliver []) with
  | false => simp [isMarked_eq_false_iff.1 hmarked]
  | true =>
    have hpos : (((heard a.lines).foldl deliver []).countP Chunk.done) ≠ 0 := by
      intro hzero
      rw [isMarked_eq_false_iff.2 hzero] at hmarked
      cases hmarked
    simp only [Bool.not_true, Bool.false_eq_true, if_false]
    omega

end TestScribe.Generation
