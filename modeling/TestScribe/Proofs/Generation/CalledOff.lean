import Mathlib.Data.List.TakeWhile
import TestScribe.Proofs.Generation.EventGrammar

/-!
# Calling a request for text off

The caller may ask to stop before a request for text or when a chunk is handed on.  The attempt that
is in progress then is the last: no other is begun, and there is no pause after it.  If it hangs, or
fails in a way that another attempt would have followed, the request was stopped; however else it
ends, it decides (`stream_calledOff`).
-/

namespace TestScribe.Generation

open Transport

/-! ## Answers that hang -/

section

variable {action : String} {a : Answer}

theorem finishOf_eq_hanging_iff {x : Finish} (hx : x ≠ .hanging) {e : Ending} :
    finishOf action x e = .hanging ↔ e = .endless := by
  cases e <;> simp [finishOf, hx]

/-- An answer hangs if it does not end and reports no error before. -/
def Hangs (a : Answer) : Prop :=
  a.ending = .endless ∧ (isError a.status = true ∨ a.lines.findSome? errorOn? = none)

/-- The attempt that takes an answer that hangs does so too. -/
theorem finish_eq_hanging_iff :
    (attemptOf action (.answer a)).finish = .hanging ↔ Hangs a := by
  by_cases hstatus : isError a.status = true
  · have hfinish : (attemptOf action (.answer a)).finish =
        finishOf action (.failed (statusFailure action a)) a.ending := by
      simp [attemptOf, hstatus, Attempt.without]
    rw [hfinish, finishOf_eq_hanging_iff Finish.noConfusion, Hangs]
    simp only [hstatus, true_or, and_true]
  · rw [Hangs, or_iff_right hstatus]
    rw [Bool.not_eq_true] at hstatus
    cases herror : a.lines.findSome? errorOn? with
    | some e =>
      rw [finish_of_error action hstatus herror]
      exact ⟨Finish.noConfusion, fun h => absurd h.2 (Option.some_ne_none e)⟩
    | none =>
      have hfinish : (attemptOf action (.answer a)).finish = finishOf action .done a.ending := by
        simp only [attemptOf, hstatus, Bool.false_eq_true, if_false, attemptOfLines, failure_follow,
          herror, Option.map_none]
      rw [hfinish, finishOf_eq_hanging_iff Finish.noConfusion]
      simp only [and_true]

/-- An answer that hangs delivers the chunks of all lines that have arrived. -/
theorem Hangs.delivery_eq (h : Hangs a) :
    delivery (.answer a) = if isError a.status then [] else a.lines.foldl deliver [] := by
  rw [delivery]
  split_ifs with hstatus
  · rfl
  · have hnone := List.findSome?_eq_none_iff.1 (h.2.resolve_left hstatus)
    have hheard : heard a.lines = a.lines :=
      List.takeWhile_eq_self_iff.2 fun l hl => by simp [hnone l hl]
    have hwhole : isWhole a = false := not_isWhole_of_ending (by simp [h.1])
    rw [deliveryOfLines, hheard, hwhole]
    exact List.append_nil _

end

end TestScribe.Generation

namespace TestScribe.Generation.Backend

open Transport TestScribe.Flow

/-! ## Asking to stop -/

/-- The caller asks to stop when it is handed the `n`-th chunk, or before the request if `n` is
0. -/
def stopAt (n : Nat) : Stop :=
  some fun handed => decide (n ≤ handed.length)

@[simp] theorem asked_stopAt (n : Nat) (cs : List Chunk) :
    ((stopAt n).any fun asked => asked cs) = decide (n ≤ cs.length) := rfl

variable (s : Settings) (prompt : String) (options : Option Options)

/-- What is known of a request that was done: the model, and the time between two looks at the clock
if it can be expressed. -/
def summary (b : Backend) : Except Problem Summary :=
  match Time.milliseconds? (b.clock.reading b.clock.used) (b.clock.reading (b.clock.used + 1)) with
  | some duration => .ok { model := (options.getD .none).modelName s.modelName, duration }
  | none => .error (.defect .overflow)

/-- A request for text that the caller asks to stop at chunk `n`, while the attempt after `k` others
is in progress: that attempt is the first if `n` is 0, and else the one that hands on chunk `n`.  No
other follows it.  The request was stopped if that attempt hangs, what was handed on being the
chunks of the lines that have arrived, or if another attempt would have followed its failure; else
it ends like that attempt. -/
structure CalledOff (n : Nat) (b : Backend) (r : Except Problem Summary) (b' : Backend) (k : Nat) :
    Prop where
  first : n = 0 → k = 0
  earlier : ∀ j < k, IsIdle (b.script.reply j)
  reached : n ≤ (delivery (b.script.reply k)).length
  sent : Flow.sent b b' = List.replicate (k + 1) (textCall s prompt options)
  paused : Flow.paused b b' = (List.range' 1 k).map (Patience.ofSettings s).delay
  handed : b'.handed = delivery (b.script.reply k)
  hanging : ∀ a, b.script.reply k = .answer a → Hangs a →
    r = .error (.failure stopped) ∧
      b'.handed = if isError a.status then [] else a.lines.foldl deliver []
  spared : ∀ f, (attemptOf textAction (b.script.reply k)).finish = .failed f →
    f.cause.isTransient = true → k < (Patience.ofSettings s).retries → b'.handed = [] →
    r = .error (.failure stopped)
  failed : ∀ f, (attemptOf textAction (b.script.reply k)).finish = .failed f →
    ¬ (f.cause.isTransient = true ∧ k < (Patience.ofSettings s).retries ∧ b'.handed = []) →
    r = .error (.failure f)
  done : (attemptOf textAction (b.script.reply k)).finish = .done → r = summary s options b

section

variable {s prompt options}

theorem summarized_of_done {b : Backend} {e : Except Problem Unit × Backend}
    (hclock : e.2.clock = b.begun.clock) (h : e.1 = .ok ()) :
    (summarized s options b e).1 = summary s options b := by
  rcases e with ⟨p | ⟨⟩, b'⟩
  · cases h
  · have hclock : b'.clock = b.begun.clock := hclock
    simp only [summarized, summary, hclock]
    rfl

theorem isIdle_iff_of_failed {r : Reply} {f : Failure}
    (h : (attemptOf textAction r).finish = .failed f) :
    IsIdle r ↔ f.cause.isTransient = true ∧ delivery r = [] := by
  rw [← isRetried_eq_isTransient (cause_attemptOf_ne h)]
  constructor
  · rintro ⟨hnone, f', hf', hretried⟩
    obtain rfl := Finish.failed.inj (h.symm.trans hf')
    exact ⟨hretried, hnone⟩
  · exact fun ⟨hretried, hnone⟩ => ⟨hnone, f, h, hretried⟩

/-- A request that was served while the caller asked to stop was called off. -/
theorem calledOff_of_served {n k : Nat} {b : Backend} {e : Except Problem Unit × Backend}
    (h : Served (textCall s prompt options) (stopAt n) (Patience.ofSettings s) b.begun k e)
    (hreached : n ≤ e.2.handed.length) :
    CalledOff s prompt options n b (summarized s options b e).1 (summarized s options b e).2 k := by
  have hhanded : (summarized s options b e).2.handed = delivery (b.script.reply k) :=
    (handed_summarized s options b e).trans h.handed
  have hreached' : n ≤ (delivery (b.script.reply k)).length := h.handed ▸ hreached
  have hdecided : ¬ (IsIdle (b.script.reply k) ∧ k < (Patience.ofSettings s).retries) →
      e.1 = ended (stopAt n) (delivery (b.script.reply k))
        (attemptOf textAction (b.script.reply k)).finish := h.decided
  obtain ⟨es, hstate, hcalls, hpauses⟩ := h.state
  have hjournal : (summarized s options b e).2.journal = b.journal ++ es :=
    (journal_summarized s options b e).trans (by rw [hstate]; rfl)
  constructor
  case first =>
    intro hn
    by_contra hk
    have hunasked := h.unasked (Nat.pos_of_ne_zero hk)
    rw [hn] at hunasked
    cases hunasked
  case earlier => exact h.earlier
  case reached => exact hreached'
  case sent => exact (Flow.sent_eq hjournal).trans hcalls
  case paused => exact (Flow.paused_eq hjournal).trans hpauses
  case handed => exact hhanded
  case hanging =>
    intro a ha hhangs
    have hfinish : (attemptOf textAction (b.script.reply k)).finish = .hanging := by
      rw [ha]
      exact finish_eq_hanging_iff.2 hhangs
    have hidle : ¬ IsIdle (b.script.reply k) := by
      rintro ⟨-, f, hf, -⟩
      rw [hfinish] at hf
      cases hf
    have hend := hdecided fun hmore => hidle hmore.1
    rw [hfinish, ended, asked_stopAt, if_pos (decide_eq_true hreached')] at hend
    exact ⟨summarized_of_error s options b e hend, by rw [hhanded, ha, hhangs.delivery_eq]⟩
  case spared =>
    intro f hf htransient hleft hnone
    have hnone : delivery (b.script.reply k) = [] := hhanded ▸ hnone
    have hasked : ((stopAt n).any fun asked => asked []) = true := by
      rw [hnone] at hreached'
      exact decide_eq_true hreached'
    exact summarized_of_error s options b e
      (h.spared ((isIdle_iff_of_failed hf).2 ⟨htransient, hnone⟩) hleft hasked)
  case failed =>
    intro f hf hfinal
    have hlast : ¬ (IsIdle (b.script.reply k) ∧ k < (Patience.ofSettings s).retries) := by
      intro hmore
      obtain ⟨htransient, hnone⟩ := (isIdle_iff_of_failed hf).1 hmore.1
      exact hfinal ⟨htransient, hmore.2, hhanded.trans hnone⟩
    have hend := hdecided hlast
    rw [hf] at hend
    exact summarized_of_error s options b e hend
  case done => exact fun hdone => summarized_of_done h.clock (h.eq_ok_iff.2 hdone)

end

/-- Calling off begins nothing new.  Whatever the replies and the settings are, and at whichever
chunk the caller asks to stop: either the request cannot be written and nothing was done, or it was
called off. -/
theorem stream_calledOff (b : Backend) (n : Nat)
    (hreached : n ≤ (Flow.run (stream s prompt options (stopAt n)) b).2.handed.length) :
    let e := Flow.run (stream s prompt options (stopAt n)) b
    (∃ d, objection? (textCall s prompt options) = some d ∧ n = 0 ∧ e.1 = .error (.defect d) ∧
      Flow.sent b e.2 = [] ∧ Flow.paused b e.2 = [] ∧ e.2.handed = []) ∨
    ∃ k, CalledOff s prompt options n b e.1 e.2 k := by
  intro e
  change n ≤ e.2.handed.length at hreached
  rcases stream_served s prompt options (stopAt n) b with ⟨d, hd, hrun⟩ | ⟨k, e', hserved, hrun⟩
  · have he : e = (.error (.defect d), b.begun) := hrun
    rw [he] at hreached ⊢
    have hjournal : Journaling.journal b.begun = Journaling.journal b ++ [] :=
      (List.append_nil _).symm
    exact .inl ⟨d, hd, Nat.le_zero.1 hreached, rfl, Flow.sent_eq hjournal,
      Flow.paused_eq hjournal, rfl⟩
  · have he : e = summarized s options b e' := hrun
    rw [he] at hreached ⊢
    rw [handed_summarized] at hreached
    exact .inr ⟨k, calledOff_of_served hserved hreached⟩

/-- Settings under which a request is sent up to three times. -/
def patient : Settings :=
  { impatient with retryAttempts := 2 }

/-- An answer of two pieces of text that does not end. -/
def hangingAnswer : Answer :=
  { status := 200, text := "\x7b\"response\":\"a\"\x7d\n\x7b\"response\":\"b\"\x7d\n"
    ending := .endless }

/-- A model server that is not there at first. -/
def faltering : Backend :=
  { script :=
      { first := .mishap { trouble := .unreachable, message := "refused" }
        rest := [.answer hangingAnswer] }
    handed := [], clock := { reading := fun _ => 0.0, used := 0 }, journal := [] }

/-- After a pause the second attempt is in progress when the first piece comes, and it is the
last. -/
theorem stream_calledOff_faltering :
    let e := Flow.run (stream patient "Test it." none (stopAt 1)) faltering
    1 ≤ e.2.handed.length ∧ CalledOff patient "Test it." none 1 faltering e.1 e.2 1 ∧
      e.1 = .error (.failure stopped) ∧
      textOf? e.2.handed = some "ab" := by
  intro e
  have hreached : 1 ≤ e.2.handed.length := by decide +kernel
  have hcalls : (Flow.sent faltering e.2).length = 2 := by decide +kernel
  have hhangs : Hangs hangingAnswer := ⟨rfl, .inr (by decide +kernel)⟩
  rcases stream_calledOff patient "Test it." none faltering 1 hreached with
    ⟨-, -, hzero, -⟩ | ⟨k, hcalled⟩
  · cases hzero
  · have hk : k = 1 := by
      rw [hcalled.sent, List.length_replicate] at hcalls
      omega
    subst hk
    obtain ⟨hstopped, hhanded⟩ := hcalled.hanging hangingAnswer rfl hhangs
    refine ⟨hreached, hcalled, hstopped, ?_⟩
    rw [hhanded]
    decide +kernel

end TestScribe.Generation.Backend
