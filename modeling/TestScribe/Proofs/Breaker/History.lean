import Mathlib.Data.List.DropRight
import TestScribe.Gateway.Breaker

/-!
# Histories of a breaker

Calls that run at the same time take their steps at a breaker in any order: a call is asked for, and
later it succeeds or fails.  The breaker after such a history is a function of the history
(`run_eq_ofHistory`): the failures since the last success decide whether it is closed, the last
failure fixes the deadline, and the attempts since then tell whether a probe was let through.
-/

namespace TestScribe.Gateway.Breaker

variable {τ : Type}

/-- A step of a call at a breaker: it is asked for, or it comes out one way or the other. -/
inductive Step (τ : Type)
  | attempt (now : τ)
  | success
  | failure (now : τ)

namespace Step

/-- Whether a call succeeded. -/
def isSuccess : Step τ → Bool
  | success => true
  | _ => false

/-- Whether a call failed. -/
def isFailure : Step τ → Bool
  | failure _ => true
  | _ => false

/-- The time at which a call was asked for. -/
def attempt? : Step τ → Option τ
  | attempt now => some now
  | _ => none

/-- The time at which a call failed. -/
def failure? : Step τ → Option τ
  | failure now => some now
  | _ => none

/-- The reading of the clock at a step. -/
def reading? : Step τ → Option τ
  | attempt now => some now
  | success => none
  | failure now => some now

end Step

/-! ## What a history tells -/

/-- The readings of the clock in a history. -/
def readings (h : List (Step τ)) : List τ :=
  h.filterMap Step.reading?

/-- The number of failures since the last success. -/
def failuresIn (h : List (Step τ)) : Nat :=
  (h.rtakeWhile fun x => !x.isSuccess).countP Step.isFailure

/-- The time of the last failure and the cooldown after it. -/
def nextAttempt? [Add τ] (cooldown : τ) (h : List (Step τ)) : Option τ :=
  (h.filterMap Step.failure?).getLast?.map (· + cooldown)

/-- The times of the attempts since the last failure. -/
def attemptsSince (h : List (Step τ)) : List τ :=
  (h.rtakeWhile fun x => !x.isFailure).filterMap Step.attempt?

/-- Whether a call was asked for after the cooldown of the last failure. -/
def isProbed [LE τ] [DecidableLE τ] [Add τ] (cooldown : τ) (h : List (Step τ)) : Bool :=
  (attemptsSince h).any fun t => (nextAttempt? cooldown h).any (· ≤ t)

/-- The breaker that a history leads to, read off the history as a whole. -/
def ofHistory [LE τ] [DecidableLE τ] [Add τ] (threshold : Int) (cooldown : τ)
    (h : List (Step τ)) : Breaker τ :=
  if (failuresIn h : Int) < threshold then
    { state := .closed, failures := failuresIn h, deadline := none }
  else
    { state := if isProbed cooldown h then .halfOpen else .opened
      failures := failuresIn h
      deadline := nextAttempt? cooldown h }

section Appended

variable (h : List (Step τ)) (now : τ)

@[simp] theorem failuresIn_nil : failuresIn ([] : List (Step τ)) = 0 := rfl

@[simp] theorem failuresIn_attempt : failuresIn (h ++ [.attempt now]) = failuresIn h := by
  unfold failuresIn
  rw [List.rtakeWhile_concat_pos _ _ _ rfl, List.countP_append]
  rfl

@[simp] theorem failuresIn_success : failuresIn (h ++ [.success]) = 0 := by
  unfold failuresIn
  rw [List.rtakeWhile_concat_neg _ _ _ (by simp [Step.isSuccess])]
  rfl

@[simp] theorem failuresIn_failure : failuresIn (h ++ [.failure now]) = failuresIn h + 1 := by
  unfold failuresIn
  rw [List.rtakeWhile_concat_pos _ _ _ rfl, List.countP_append]
  rfl

variable [Add τ] (cooldown : τ)

@[simp] theorem nextAttempt?_attempt :
    nextAttempt? cooldown (h ++ [.attempt now]) = nextAttempt? cooldown h := by
  simp [nextAttempt?, Step.failure?]

@[simp] theorem nextAttempt?_failure :
    nextAttempt? cooldown (h ++ [.failure now]) = some (now + cooldown) := by
  simp [nextAttempt?, Step.failure?]

/-- A failure that counts leaves a time behind. -/
theorem nextAttempt?_isSome (hpos : 0 < failuresIn h) : (nextAttempt? cooldown h).isSome := by
  obtain ⟨x, hx, hfail⟩ := List.countP_pos_iff.1 hpos
  have hmem : x ∈ h := (List.rtakeWhile_suffix _ h).subset hx
  cases x with
  | attempt t => simp [Step.isFailure] at hfail
  | success => simp [Step.isFailure] at hfail
  | failure t =>
    have hne : h.filterMap Step.failure? ≠ [] :=
      List.ne_nil_of_mem (List.mem_filterMap.2 ⟨_, hmem, rfl⟩)
    rw [nextAttempt?, List.getLast?_eq_some_getLast hne]
    rfl

variable [LE τ] [DecidableLE τ]

@[simp] theorem isProbed_attempt :
    isProbed cooldown (h ++ [.attempt now]) =
      (isProbed cooldown h || (nextAttempt? cooldown h).any (· ≤ now)) := by
  have hsince : attemptsSince (h ++ [.attempt now]) = attemptsSince h ++ [now] := by
    unfold attemptsSince
    rw [List.rtakeWhile_concat_pos _ _ _ rfl, List.filterMap_append]
    rfl
  unfold isProbed
  rw [hsince, nextAttempt?_attempt, List.any_append]
  simp

@[simp] theorem isProbed_failure : isProbed cooldown (h ++ [.failure now]) = false := by
  have hsince : attemptsSince (h ++ [.failure now]) = [] := by
    unfold attemptsSince
    rw [List.rtakeWhile_concat_neg _ _ _ (by simp [Step.isFailure])]
    rfl
  unfold isProbed
  rw [hsince]
  rfl

end Appended

/-! ## One step, and a run of them -/

section Runs

variable [LE τ] [DecidableLE τ] [Add τ] (threshold : Int) (cooldown : τ)

/-- The breaker after a step. -/
def step (b : Breaker τ) : Step τ → Breaker τ
  | .attempt now => (b.attempt now).1
  | .success => b.succeed
  | .failure now => b.fail threshold cooldown now

/-- The breaker after the steps of a history. -/
def run (b : Breaker τ) (h : List (Step τ)) : Breaker τ :=
  h.foldl (step threshold cooldown) b

@[simp] theorem run_nil (b : Breaker τ) : run threshold cooldown b [] = b := rfl

theorem run_append (b : Breaker τ) (h h' : List (Step τ)) :
    run threshold cooldown b (h ++ h') =
      run threshold cooldown (run threshold cooldown b h) h' :=
  List.foldl_append

variable {threshold}

theorem ofHistory_of_lt {h : List (Step τ)} (hlt : (failuresIn h : Int) < threshold) :
    ofHistory threshold cooldown h =
      { state := .closed, failures := failuresIn h, deadline := none } :=
  if_pos hlt

theorem ofHistory_of_le {h : List (Step τ)} (hle : threshold ≤ failuresIn h) :
    ofHistory threshold cooldown h =
      { state := if isProbed cooldown h then .halfOpen else .opened
        failures := failuresIn h, deadline := nextAttempt? cooldown h } :=
  if_neg (Int.not_lt.2 hle)

omit [LE τ] [DecidableLE τ] in
/-- At the threshold there is a deadline. -/
theorem nextAttempt?_of_le (hpos : 1 ≤ threshold) {h : List (Step τ)}
    (hle : threshold ≤ failuresIn h) : ∃ d, nextAttempt? cooldown h = some d :=
  Option.isSome_iff_exists.1 (nextAttempt?_isSome h cooldown (by omega))

theorem step_attempt_ofHistory (hpos : 1 ≤ threshold) (h : List (Step τ)) (now : τ) :
    step threshold cooldown (ofHistory threshold cooldown h) (.attempt now) =
      ofHistory threshold cooldown (h ++ [.attempt now]) := by
  rcases Int.lt_or_le (failuresIn h : Int) threshold with hlt | hle
  · rw [ofHistory_of_lt cooldown hlt, ofHistory_of_lt cooldown (by simpa using hlt)]
    simp [step, attempt]
  · obtain ⟨d, hd⟩ := nextAttempt?_of_le cooldown hpos hle
    rw [ofHistory_of_le cooldown hle, ofHistory_of_le cooldown (by simpa using hle)]
    -- a breaker that is probed already stays so; else the attempt is a probe if it is late enough
    by_cases hprobed : isProbed cooldown h
    · simp [step, attempt, hprobed]
    · by_cases hlate : d ≤ now <;> simp [step, attempt, hprobed, hd, hlate]

theorem step_success_ofHistory (hpos : 1 ≤ threshold) (h : List (Step τ)) :
    step threshold cooldown (ofHistory threshold cooldown h) .success =
      ofHistory threshold cooldown (h ++ [.success]) := by
  have hlt : (failuresIn (h ++ [.success]) : Int) < threshold := by
    rw [failuresIn_success]
    omega
  rw [ofHistory_of_lt cooldown hlt, failuresIn_success]
  rfl

theorem step_failure_ofHistory (h : List (Step τ)) (now : τ) :
    step threshold cooldown (ofHistory threshold cooldown h) (.failure now) =
      ofHistory threshold cooldown (h ++ [.failure now]) := by
  rcases Int.lt_or_le (failuresIn (h ++ [.failure now]) : Int) threshold with hlt | hle
  · have hlt' : (failuresIn h : Int) < threshold := by
      rw [failuresIn_failure] at hlt
      omega
    rw [ofHistory_of_lt cooldown hlt, ofHistory_of_lt cooldown hlt']
    simp at hlt
    simp [step, fail]
    omega
  · have hcount : (ofHistory threshold cooldown h).failures = failuresIn h := by
      unfold ofHistory
      split <;> rfl
    rw [ofHistory_of_le cooldown hle]
    simp at hle
    simp [step, fail, hcount, hle]

/-- What one step does to the breaker of a history is what the longer history tells. -/
theorem step_ofHistory (hpos : 1 ≤ threshold) (h : List (Step τ)) (x : Step τ) :
    step threshold cooldown (ofHistory threshold cooldown h) x =
      ofHistory threshold cooldown (h ++ [x]) := by
  cases x with
  | attempt now => exact step_attempt_ofHistory cooldown hpos h now
  | success => exact step_success_ofHistory cooldown hpos h
  | failure now => exact step_failure_ofHistory cooldown h now

/-- A breaker is what its history tells. -/
theorem run_eq_ofHistory (hpos : 1 ≤ threshold) (h : List (Step τ)) :
    run threshold cooldown fresh h = ofHistory threshold cooldown h := by
  induction h using List.reverseRecOn with
  | nil =>
    rw [ofHistory_of_lt cooldown (by simp; omega)]
    rfl
  | append_singleton h x ih =>
    rw [run_append, ih, ← step_ofHistory cooldown hpos]
    rfl

/-! ## Failures and refusals -/

/-- A failure does not close a breaker that is not closed. -/
theorem step_failure_state_ne_closed {h : List (Step τ)} (now : τ)
    (hopen : (ofHistory threshold cooldown h).state ≠ .closed) :
    (step threshold cooldown (ofHistory threshold cooldown h) (.failure now)).state ≠ .closed := by
  have hle : threshold ≤ failuresIn h := by
    by_contra hlt
    rw [ofHistory_of_lt cooldown (Int.not_le.1 hlt)] at hopen
    exact hopen rfl
  have hle' : threshold ≤ failuresIn (h ++ [.failure now]) := by
    rw [failuresIn_failure]
    omega
  rw [step_failure_ofHistory, ofHistory_of_le cooldown hle', isProbed_failure]
  simp

/-- A call is refused at the threshold before the deadline, as long as no probe was let through. -/
theorem attempt_ofHistory_refused_iff (hpos : 1 ≤ threshold) (h : List (Step τ)) (now : τ) :
    ((ofHistory threshold cooldown h).attempt now).2 = false ↔
      threshold ≤ failuresIn h ∧ isProbed cooldown h = false ∧
        ∃ d, nextAttempt? cooldown h = some d ∧ ¬ d ≤ now := by
  rcases Int.lt_or_le (failuresIn h : Int) threshold with hlt | hle
  · rw [ofHistory_of_lt cooldown hlt]
    simp only [attempt, Bool.true_eq_false, false_iff]
    rintro ⟨hle, -⟩
    omega
  · obtain ⟨d, hd⟩ := nextAttempt?_of_le cooldown hpos hle
    rw [ofHistory_of_le cooldown hle]
    by_cases hprobed : isProbed cooldown h
    · simp [attempt, hprobed]
    · by_cases hlate : d ≤ now <;> simp [attempt, hprobed, hd, hlate, hle]

/-- A probe that was let through came after the deadline, so on a clock that does not go back the
deadline has passed. -/
theorem le_of_isProbed [Std.IsLinearPreorder τ] {h : List (Step τ)} {now d : τ}
    (hsorted : (readings h ++ [now]).Pairwise (· ≤ ·))
    (hprobed : isProbed cooldown h) (hd : nextAttempt? cooldown h = some d) : d ≤ now := by
  simp only [isProbed, hd, List.any_eq_true, Option.any_some, decide_eq_true_eq] at hprobed
  obtain ⟨t, ht, hdt⟩ := hprobed
  obtain ⟨x, hx, hxt⟩ := List.mem_filterMap.1 ht
  have hread : t ∈ readings h := by
    refine List.mem_filterMap.2 ⟨x, (List.rtakeWhile_suffix _ h).subset hx, ?_⟩
    cases x <;> simp_all [Step.attempt?, Step.reading?]
  have htn : t ≤ now :=
    (List.pairwise_append.1 hsorted).2.2 t hread now (List.mem_singleton_self now)
  exact Std.le_trans hdt htn

end Runs

/-- The law of histories.  The breaker is the function `ofHistory` of its history; a failure never
closes it; and where times are ordered and the clock does not go back, a call is refused exactly at
the threshold before the deadline. -/
theorem history_law [LE τ] [LT τ] [DecidableLE τ] [Add τ] {threshold : Int} (hpos : 1 ≤ threshold)
    (cooldown : τ) (h : List (Step τ)) :
    run threshold cooldown fresh h = ofHistory threshold cooldown h ∧
    (∀ now, (run threshold cooldown fresh h).state ≠ .closed →
      (step threshold cooldown (run threshold cooldown fresh h) (.failure now)).state ≠ .closed) ∧
    (∀ [Std.IsLinearPreorder τ] [Std.LawfulOrderLT τ] (now : τ),
      (readings h ++ [now]).Pairwise (· ≤ ·) →
      (((run threshold cooldown fresh h).attempt now).2 = false ↔
        threshold ≤ failuresIn h ∧ ∃ d, nextAttempt? cooldown h = some d ∧ now < d)) := by
  rw [run_eq_ofHistory cooldown hpos]
  refine ⟨rfl, fun now hopen => step_failure_state_ne_closed cooldown now hopen, ?_⟩
  intro _ _ now hsorted
  rw [attempt_ofHistory_refused_iff cooldown hpos]
  constructor
  · rintro ⟨hle, -, d, hd, hlate⟩
    exact ⟨hle, d, hd, Std.not_le.1 hlate⟩
  · rintro ⟨hle, d, hd, hlt⟩
    refine ⟨hle, ?_, d, hd, Std.not_le.2 hlt⟩
    by_contra hprobed
    exact Std.not_le.2 hlt (le_of_isProbed cooldown hsorted (by simpa using hprobed) hd)

/-- Two failures open a breaker, an attempt in time is refused, one after the cooldown is not. -/
theorem history_law_two_failures :
    1 ≤ (2 : Int) ∧
    run 2 10 fresh [.failure (0 : Int), .failure 1] =
      { state := .opened, failures := 2, deadline := some 11 } ∧
    ((run 2 10 fresh [.failure (0 : Int), .failure 1]).attempt 5).2 = false ∧
    run 2 10 fresh [.failure (0 : Int), .failure 1, .attempt 11] =
      { state := .halfOpen, failures := 2, deadline := some 11 } := by
  have hpos : 1 ≤ (2 : Int) := by decide
  have law := history_law hpos (10 : Int) [.failure 0, .failure 1]
  refine ⟨hpos, law.1.trans rfl, ?_, ?_⟩
  · refine (law.2.2 5 (by decide)).2 ⟨by decide, 11, rfl, by decide⟩
  · exact (history_law hpos (10 : Int) [.failure 0, .failure 1, .attempt 11]).1.trans rfl

end TestScribe.Gateway.Breaker
