import Mathlib.Algebra.Order.Group.Int
import TestScribe.Proofs.Breaker.History

/-!
# The cooldown of a breaker

Calls run at the same time: between the moment at which a call is let through and its end, other
calls are asked for and come to an end.  A failure that opens the breaker should keep all calls out
until the cooldown is over.  It does as long as no call that was let through before succeeds in the
meantime: during the cooldown a call is let through just if such a call has succeeded and too few
have failed since (`admits_in_cooldown_iff`).
-/

namespace TestScribe.Gateway.Breaker

variable {τ : Type}

/-! ## Histories that go on -/

section Appended

variable (h : List (Step τ)) {h' : List (Step τ)}

theorem failuresIn_append_of_success (hsuccess : ∃ x ∈ h', x.isSuccess = true) :
    failuresIn (h ++ h') = failuresIn h' := by
  induction h' using List.reverseRecOn with
  | nil => simp at hsuccess
  | append_singleton h' x ih =>
    rw [← List.append_assoc]
    cases x with
    | success => rw [failuresIn_success, failuresIn_success]
    | attempt now =>
      have hbefore : ∃ y ∈ h', y.isSuccess = true := by simpa [Step.isSuccess] using hsuccess
      rw [failuresIn_attempt, failuresIn_attempt, ih hbefore]
    | failure now =>
      have hbefore : ∃ y ∈ h', y.isSuccess = true := by simpa [Step.isSuccess] using hsuccess
      rw [failuresIn_failure, failuresIn_failure, ih hbefore]

theorem failuresIn_le_append (hsuccess : ¬ ∃ x ∈ h', x.isSuccess = true) :
    failuresIn h ≤ failuresIn (h ++ h') := by
  induction h' using List.reverseRecOn with
  | nil => simp
  | append_singleton h' x ih =>
    rw [← List.append_assoc]
    have hbefore : ¬ ∃ y ∈ h', y.isSuccess = true := fun ⟨y, hy, hy'⟩ =>
      hsuccess ⟨y, List.mem_append_left _ hy, hy'⟩
    cases x with
    | success => exact absurd ⟨.success, by simp, rfl⟩ hsuccess
    | attempt now =>
      rw [failuresIn_attempt]
      exact ih hbefore
    | failure now =>
      rw [failuresIn_failure]
      exact Nat.le_succ_of_le (ih hbefore)

theorem nextAttempt?_success [Add τ] (cooldown : τ) :
    nextAttempt? cooldown (h ++ [.success]) = nextAttempt? cooldown h := by
  simp [nextAttempt?, Step.failure?]

/-- After a failure the deadline is never before the end of its cooldown. -/
theorem exists_le_nextAttempt? [LE τ] [Std.IsLinearPreorder τ] [Add τ] [AddRightMono τ]
    (cooldown t : τ) (hlater : ∀ v ∈ readings h', t ≤ v) :
    ∃ d, nextAttempt? cooldown (h ++ .failure t :: h') = some d ∧ t + cooldown ≤ d := by
  induction h' using List.reverseRecOn with
  | nil => exact ⟨_, nextAttempt?_failure h t cooldown, Std.le_refl _⟩
  | append_singleton h' x ih =>
    have hbefore : ∀ v ∈ readings h', t ≤ v := fun v hv => hlater v (by
      rw [readings, List.filterMap_append]
      exact List.mem_append_left _ hv)
    rw [← List.cons_append, ← List.append_assoc]
    cases x with
    | attempt now =>
      rw [nextAttempt?_attempt]
      exact ih hbefore
    | success =>
      rw [nextAttempt?_success]
      exact ih hbefore
    | failure now =>
      have hnow : t ≤ now := hlater now (by simp [readings, Step.reading?])
      rw [nextAttempt?_failure]
      exact ⟨_, rfl, add_le_add_left hnow cooldown⟩

end Appended

/-! ## Calls at the same time -/

/-- A step that a call takes at a breaker. -/
structure Move (τ : Type) where
  call : Nat
  step : Step τ

/-- The steps of calls as the breaker sees them, whichever calls they are of. -/
def stepsOf (ms : List (Move τ)) : List (Step τ) :=
  ms.map (·.step)

/-- A breaker and the calls that it let through and that have not come to an end. -/
structure Traffic (τ : Type) where
  breaker : Breaker τ
  running : List Nat

namespace Traffic

/-- A breaker before the first call. -/
def calm : Traffic τ :=
  { breaker := fresh, running := [] }

/-- Whether a call can take a step: a call that runs is not asked for again, and only a call that
runs comes to an end. -/
def CanMove (s : Traffic τ) (m : Move τ) : Prop :=
  match m.step with
  | .attempt _ => m.call ∉ s.running
  | _ => m.call ∈ s.running

instance (s : Traffic τ) (m : Move τ) : Decidable (s.CanMove m) :=
  match m with
  | ⟨c, .attempt _⟩ => inferInstanceAs (Decidable (c ∉ s.running))
  | ⟨c, .success⟩ => inferInstanceAs (Decidable (c ∈ s.running))
  | ⟨c, .failure _⟩ => inferInstanceAs (Decidable (c ∈ s.running))

theorem mem_running_of_canMove {s : Traffic τ} {m : Move τ} (h : s.CanMove m)
    (hm : m.step.isSuccess = true) : m.call ∈ s.running := by
  unfold CanMove at h
  cases hstep : m.step with
  | attempt now => simp [hstep, Step.isSuccess] at hm
  | success => rwa [hstep] at h
  | failure now => simp [hstep, Step.isSuccess] at hm

variable [LE τ] [DecidableLE τ]

/-- Whether a call is let through. -/
def admits (s : Traffic τ) (now : τ) : Bool :=
  (s.breaker.attempt now).2

/-- The calls that run after a step of one of them. -/
def runningAfter (s : Traffic τ) (m : Move τ) : List Nat :=
  match m.step with
  | .attempt now => if s.admits now then m.call :: s.running else s.running
  | _ => s.running.erase m.call

variable [Add τ] (threshold : Int) (cooldown : τ)

/-- The traffic after a step of a call. -/
def move (s : Traffic τ) (m : Move τ) : Traffic τ :=
  { breaker := step threshold cooldown s.breaker m.step, running := s.runningAfter m }

/-- The traffic after steps of calls, one after another. -/
def moves (s : Traffic τ) (ms : List (Move τ)) : Traffic τ :=
  ms.foldl (move threshold cooldown) s

/-- Whether calls can take steps in the given order. -/
def Possible (s : Traffic τ) : List (Move τ) → Prop
  | [] => True
  | m :: ms => s.CanMove m ∧ Possible (s.move threshold cooldown m) ms

instance decidablePossible (s : Traffic τ) :
    (ms : List (Move τ)) → Decidable (s.Possible threshold cooldown ms)
  | [] => isTrue trivial
  | m :: ms =>
    have := decidablePossible (s.move threshold cooldown m) ms
    inferInstanceAs (Decidable (_ ∧ _))

variable (s : Traffic τ)

theorem moves_append (ms ms' : List (Move τ)) :
    s.moves threshold cooldown (ms ++ ms') =
      (s.moves threshold cooldown ms).moves threshold cooldown ms' :=
  List.foldl_append

theorem breaker_moves (ms : List (Move τ)) :
    (s.moves threshold cooldown ms).breaker = run threshold cooldown s.breaker (stepsOf ms) := by
  induction ms generalizing s with
  | nil => rfl
  | cons m ms ih => exact ih (s.move threshold cooldown m)

theorem breaker_moves_calm (ms : List (Move τ)) :
    (calm.moves threshold cooldown ms).breaker = run threshold cooldown fresh (stepsOf ms) :=
  breaker_moves threshold cooldown calm ms

theorem possible_append {ms ms' : List (Move τ)}
    (h : s.Possible threshold cooldown (ms ++ ms')) :
    (s.moves threshold cooldown ms).Possible threshold cooldown ms' := by
  induction ms generalizing s with
  | nil => exact h
  | cons m ms ih => exact ih (s.move threshold cooldown m) h.2

/-- While all calls are refused, no call begins to run. -/
theorem running_moves_subset {ms : List (Move τ)}
    (h : ∀ before m after now, ms = before ++ m :: after → m.step = .attempt now →
      (s.moves threshold cooldown before).admits now = false) :
    (s.moves threshold cooldown ms).running ⊆ s.running := by
  induction ms using List.reverseRecOn with
  | nil => exact List.Subset.refl _
  | append_singleton ms m ih =>
    have hbefore : (s.moves threshold cooldown ms).running ⊆ s.running :=
      ih fun before m' after now hms hm =>
        h before m' (after ++ [m]) now (by rw [hms]; simp) hm
    rw [moves_append]
    change (s.moves threshold cooldown ms).runningAfter m ⊆ s.running
    unfold runningAfter
    cases hstep : m.step with
    | attempt now =>
      simp only [h ms m [] now rfl hstep, Bool.false_eq_true, if_false]
      exact hbefore
    | success => exact List.Subset.trans List.erase_subset hbefore
    | failure now => exact List.Subset.trans List.erase_subset hbefore

end Traffic

/-! ## The cooldown -/

open Traffic

section Cooldown

variable [LE τ] [DecidableLE τ] [Add τ] {threshold : Int} {cooldown : τ}

/-- A breaker that is open has seen as many failures as the threshold asks for. -/
theorem le_failuresIn_of_opened (hpos : 1 ≤ threshold) {h : List (Step τ)}
    (hopened : (run threshold cooldown fresh h).state = .opened) : threshold ≤ failuresIn h := by
  rw [run_eq_ofHistory cooldown hpos] at hopened
  by_contra hlt
  rw [ofHistory_of_lt cooldown (Int.not_le.1 hlt)] at hopened
  cases hopened

variable [LT τ] [Std.IsLinearPreorder τ] [Std.LawfulOrderLT τ] [AddRightMono τ]

/-- Before the end of the cooldown of a failure that opened the breaker, a call is let through just
if some call has succeeded since and too few have failed after the last that did. -/
theorem attempt_in_cooldown_iff (hpos : 1 ≤ threshold) (h h' : List (Step τ)) {t u : τ}
    (hopened : (run threshold cooldown fresh (h ++ [.failure t])).state = .opened)
    (hclock : (readings (h ++ .failure t :: h') ++ [u]).Pairwise (· ≤ ·))
    (hearly : u < t + cooldown) :
    ((run threshold cooldown fresh (h ++ .failure t :: h')).attempt u).2 = true ↔
      (∃ x ∈ h', x.isSuccess = true) ∧ (failuresIn h' : Int) < threshold := by
  have hle := le_failuresIn_of_opened hpos hopened
  have hlater : ∀ v ∈ readings h', t ≤ v := by
    have hreadings : readings (h ++ .failure t :: h') = readings h ++ t :: readings h' := by
      simp [readings, Step.reading?]
    rw [hreadings] at hclock
    have htail := (List.pairwise_append.1 (List.pairwise_append.1 hclock).1).2.1
    exact (List.pairwise_cons.1 htail).1
  obtain ⟨d, hd, htd⟩ := exists_le_nextAttempt? h cooldown t hlater
  have hud : u < d := Std.lt_of_lt_of_le hearly htd
  -- the deadline has not passed, so only the count decides
  have hrefused : ((run threshold cooldown fresh (h ++ .failure t :: h')).attempt u).2 = false ↔
      threshold ≤ failuresIn (h ++ .failure t :: h') := by
    rw [run_eq_ofHistory cooldown hpos, attempt_ofHistory_refused_iff cooldown hpos]
    refine ⟨fun hrefused => hrefused.1, fun hreached => ⟨hreached, ?_, d, hd, Std.not_le.2 hud⟩⟩
    by_contra hprobed
    exact Std.not_le.2 hud (le_of_isProbed cooldown hclock (by simpa using hprobed) hd)
  rw [← Bool.not_eq_false, hrefused, List.append_cons, Int.not_le]
  by_cases hsuccess : ∃ x ∈ h', x.isSuccess = true
  · rw [failuresIn_append_of_success _ hsuccess]
    exact ⟨fun hlt => ⟨hsuccess, hlt⟩, fun hlt => hlt.2⟩
  · have hmore := failuresIn_le_append (h ++ [.failure t]) hsuccess
    exact ⟨fun hlt => absurd hlt (by omega), fun hlt => absurd hlt.1 hsuccess⟩

section Opened

variable (threshold cooldown) in
/-- The traffic when a call `c` of a new breaker has failed at `t`, after other steps. -/
def afterFailure (before : List (Move τ)) (c : Nat) (t : τ) : Traffic τ :=
  calm.moves threshold cooldown (before ++ [⟨c, .failure t⟩])

omit [LT τ] [Std.IsLinearPreorder τ] [Std.LawfulOrderLT τ] [AddRightMono τ] in
theorem moves_afterFailure (before after : List (Move τ)) (c : Nat) (t : τ) :
    (afterFailure threshold cooldown before c t).moves threshold cooldown after =
      calm.moves threshold cooldown (before ++ ⟨c, .failure t⟩ :: after) := by
  rw [afterFailure, ← moves_append, List.append_assoc]
  rfl

variable {before after : List (Move τ)} {c : Nat} {t u : τ}

omit [Add τ] [LT τ] [LE τ] [DecidableLE τ] [Std.IsLinearPreorder τ] [Std.LawfulOrderLT τ]
  [AddRightMono τ] in
theorem stepsOf_failure :
    stepsOf (before ++ ⟨c, .failure t⟩ :: after) =
      stepsOf before ++ .failure t :: stepsOf after := by
  simp [stepsOf]

variable (hpos : 1 ≤ threshold)
  (hopened : (afterFailure threshold cooldown before c t).breaker.state = .opened)
  (hearly : u < t + cooldown)

include hpos hopened hearly

theorem admits_afterFailure_iff
    (hclock : (readings (stepsOf (before ++ ⟨c, .failure t⟩ :: after)) ++ [u]).Pairwise (· ≤ ·)) :
    (calm.moves threshold cooldown (before ++ ⟨c, .failure t⟩ :: after)).admits u = true ↔
      (∃ m ∈ after, m.step.isSuccess = true) ∧ (failuresIn (stepsOf after) : Int) < threshold := by
  rw [afterFailure, breaker_moves_calm, stepsOf_failure] at hopened
  rw [stepsOf_failure] at hclock
  have hlaw := attempt_in_cooldown_iff hpos (stepsOf before) (stepsOf after) hopened hclock hearly
  rw [admits, breaker_moves_calm, stepsOf_failure, hlaw]
  refine and_congr_left fun _ => ⟨?_, ?_⟩
  · rintro ⟨x, hx, hsuccess⟩
    obtain ⟨m, hm, rfl⟩ := List.mem_map.1 hx
    exact ⟨m, hm, hsuccess⟩
  · rintro ⟨m, hm, hsuccess⟩
    exact ⟨m.step, List.mem_map_of_mem hm, hsuccess⟩

/-- Until a call succeeds, no call begins to run in the cooldown of a failure that opened the
breaker. -/
theorem running_subset_in_cooldown
    (hclock : (readings (stepsOf (before ++ ⟨c, .failure t⟩ :: after)) ++ [u]).Pairwise (· ≤ ·))
    (hnone : ∀ m ∈ after, m.step.isSuccess = false) :
    ((afterFailure threshold cooldown before c t).moves threshold cooldown after).running ⊆
      (afterFailure threshold cooldown before c t).running := by
  apply running_moves_subset
  intro asked m rest now hafter hm
  subst hafter
  -- the readings up to that call are sorted as well, and its own comes no later than the last one
  have hsplit : readings (stepsOf (before ++ ⟨c, .failure t⟩ :: (asked ++ m :: rest))) ++ [u] =
      (readings (stepsOf (before ++ ⟨c, .failure t⟩ :: asked)) ++ [now]) ++
        (readings (stepsOf rest) ++ [u]) := by
    simp [stepsOf, readings, Step.reading?, hm]
  rw [hsplit] at hclock
  obtain ⟨hbefore, -, hle⟩ := List.pairwise_append.1 hclock
  have hnow : now ≤ u := hle now (by simp) u (by simp)
  rw [moves_afterFailure, ← Bool.not_eq_true,
    admits_afterFailure_iff hpos hopened (Std.lt_of_le_of_lt hnow hearly) hbefore]
  rintro ⟨⟨m', hm', hsuccess⟩, -⟩
  rw [hnone m' (List.mem_append_left _ hm')] at hsuccess
  cases hsuccess

/-- The first call that succeeds in the cooldown ran already when the breaker opened. -/
theorem exists_running_of_success
    (hpossible : calm.Possible threshold cooldown (before ++ ⟨c, .failure t⟩ :: after))
    (hclock : (readings (stepsOf (before ++ ⟨c, .failure t⟩ :: after)) ++ [u]).Pairwise (· ≤ ·))
    (hsuccess : ∃ m ∈ after, m.step.isSuccess = true) :
    ∃ m ∈ after, m.step.isSuccess = true ∧
      m.call ∈ (afterFailure threshold cooldown before c t).running := by
  obtain ⟨m, hfind⟩ := Option.isSome_iff_exists.1
    (List.find?_isSome.2 hsuccess : (after.find? fun m => m.step.isSuccess).isSome)
  obtain ⟨hm, first, rest, hafter, hnone⟩ := List.find?_eq_some_iff_append.1 hfind
  refine ⟨m, List.mem_of_find?_eq_some hfind, hm, ?_⟩
  subst hafter
  have hcan : ((afterFailure threshold cooldown before c t).moves threshold cooldown
      first).CanMove m := by
    rw [moves_afterFailure]
    rw [← List.cons_append, ← List.append_assoc] at hpossible
    exact (possible_append threshold cooldown calm hpossible).1
  -- the clock is sorted up to that success as well
  have hsorted : (readings (stepsOf (before ++ ⟨c, .failure t⟩ :: first)) ++ [u]).Pairwise
      (· ≤ ·) := by
    refine hclock.sublist (List.Sublist.append_right (List.Sublist.filterMap _ ?_) [u])
    exact List.Sublist.map _ (by simp)
  apply running_subset_in_cooldown hpos hopened hearly hsorted fun m hm => by simpa using hnone m hm
  exact mem_running_of_canMove hcan hm

/-- When a failure has opened a breaker, a call that is asked for before the cooldown is over is let
through just if a call that ran when the breaker opened has succeeded in the meantime, and after
the last success fewer calls have failed than the threshold asks for. -/
theorem admits_in_cooldown_iff
    (hpossible : calm.Possible threshold cooldown (before ++ ⟨c, .failure t⟩ :: after))
    (hclock : (readings (stepsOf (before ++ ⟨c, .failure t⟩ :: after)) ++ [u]).Pairwise (· ≤ ·)) :
    (calm.moves threshold cooldown (before ++ ⟨c, .failure t⟩ :: after)).admits u = true ↔
      (∃ m ∈ after, m.step.isSuccess = true ∧
        m.call ∈ (afterFailure threshold cooldown before c t).running) ∧
      (failuresIn (stepsOf after) : Int) < threshold := by
  rw [admits_afterFailure_iff hpos hopened hearly hclock]
  refine and_congr_left fun _ => ⟨?_, ?_⟩
  · exact exists_running_of_success hpos hopened hearly hpossible hclock
  · rintro ⟨m, hm, hsuccess, -⟩
    exact ⟨m, hm, hsuccess⟩

end Opened

end Cooldown

/-- Two calls run, one fails and opens the breaker for thirty seconds, the other one succeeds: two
seconds after the failure a call is let through. -/
theorem admits_after_late_success :
    (calm.moves 1 (30 : Int)
      ([⟨0, .attempt 0⟩, ⟨1, .attempt 0⟩] ++ ⟨0, .failure 1⟩ :: [⟨1, .success⟩])).admits 3 = true :=
  (admits_in_cooldown_iff (by decide) (by decide) (by decide) (by decide) (by decide)).2
    ⟨⟨⟨1, .success⟩, List.mem_singleton_self _, rfl, by decide⟩, by decide⟩

/-- A breaker that opens does not keep calls out for its cooldown when calls run at the same
time. -/
theorem not_shut_for_cooldown :
    ¬ ∀ (threshold cooldown : Int), 1 ≤ threshold → 0 < cooldown →
      ∀ (before after : List (Move Int)) (c : Nat) (t u : Int),
        calm.Possible threshold cooldown (before ++ ⟨c, .failure t⟩ :: after) →
        (readings (stepsOf (before ++ ⟨c, .failure t⟩ :: after)) ++ [u]).Pairwise (· ≤ ·) →
        (calm.moves threshold cooldown before).breaker.state ≠ .opened →
        (afterFailure threshold cooldown before c t).breaker.state = .opened →
        u < t + cooldown →
        (calm.moves threshold cooldown (before ++ ⟨c, .failure t⟩ :: after)).admits u = false := by
  intro hshut
  have hrefused := hshut 1 30 (by decide) (by decide) [⟨0, .attempt 0⟩, ⟨1, .attempt 0⟩]
    [⟨1, .success⟩] 0 1 3 (by decide) (by decide) (by decide) (by decide) (by decide)
  exact absurd hrefused (by decide)

end TestScribe.Gateway.Breaker
