import TestScribe.Proofs.Journal.FlowRules
import TestScribe.Transport.Link
import TestScribe.Transport.Retry

/-!
# Attempts

The replies of a script one by one (`Script.reply`), and the rule for trying again
(`Trial.run_induction`): what holds before the first attempt, and is kept from one failed attempt to
the next, decides what holds when the trial ends.
-/

namespace TestScribe.Transport

open TestScribe.Flow

/-- Whether a reply never comes to its end. -/
def IsEndless (r : Reply) : Prop :=
  ∃ a, r = .answer a ∧ a.ending = .endless

/-! ## Replies of a script -/

namespace Script

/-- What is left of a script after a number of replies. -/
def after (s : Script) : Nat → Script
  | 0 => s
  | n + 1 => s.next.2.after n

/-- The reply that comes after `n` others. -/
def reply (s : Script) (n : Nat) : Reply :=
  (s.after n).first

@[simp] theorem after_zero (s : Script) : s.after 0 = s := rfl

@[simp] theorem next_fst (s : Script) : s.next.1 = s.first := by
  unfold next
  split <;> rfl

theorem after_succ (s : Script) (n : Nat) : s.after (n + 1) = (s.after n).next.2 := by
  induction n generalizing s with
  | zero => rfl
  | succ n ih => exact ih s.next.2

theorem after_add (s : Script) (m n : Nat) : s.after (m + n) = (s.after m).after n := by
  induction m generalizing s with
  | zero => rw [Nat.zero_add, after_zero]
  | succ m ih =>
    rw [Nat.succ_add]
    exact ih s.next.2

/-- The next reply after `n` others. -/
theorem next_after (s : Script) (n : Nat) : (s.after n).next = (s.reply n, s.after (n + 1)) := by
  rw [after_succ]
  exact Prod.ext (next_fst _) rfl

/-- The last reply of a script repeats. -/
theorem after_of_last {s : Script} (h : s.rest = []) (n : Nat) : s.after n = s := by
  induction n with
  | zero => rfl
  | succ n ih =>
    have hnext : s.next.2 = s := by
      unfold next
      rw [h]
    rw [after_succ, ih, hnext]

end Script

/-- Sending a request that can be written takes the next reply. -/
theorem send_of_writable {c : Call} (h : objection? c = none) (s : Script) (n : Nat) :
    send c (s.after n) = .ok (s.reply n, s.after (n + 1), [.call c]) := by
  unfold send
  rw [h, Script.next_after]

theorem send_of_objection {c : Call} {d : Defect} (h : objection? c = some d) (s : Script) :
    send c s = .error d := by
  unfold send
  rw [h]

/-- A request that cannot be written is not waited for. -/
theorem ne_endless_of_objection {c : Call} {d : Defect} (h : objection? c = some d) :
    d ≠ .endless := by
  unfold objection? at h
  split at h
  · cases h
    simp
  · split at h
    · cases h
      simp [unwritable]
    · cases h

/-! ## Trials -/

/-- Whether an attempt that came out so may be made again. -/
def isRetried {α : Type} : Except Problem α → Bool
  | .error (.failure f) => f.cause.isRetried
  | _ => false

theorem isRetried_iff {α : Type} {r : Except Problem α} :
    isRetried r = true ↔ ∃ f, r = .error (.failure f) ∧ f.cause.isRetried = true := by
  match r with
  | .ok _ => simp [isRetried]
  | .error (.defect _) => simp [isRetried]
  | .error (.failure f) => simp [isRetried]

namespace Trial

variable {σ α : Type} (t : Trial σ α)

/-- An attempt that is not made again is the end of the trial. -/
theorem run_of_final {left n : Nat} {s : σ} (h : isRetried (Flow.run t.attempt s).1 = false) :
    Flow.run (t.run left n) s = Flow.run t.attempt s := by
  rw [Trial.run.eq_def, run_bind_of_ok (run_outcome s t.attempt)]
  rcases hr : Flow.run t.attempt s with ⟨(f | d) | a, s'⟩
  · have : f.cause.isRetried = false := by simpa [hr, isRetried] using h
    simp [this]
  · rfl
  · rfl

/-- The last attempt failed: the failure is noted, and ends the trial. -/
theorem run_of_spent {n : Nat} {s s' : σ} {f : Failure}
    (h : Flow.run t.attempt s = (.error (.failure f), s')) (hf : f.cause.isRetried = true) :
    Flow.run (t.run 0 n) s =
      Flow.run (t.failed n f >>= fun _ => (Flow.fail f : Flow σ α)) s' := by
  rw [Trial.run.eq_def, run_bind_of_ok (run_outcome s t.attempt), h]
  simp [hf]

/-- Another attempt is made after a failure. -/
theorem run_of_again {left n : Nat} {s s' : σ} {f : Failure}
    (h : Flow.run t.attempt s = (.error (.failure f), s')) (hf : f.cause.isRetried = true) :
    Flow.run (t.run (left + 1) n) s =
      Flow.run ((t.failed n f >>= fun _ => t.again n f) >>= fun _ => t.run left (n + 1)) s' := by
  rw [Trial.run.eq_def, run_bind_of_ok (run_outcome s t.attempt), h, bind_assoc]
  simp [hf]

/-- The rule for trying again.  `before left n` holds before attempt `n` when `left` more may
follow, and `ended` at the end. -/
theorem run_induction (before : Nat → Nat → σ → Prop) (ended : Except Problem α × σ → Prop)
    (final : ∀ left n s, before left n s → isRetried (Flow.run t.attempt s).1 = false →
      ended (Flow.run t.attempt s))
    (spent : ∀ n s s' f, before 0 n s → Flow.run t.attempt s = (.error (.failure f), s') →
      f.cause.isRetried = true → ended (Flow.run (t.failed n f >>= fun _ => Flow.fail f) s'))
    (again : ∀ left n s s' f, before (left + 1) n s →
      Flow.run t.attempt s = (.error (.failure f), s') → f.cause.isRetried = true →
      match Flow.run (t.failed n f >>= fun _ => t.again n f) s' with
      | (.ok _, s'') => before left (n + 1) s''
      | (.error p, s'') => ended (.error p, s''))
    (left n : Nat) (s : σ) (h : before left n s) : ended (Flow.run (t.run left n) s) := by
  induction left generalizing n s with
  | zero =>
    by_cases hr : isRetried (Flow.run t.attempt s).1 = true
    · obtain ⟨f, hfail, hf⟩ := isRetried_iff.1 hr
      have hrun : Flow.run t.attempt s = (.error (.failure f), (Flow.run t.attempt s).2) :=
        Prod.ext hfail rfl
      rw [run_of_spent t hrun hf]
      exact spent n s _ f h hrun hf
    · rw [Bool.not_eq_true] at hr
      rw [run_of_final t hr]
      exact final 0 n s h hr
  | succ left ih =>
    by_cases hr : isRetried (Flow.run t.attempt s).1 = true
    · obtain ⟨f, hfail, hf⟩ := isRetried_iff.1 hr
      have hrun : Flow.run t.attempt s = (.error (.failure f), (Flow.run t.attempt s).2) :=
        Prod.ext hfail rfl
      have hnext := again left n s _ f h hrun hf
      rw [run_of_again t hrun hf, run_bind]
      rcases hgo : Flow.run (t.failed n f >>= fun _ => t.again n f) (Flow.run t.attempt s).2 with
        ⟨p | u, s''⟩ <;> rw [hgo] at hnext
      · exact hnext
      · exact ih (n + 1) s'' hnext
    · rw [Bool.not_eq_true] at hr
      rw [run_of_final t hr]
      exact final (left + 1) n s h hr

/-- A trial keeps what its parts keep. -/
theorem keeps_run {β : Type} {part : σ → β} (hattempt : Keeps part t.attempt)
    (hfailed : ∀ n f, Keeps part (t.failed n f)) (hagain : ∀ n f, Keeps part (t.again n f))
    (left n : Nat) : Keeps part (t.run left n) := by
  intro s
  refine run_induction t (fun _ _ s' => part s' = part s) (fun e => part e.2 = part s)
    ?_ ?_ ?_ left n s rfl
  · intro left n s' h _
    exact (hattempt s').trans h
  · intro n s' s'' f h hrun _
    have hs := hattempt s'
    rw [hrun] at hs
    exact (((hfailed n f).bind fun _ => keeps_fail f) s'').trans (hs.trans h)
  · intro left n s' s'' f h hrun _
    have hs := hattempt s'
    rw [hrun] at hs
    have hkept := ((hfailed n f).bind fun _ => hagain n f) s''
    rcases hgo : Flow.run (t.failed n f >>= fun _ => t.again n f) s'' with ⟨p | u, u'⟩ <;>
      rw [hgo] at hkept
    · exact hkept.trans (hs.trans h)
    · exact hkept.trans (hs.trans h)

end Trial

end TestScribe.Transport
