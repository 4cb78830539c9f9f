import TestScribe.Proofs.Failure.RoundTrip
import TestScribe.Proofs.Gateway.PipelineRun

/-!
# Where the failures of a run come from

The failure of a run is that of a stage, and the failure of a stage is that of a reply, or of data
that cannot be read, or the refusal of a breaker.  What holds of all of these holds of the failure
of the run; each such property is proved by the rules below, one for each part
(`Client.failure_of_dataOf`, `Client.Stage.failure_of_result`, `Course.of_verdict_eq_error`).
-/

namespace TestScribe.Gateway

open Transport Service

namespace Client

variable {P : Failure → Prop} {p : Peer} {f : Failure}

/-- The rule for replies: a reply that is a failure met with trouble, reports an error, or holds no
data. -/
theorem failure_of_dataOf {id : Json} {r : Reply} (hmishap : ∀ m, P (mishapFailure p id m))
    (hmalformed : ∀ text, P (malformed p id text))
    (hreport : ∀ a fallback f, r = .answer a → isError a.status = true →
      Failure.ofAnswer a.status (a.body?.getD .null) fallback id = .ok f → P f)
    (h : dataOf p id r = .error (.failure f)) : P f := by
  unfold dataOf at h
  split at h
  · obtain rfl := Problem.failure.inj (Except.error.inj h)
    exact hmishap _
  · next a =>
    split at h
    · obtain rfl := Problem.failure.inj (Except.error.inj h)
      exact hmishap _
    · cases h
    · unfold dataIn at h
      split at h
      · next herror =>
        split at h
        · next f' hanswer =>
          obtain rfl := Problem.failure.inj (Except.error.inj h)
          exact hreport a _ _ rfl herror hanswer
        · cases h
      · split at h
        · cases h
        · obtain rfl := Problem.failure.inj (Except.error.inj h)
          exact hmalformed _

/-- The rule for stages. -/
theorem Stage.failure_of_result {α : Type} {k : Stage α} {id : String} {w : Surroundings}
    {b : Breaker Float} {t : Float} {script : Script}
    (hrefusal : P ((b.attempt t).1.refusal k.peer.name t (.str id)))
    (hmalformed : ∀ text, P (malformed k.peer (.str id) text))
    (hanswer : ∀ n < k.requests id w b t script, ∀ f,
      k.answer id script n = .error (.failure f) → P f)
    (h : k.result id w b t script = .error (.failure f)) : P f := by
  unfold Stage.result at h
  unfold Stage.requests at hanswer
  split at h
  · next hadmitted =>
    split at h
    · cases h
    · next hwritable =>
      rw [if_pos ⟨hadmitted, hwritable⟩] at hanswer
      unfold Stage.verdict at h
      dsimp only at h
      split at h
      · cases h
      · unfold concluded at h
        split at h
        · next e he =>
          obtain rfl := Except.error.inj h
          exact hanswer _ (Nat.lt_succ_self _) f he
        · split at h
          · cases h
          · obtain rfl := Problem.failure.inj (Except.error.inj h)
            exact hmalformed _
  · obtain rfl := Problem.failure.inj (Except.error.inj h)
    exact hrefusal

end Client

namespace Course

variable {x : Course}

/-- The rule for runs: the problem of a run is that of a stage whose requests are among its own. -/
theorem of_verdict_eq_error {P : Prop} {p : Problem}
    (hstage : ∀ {α : Type} (k : Client.Stage α) (n : Nat), (x.callsOf k n).Sublist x.calls →
      x.result k n = .error p → P)
    (h : x.verdict = .error p) : P := by
  unfold verdict at h
  rcases bind_eq_error_iff.1 h with h₁ | ⟨a, h₁, h⟩
  · exact hstage _ _ (List.sublist_append_left _ _) h₁
  · have hcalls : x.calls = x.callsOf x.analysisStage 0 ++ (x.callsOf (x.generationStage a) 1 ++
        callsAfter (x.generation a) fun t => x.callsOf (x.validationStage a t) 2) := by
      unfold calls
      rw [h₁]
      rfl
    rcases bind_eq_error_iff.1 h with h₂ | ⟨t, h₂, h⟩
    · refine hstage _ _ ?_ h₂
      rw [hcalls]
      exact (List.sublist_append_left _ _).trans (List.sublist_append_right _ _)
    · rcases bind_eq_error_iff.1 h with h₃ | ⟨v, -, h⟩
      · refine hstage _ _ ?_ h₃
        rw [hcalls, h₂]
        exact (List.sublist_append_right _ _).trans (List.sublist_append_right _ _)
      · cases h

end Course

/-! ## Statuses -/

/-- A failure is reported under the status of an error. -/
def IsReportedAsError (f : Failure) : Prop :=
  400 ≤ f.cause.status

namespace Client

variable {p : Peer} {f : Failure}

theorem isReportedAsError_mishapFailure (p : Peer) (id : Json) (m : Mishap) :
    IsReportedAsError (mishapFailure p id m) := by
  unfold IsReportedAsError mishapFailure
  cases m.trouble with
  | late => exact (by decide : (400 : Int) ≤ 504)
  | unreachable => exact (by decide : (400 : Int) ≤ 503)
  | other => exact (by decide : (400 : Int) ≤ 500)

theorem isReportedAsError_dataOf {id : Json} {r : Reply}
    (h : dataOf p id r = .error (.failure f)) : IsReportedAsError f := by
  have hcoded : ∀ c ∈ Cause.coded, 400 ≤ c.status := by decide
  refine failure_of_dataOf (isReportedAsError_mishapFailure p id) (fun _ => ?_)
    (fun a fallback f _ herror hanswer => ?_) h
  · exact (by decide : (400 : Int) ≤ 500)
  · have hstatus : 400 ≤ a.status := by
      have hboth := (Bool.and_eq_true _ _).mp herror
      exact of_decide_eq_true hboth.1
    exact Failure.cause_of_ofAnswer hcoded hstatus hanswer

end Client

/-- Whatever a run fails with, it is reported under the status of an error. -/
theorem Course.isReportedAsError_verdict {x : Course} {f : Failure}
    (h : x.verdict = .error (.failure f)) : IsReportedAsError f := by
  refine Course.of_verdict_eq_error (fun k n _ hresult => ?_) h
  refine Client.Stage.failure_of_result ?_ (fun _ => ?_) (fun n _ f hf => ?_) hresult
  · exact (by decide : (400 : Int) ≤ 503)
  · exact (by decide : (400 : Int) ≤ 500)
  · exact Client.isReportedAsError_dataOf hf

end TestScribe.Gateway
