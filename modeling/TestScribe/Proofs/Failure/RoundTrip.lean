import TestScribe.Failure.Envelope

/-!
# Failures that cross from one service to another

A service reports a failure under the status of its cause and with its code.  The two tell the cause
to the caller, and so the failure that is read from the answer is the one that was reported
(`ofAnswer_envelope_eq`); only an abort comes back as the timeout that it is to others.
-/

namespace TestScribe

namespace Cause

/-- Whether the code and the status of a cause tell the cause. -/
def isTold : Cause → Bool
  | unspecified | noRoute _ => false
  | _ => true

/-- The cause that a caller knows of. -/
def received : Cause → Cause
  | cancelled => timedOut
  | c => c

section Received

variable (c : Cause)

@[simp] theorem code_received : c.received.code = c.code := by
  cases c <;> rfl

@[simp] theorem status_received : c.received.status = c.status := by
  cases c <;> rfl

@[simp] theorem isTransient_received : c.received.isTransient = c.isTransient := by
  cases c <;> rfl

@[simp] theorem blamesService_received : c.received.blamesService = c.blamesService := by
  cases c <;> rfl

end Received

/-- An unexpected status has a code of its own and all other causes are found by their codes. -/
theorem causeOf_code {c : Cause} (htold : c.isTold = true) :
    Failure.causeOf c.status c.code = c.received := by
  cases c with
  | unspecified => cases htold
  | noRoute status => cases htold
  | unexpected status => exact if_pos rfl
  | _ => decide

end Cause

namespace Members

theorem get?_append (ms ms' : Members) (key : String) :
    (ms ++ ms').get? key = (ms.get? key).or (ms'.get? key) := by
  induction ms with
  | nil => rfl
  | cons m ms ih =>
    rw [List.cons_append, get?, get?]
    split
    · rfl
    · exact ih

end Members

namespace Failure

/-! ## Reading a report -/

section Members

variable {name key : String} (v : Json)

theorem get?_unlessNull_of_ne (hne : name ≠ key) :
    Members.get? (unlessNull name v) key = none := by
  cases v with
  | null => rfl
  | _ => exact if_neg hne

/-- A member that is left out reads as null. -/
theorem getD_get?_unlessNull : (Members.get? (unlessNull name v) name).getD .null = v := by
  cases v with
  | null => rfl
  | _ => simp [unlessNull, Members.get?]

theorem telling?_unlessNull :
    telling? (unlessNull name v) name = if v.truthy then some v else none := by
  cases v with
  | null => rfl
  | _ => simp only [telling?, unlessNull, Members.get?, if_true, Option.filter_some]

end Members

section Report

variable (f : Failure)

theorem get?_code_report : f.report.get? "code" = some (.str f.cause.code) := rfl

theorem telling?_message_report :
    telling? f.report "message" = if f.message.truthy then some f.message else none :=
  Option.filter_some

theorem telling?_correlationId_report :
    telling? f.report "correlationId" =
      if f.correlation.truthy then some f.correlation else none := by
  -- the details stand behind the id, under another name
  have hget : f.report.get? "correlationId" =
      Members.get? (unlessNull "correlationId" f.correlation) "correlationId" := by
    rw [report, Members.get?_append, get?_unlessNull_of_ne f.details (by decide), Option.or_none]
    rfl
  rw [telling?, hget]
  exact telling?_unlessNull f.correlation

theorem getD_get?_details_report : (f.report.get? "details").getD .null = f.details := by
  have hget : f.report.get? "details" =
      Members.get? (unlessNull "details" f.details) "details" := by
    rw [report, Members.get?_append, Members.get?_append,
      get?_unlessNull_of_ne f.correlation (by decide)]
    rfl
  rw [hget, getD_get?_unlessNull]

/-- What comes back from the report of a failure: code and status tell the cause, and a message and
an id that count as false are replaced. -/
theorem ofAnswer_envelope (fallback : String) (id : Json) :
    ofAnswer f.cause.status f.envelope fallback id =
      .ok { cause := causeOf f.cause.status f.cause.code
            message := if f.message.truthy then f.message else .str fallback
            details := f.details
            correlation := if f.correlation.truthy then f.correlation else id } := by
  have hreport : reportIn f.envelope = f.report := rfl
  simp only [ofAnswer, hreport, get?_code_report, getD_get?_details_report,
    telling?_message_report, telling?_correlationId_report]
  congr 2 <;> split <;> rfl

end Report

/-! ## Failures of answers -/

/-- Apart from its cause, the failure that an answer reports is what the report says. -/
theorem eq_of_ofAnswer {status : Int} {payload correlation : Json} {fallback : String} {f : Failure}
    (h : ofAnswer status payload fallback correlation = .ok f) :
    f = { cause := f.cause
          message := (telling? (reportIn payload) "message").getD (.str fallback)
          details := ((reportIn payload).get? "details").getD .null
          correlation := (telling? (reportIn payload) "correlationId").getD correlation } := by
  unfold ofAnswer at h
  dsimp only at h
  split at h
  · cases h
  · cases h
  · obtain rfl := Except.ok.inj h
    rfl
  · obtain rfl := Except.ok.inj h
    rfl

/-- What holds of the causes with codes of their own, and of the status of an answer that is not
expected, holds of the cause of the failure that the answer reports. -/
theorem cause_of_ofAnswer {P : Cause → Prop} {status : Int} {payload correlation : Json}
    {fallback : String} {f : Failure} (hcoded : ∀ c ∈ Cause.coded, P c)
    (hunexpected : P (.unexpected status))
    (h : ofAnswer status payload fallback correlation = .ok f) : P f.cause := by
  have hstatus : P (causeOfStatus status) := by
    unfold causeOfStatus
    split
    · exact hcoded _ (by decide)
    · exact hunexpected
  unfold ofAnswer at h
  dsimp only at h
  split at h
  · cases h
  · cases h
  · next code _ =>
    obtain rfl := Except.ok.inj h
    show P (causeOf status code)
    unfold causeOf
    split
    · exact hunexpected
    · cases hcode : Cause.ofCode? code with
      | none => exact hstatus
      | some c => exact hcoded c (List.mem_of_find?_eq_some hcode)
  · obtain rfl := Except.ok.inj h
    exact hstatus

/-- No answer is an abort. -/
theorem cause_ofAnswer_ne {status : Int} {payload correlation : Json} {fallback : String}
    {f : Failure} (h : ofAnswer status payload fallback correlation = .ok f) :
    f.cause ≠ .cancelled :=
  cause_of_ofAnswer (P := (· ≠ .cancelled)) (by decide) Cause.noConfusion h

/-! ## Round trip -/

theorem truthy_str {text : String} (hne : text ≠ "") : (Json.str text).truthy = true :=
  bne_iff_ne.2 hne

/-- A failure whose message is a text, and whose id is a text or missing, comes back from its report
as it was, but for an abort, which comes back as a timeout, and an id that it lacks, which is the
caller's.  So code and status stay the same, another try may help as before, and the failure speaks
of the health of the service as before. -/
theorem ofAnswer_envelope_eq (f : Failure) (fallback : String) (id : Json)
    (htold : f.cause.isTold = true) (hmessage : ∃ text, f.message = .str text ∧ text ≠ "")
    (hid : f.correlation = .null ∨ ∃ own, f.correlation = .str own ∧ own ≠ "") :
    ∃ f', ofAnswer f.cause.status f.envelope fallback id = .ok f' ∧
      f' = { f.withCorrelation id with cause := f.cause.received } ∧
      f'.cause.code = f.cause.code ∧ f'.cause.status = f.cause.status ∧
      f'.cause.isTransient = f.cause.isTransient ∧
      f'.cause.blamesService = f.cause.blamesService := by
  have hanswer : ofAnswer f.cause.status f.envelope fallback id =
      .ok { f.withCorrelation id with cause := f.cause.received } := by
    rw [ofAnswer_envelope, Cause.causeOf_code htold]
    obtain ⟨cause, message, details, correlation⟩ := f
    obtain ⟨text, rfl, hne⟩ := hmessage
    rw [if_pos (truthy_str hne)]
    rcases hid with rfl | ⟨own, rfl, hown⟩
    · rfl
    · rw [if_pos (truthy_str hown)]
      rfl
  exact ⟨_, hanswer, rfl, Cause.code_received _, Cause.status_received _,
    Cause.isTransient_received _, Cause.blamesService_received _⟩

/-- An aborted call without an id is reported as a timeout of the call that the caller made. -/
theorem ofAnswer_envelope_eq_cancelled :
    ∃ f', ofAnswer 504 (late .cancelled "generator" .null (.int 0)).envelope "failed" (.str "c7") =
        .ok f' ∧
      f' = late .timedOut "generator" (.str "c7") (.int 0) ∧ f'.cause.isTransient = true := by
  obtain ⟨f', hanswer, hf', -, -, htransient, -⟩ :=
    ofAnswer_envelope_eq (late .cancelled "generator" .null (.int 0)) "failed" (.str "c7") rfl
      ⟨_, rfl, by decide⟩ (.inl rfl)
  exact ⟨f', hanswer, hf', htransient⟩

end Failure

end TestScribe
