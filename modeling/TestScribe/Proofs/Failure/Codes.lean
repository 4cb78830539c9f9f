import TestScribe.Proofs.Failure.RoundTrip

/-!
# Codes of reports

What the code of a report makes of an answer.  A code that is known stands for its cause, and
without one the status decides (`Typed`).  That holds of every payload but those whose code is a
list or an object: such a code cannot be looked up, and the answer ends in a defect
(`ofAnswer_of_compound`).
-/

namespace TestScribe

/-- A list or an object. -/
def Json.IsCompound : Json → Prop
  | .arr _ | .obj _ => True
  | _ => False

namespace Failure

/-! ## Reports and their codes -/

/-- A payload has a report: it is an object with an object under `error`. -/
def Reports (payload : Json) (report : Members) : Prop :=
  ∃ ms : Members, payload = .obj ms ∧ ms.get? "error" = some (.obj report)

/-- The report in a payload has the value `code` for its code. -/
def HasCode (payload code : Json) : Prop :=
  ∃ report, Reports payload report ∧ report.get? "code" = some code

/-- The code of the report in a payload is a list or an object. -/
def HasCompoundCode (payload : Json) : Prop :=
  ∃ code, HasCode payload code ∧ code.IsCompound

theorem reports_iff {payload : Json} {report : Members} :
    Reports payload report ↔ payload.get? "error" = some (.obj report) := by
  constructor
  · rintro ⟨ms, rfl, h⟩
    exact h
  · intro h
    obtain ⟨ms, hms, h⟩ := Option.bind_eq_some_iff.1 h
    cases payload with
    | obj ms' =>
      obtain rfl := Option.some.inj hms
      exact ⟨_, rfl, h⟩
    | _ => cases hms

theorem reportIn_of_reports {payload : Json} {report : Members} (h : Reports payload report) :
    reportIn payload = report := by
  rw [reportIn, reports_iff.1 h]

/-- A payload without a report counts as one with an empty report. -/
theorem reports_of_reportIn_ne_nil {payload : Json} (h : reportIn payload ≠ []) :
    Reports payload (reportIn payload) := by
  rw [reports_iff]
  unfold reportIn at h ⊢
  split
  · next report hreport => exact hreport
  · next hnone =>
    split at h
    · next report hreport => exact absurd hreport (hnone report)
    · exact absurd rfl h

/-- What a report says is what is found in it. -/
theorem exists_reports_get?_iff {payload value : Json} {name : String} :
    (∃ report, Reports payload report ∧ report.get? name = some value) ↔
      (reportIn payload).get? name = some value := by
  constructor
  · rintro ⟨report, hreport, h⟩
    rwa [reportIn_of_reports hreport]
  · intro h
    refine ⟨_, reports_of_reportIn_ne_nil fun hnil => ?_, h⟩
    rw [hnil] at h
    cases h

theorem hasCode_iff {payload code : Json} :
    HasCode payload code ↔ (reportIn payload).get? "code" = some code :=
  exists_reports_get?_iff

theorem HasCode.unique {payload code code' : Json} (h : HasCode payload code)
    (h' : HasCode payload code') : code = code' :=
  Option.some.inj ((hasCode_iff.1 h).symm.trans (hasCode_iff.1 h'))

/-! ## Known codes -/

/-- The code of a failure with the status of the answer. -/
def statusCode : String := "generic_upstream_error"

/-- The codes that stand for a cause by themselves. -/
def registry : List (String × Cause) :=
  [("validation_error", .badRequest), ("parse_error", .unparsable),
    ("ambiguous_component", .ambiguous), ("rate_limited", .rateLimited),
    ("upstream_error", .serviceFault), ("service_unavailable", .unavailable),
    ("service_timeout", .timedOut), ("internal_error", .internal),
    ("configuration_error", .misconfigured)]

/-- A payload has none of the codes that are known. -/
def LacksKnownCode (payload : Json) : Prop :=
  ¬ HasCode payload (.str statusCode) ∧ ∀ e ∈ registry, ¬ HasCode payload (.str e.1)

/-- The cause that an answer with the given status and payload has to have. -/
structure Typed (status : Int) (payload : Json) (cause : Cause) : Prop where
  unexpected : HasCode payload (.str statusCode) → cause = .unexpected status
  registered : ∀ e ∈ registry, HasCode payload (.str e.1) → cause = e.2
  unknown : LacksKnownCode payload →
    (500 ≤ status → cause = .unavailable) ∧ (status < 500 → cause = .unexpected status)

theorem causeOf_of_mem_registry {e : String × Cause} (he : e ∈ registry) (status : Int) :
    causeOf status e.1 = e.2 := by
  have hknown : ∀ e ∈ registry, e.1 ≠ Cause.unexpectedCode ∧ Cause.ofCode? e.1 = some e.2 := by
    decide
  obtain ⟨hne, hcode⟩ := hknown e he
  rw [causeOf, if_neg (mt eq_of_beq hne), hcode]
  rfl

theorem mem_registry_of_ofCode? {code : String} {c : Cause} (h : Cause.ofCode? code = some c) :
    (code, c) ∈ registry := by
  have hcoded : ∀ c ∈ Cause.coded, (c.code, c) ∈ registry := by decide
  have hcode : c.code = code := by simpa using List.find?_some h
  exact hcode ▸ hcoded c (List.mem_of_find?_eq_some h)

theorem causeOf_of_lacks {code : String} (hne : code ≠ statusCode)
    (hregistry : ∀ e ∈ registry, code ≠ e.1) (status : Int) :
    causeOf status code = causeOfStatus status := by
  have hother : ¬ (code == Cause.unexpectedCode) = true := mt eq_of_beq hne
  rw [causeOf, if_neg hother]
  cases hcode : Cause.ofCode? code with
  | none => rfl
  | some c => exact absurd rfl (hregistry _ (mem_registry_of_ofCode? hcode))

theorem causeOfStatus_eq (status : Int) :
    (500 ≤ status → causeOfStatus status = .unavailable) ∧
      (status < 500 → causeOfStatus status = .unexpected status) :=
  ⟨fun h => if_pos h, fun h => if_neg (by omega)⟩

/-- A code that is a text stands for what it is known for. -/
theorem typed_causeOf {status : Int} {payload : Json} {code : String}
    (h : HasCode payload (.str code)) : Typed status payload (causeOf status code) where
  unexpected h' := by
    obtain rfl := Json.str.inj (h.unique h')
    rfl
  registered e he h' := by
    obtain rfl := Json.str.inj (h.unique h')
    exact causeOf_of_mem_registry he status
  unknown hlacks := by
    rw [causeOf_of_lacks (fun heq => hlacks.1 (heq ▸ h)) fun e he heq => hlacks.2 e he (heq ▸ h)]
    exact causeOfStatus_eq status

/-- Without a code that is a text the status decides. -/
theorem typed_causeOfStatus {status : Int} {payload : Json}
    (h : ∀ code, ¬ HasCode payload (.str code)) : Typed status payload (causeOfStatus status) where
  unexpected h' := absurd h' (h _)
  registered _ _ h' := absurd h' (h _)
  unknown _ := causeOfStatus_eq status

/-! ## Answers -/

section OfAnswer

variable {status : Int} {payload correlation : Json} {fallback : String} {f : Failure}

theorem ofAnswer_of_compound (h : HasCompoundCode payload) :
    ofAnswer status payload fallback correlation = .error .wrongType := by
  obtain ⟨code, hcode, hcompound⟩ := h
  rw [hasCode_iff] at hcode
  cases code with
  | arr items => simp [ofAnswer, hcode]
  | obj members => simp [ofAnswer, hcode]
  | _ => exact hcompound.elim

/-- Every other payload makes a failure of the cause that it has to have. -/
theorem ofAnswer_typed (h : ¬ HasCompoundCode payload) :
    ∃ f, ofAnswer status payload fallback correlation = .ok f ∧ Typed status payload f.cause := by
  unfold ofAnswer
  dsimp only
  split
  · next items hcode => exact absurd ⟨_, hasCode_iff.2 hcode, trivial⟩ h
  · next members hcode => exact absurd ⟨_, hasCode_iff.2 hcode, trivial⟩ h
  · next code hcode => exact ⟨_, rfl, typed_causeOf (hasCode_iff.2 hcode)⟩
  · next hnone =>
    exact ⟨_, rfl, typed_causeOfStatus fun code hcode => hnone code (hasCode_iff.1 hcode)⟩

theorem message_ofAnswer (h : ofAnswer status payload fallback correlation = .ok f) :
    f.message = (telling? (reportIn payload) "message").getD (.str fallback) := by
  rw [eq_of_ofAnswer h]

end OfAnswer

end Failure

end TestScribe
