import TestScribe.Proofs.Failure.Codes
import TestScribe.Proofs.Gateway.Labels
import TestScribe.Proofs.Gateway.VisitRuns

/-!
# Answers that report an error

An answer with the status of an error ends a request in the failure that its report stands for, and
a body that is no JSON counts as one without a report.  Only a report whose code is a list or an
object ends the request in a defect instead (`error_answers_typed`).
-/

namespace TestScribe.Gateway.Client

open Transport TestScribe.Flow Failure

/-- The value that the body of an answer holds; null if it is no JSON. -/
def payloadOf (a : Answer) : Json :=
  a.body?.getD .null

variable {p : Peer} {a : Answer}

/-! ## One answer -/

theorem isError_of_status (hlow : 400 ≤ a.status) (hhigh : a.status < 600) :
    isError a.status = true := by
  simp [isError, hlow, hhigh]

theorem dataOf_of_compound (id : Json) (hcomplete : a.ending = .complete)
    (herror : isError a.status = true) (h : HasCompoundCode (payloadOf a)) :
    dataOf p id (.answer a) = .error (.defect .wrongType) := by
  simp only [dataOf, hcomplete, dataIn, herror, if_true]
  rw [← payloadOf, ofAnswer_of_compound h]

/-- The failure of an answer is of the cause that its report has to have. -/
theorem dataOf_typed (id : Json) (hcomplete : a.ending = .complete)
    (herror : isError a.status = true) (h : ¬ HasCompoundCode (payloadOf a)) :
    ∃ f, dataOf p id (.answer a) = .error (.failure f) ∧
      Typed a.status (payloadOf a) f.cause ∧
      f.message = (telling? (reportIn (payloadOf a)) "message").getD
        (.str ("Unexpected response from " ++ p.name)) := by
  obtain ⟨f, hf, htyped⟩ : ∃ f, ofAnswer a.status (payloadOf a)
      ("Unexpected response from " ++ p.name) id = .ok f ∧ Typed a.status (payloadOf a) f.cause :=
    ofAnswer_typed h
  refine ⟨f, ?_, htyped, message_ofAnswer hf⟩
  simp only [dataOf, hcomplete, dataIn, herror, if_true]
  rw [← payloadOf, hf]

/-! ## Requests -/

/-- A payload makes a failure of the cause that its code stands for, or that its status gives it if
it has no known code, just if its code is no list and no object; and so does every answer with the
status of an error to every request, whatever its body. -/
theorem error_answers_typed (s : Service.Surroundings) (p : Peer) :
    (∀ status payload fallback id,
      (¬ HasCompoundCode payload → ∃ f,
        ofAnswer status payload fallback id = .ok f ∧ Typed status payload f.cause) ∧
      (HasCompoundCode payload → ofAnswer status payload fallback id = .error .wrongType)) ∧
    ∀ (method path : String) (body : Option Json) (id : Option String) (c c' : Client)
      (a : Answer),
      Flow.run (ask s p (callOf p method path body id)) c = (.ok (.answer a), c') →
      a.ending = .complete → 400 ≤ a.status → a.status < 600 →
      (¬ HasCompoundCode (payloadOf a) → ∃ f,
        Flow.run (request s p method path body id) c = (.error (.failure f), c') ∧
          Typed a.status (payloadOf a) f.cause) ∧
      (HasCompoundCode (payloadOf a) →
        Flow.run (request s p method path body id) c = (.error (.defect .wrongType), c')) := by
  refine ⟨fun status payload fallback id => ⟨ofAnswer_typed, ofAnswer_of_compound⟩, ?_⟩
  intro method path body id c c' a hask hcomplete hlow hhigh
  have herror := isError_of_status hlow hhigh
  rw [request_eq, run_bind_of_ok hask, run_resume]
  constructor
  · intro h
    obtain ⟨f, hf, htyped, -⟩ := dataOf_typed (p := p) (.ofString? id) hcomplete herror h
    exact ⟨f, by rw [hf], htyped⟩
  · intro h
    rw [dataOf_of_compound _ hcomplete herror h]

/-- An answer that reports a syntax error. -/
def syntaxAnswer : Answer :=
  { status := 422, text := "\x7b\"error\":\x7b\"code\":\"parse_error\",\"message\":\"No.\"\x7d\x7d"
    ending := .complete }

/-- An answer that reports a failure with a list for its code. -/
def listedAnswer : Answer :=
  { status := 503, text := "\x7b\"error\":\x7b\"code\":[],\"message\":\"m\"\x7d\x7d"
    ending := .complete }

/-- Services that all give one answer. -/
def allSaying (a : Answer) : Peer → Script :=
  fun _ => { first := .answer a, rest := [] }

/-- A request to such a service that can be written gets this answer. -/
theorem run_ask_allSaying {s : Service.Surroundings} {call : Call} (h : objection? call = none)
    (a : Answer) :
    ∃ c', Flow.run (ask s p call) (newClient.over (allSaying a)) = (.ok (.answer a), c') := by
  have hrun :=
    run_ask_of_writable (p := p) s h (allSaying a p) 0 [] (newClient.over (allSaying a))
  rw [Script.after_zero, advance_nil rfl] at hrun
  exact ⟨_, hrun⟩

theorem objection?_analyze :
    objection? (callOf .analysis "POST" Service.analyzePath none (some "c7")) = none := by
  decide +kernel

theorem hasCode_syntaxAnswer : HasCode (payloadOf syntaxAnswer) (.str "parse_error") := by
  have hcode : ((reportIn (payloadOf syntaxAnswer)).get? "code").bind Json.string? =
      some "parse_error" := by
    decide +kernel
  exact hasCode_iff.2 (eq_str_of_string? hcode)

theorem hasCode_listedAnswer : HasCode (payloadOf listedAnswer) (.arr []) := by
  have hcode : (((reportIn (payloadOf listedAnswer)).get? "code").bind Json.items?).any
      List.isEmpty = true := by
    decide +kernel
  rw [hasCode_iff]
  revert hcode
  cases (reportIn (payloadOf listedAnswer)).get? "code" with
  | none => exact nofun
  | some v =>
    cases v with
    | arr items =>
      intro hempty
      rw [List.isEmpty_iff.1 hempty]
    | _ => exact nofun

theorem hasCompoundCode_listedAnswer : HasCompoundCode (payloadOf listedAnswer) :=
  ⟨_, hasCode_listedAnswer, trivial⟩

/-- A reported syntax error is one for the caller, and a list for a code a defect. -/
theorem error_answers_typed_syntax :
    (∃ f c', Flow.run (request someSurroundings .analysis "POST" Service.analyzePath none
        (some "c7")) (newClient.over (allSaying syntaxAnswer)) = (.error (.failure f), c') ∧
      f.cause = .unparsable) ∧
    HasCompoundCode (payloadOf listedAnswer) ∧
    ofAnswer 503 (payloadOf listedAnswer) "m" .null = .error .wrongType := by
  have hcode := hasCode_syntaxAnswer
  have hplain : ¬ HasCompoundCode (payloadOf syntaxAnswer) := by
    rintro ⟨code, hcode', hcompound⟩
    obtain rfl := hcode.unique hcode'
    exact hcompound
  obtain ⟨c', hask⟩ := run_ask_allSaying (s := someSurroundings) objection?_analyze syntaxAnswer
  obtain ⟨hpayload, hanswer⟩ := error_answers_typed someSurroundings .analysis
  obtain ⟨f, hf, htyped⟩ :=
    (hanswer _ _ _ _ _ c' _ hask rfl (by decide) (by decide)).1 hplain
  exact ⟨⟨f, c', hf, htyped.registered ("parse_error", .unparsable) (by decide) hcode⟩,
    hasCompoundCode_listedAnswer,
    (hpayload 503 _ "m" .null).2 hasCompoundCode_listedAnswer⟩

/-- An answer under status 503 has no known code, and yet ends the request in no failure at all. -/
theorem listedAnswer_untyped :
    listedAnswer.status = 503 ∧ listedAnswer.ending = .complete ∧
      LacksKnownCode (payloadOf listedAnswer) ∧
      (¬ ∃ f, ofAnswer 503 (payloadOf listedAnswer) "m" .null = .ok f) ∧
      ¬ ∃ f, (Flow.run (request someSurroundings .analysis "POST" Service.analyzePath none
        (some "c7")) (newClient.over (allSaying listedAnswer))).1 = .error (.failure f) := by
  have hcompound := hasCompoundCode_listedAnswer
  have hother : ∀ code, ¬ HasCode (payloadOf listedAnswer) (.str code) := fun code hcode =>
    Json.noConfusion (hasCode_listedAnswer.unique hcode)
  refine ⟨rfl, rfl, ⟨hother _, fun e _ => hother _⟩, ?_, ?_⟩
  · rintro ⟨f, hf⟩
    cases (ofAnswer_of_compound hcompound).symm.trans hf
  · rintro ⟨f, hf⟩
    obtain ⟨c', hask⟩ := run_ask_allSaying (s := someSurroundings) objection?_analyze listedAnswer
    rw [request_eq, run_bind_of_ok hask, run_resume, dataOf_of_compound _ rfl rfl hcompound] at hf
    cases hf

end TestScribe.Gateway.Client
