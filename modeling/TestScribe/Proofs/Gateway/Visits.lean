import TestScribe.Proofs.Gateway.EndlessAnswers
import TestScribe.Proofs.Gateway.FailureSources
import TestScribe.Proofs.Gateway.Reception
import TestScribe.Proofs.Gateway.SlidingWindow

/-!
# Visits at the desk

A client asks the gateway for a test.  What the visit comes to is read off the desk that it finds:
the limiter of the client, the breakers, and the replies that the services still have to give
(`Visit.Lawful`).  Every visit obeys this law (`lawful_visitOf`).
-/

namespace TestScribe

/-! ## Reports that can be written -/

namespace Json

theorem membersFinite_append (ms ms' : Members) :
    membersFinite (ms ++ ms') = (membersFinite ms && membersFinite ms') := by
  induction ms with
  | nil => rfl
  | cons m ms ih => rw [List.cons_append, membersFinite, membersFinite, ih, Bool.and_assoc]

theorem membersFinite_unlessNull (name : String) (v : Json) :
    membersFinite (Failure.unlessNull name v) = v.isFinite := by
  cases v with
  | null => rfl
  | _ => exact Bool.and_true _

theorem isFinite_stringsJson (xs : List String) : (Component.stringsJson xs).isFinite = true := by
  show allFinite (xs.map .str) = true
  induction xs with
  | nil => rfl
  | cons x xs ih => exact ih

end Json

namespace Failure

theorem isFinite_toJson (f : Failure) :
    f.toJson.isFinite = (f.message.isFinite && f.correlation.isFinite && f.details.isFinite) := by
  have hfirst : Json.membersFinite [("message", f.message), ("code", .str f.cause.code)] =
      f.message.isFinite := Bool.and_true _
  show Json.membersFinite f.report = _
  rw [report, Json.membersFinite_append, Json.membersFinite_append, hfirst,
    Json.membersFinite_unlessNull, Json.membersFinite_unlessNull]

/-- A report that can be written can be written under an id. -/
theorem isFinite_envelope_withCorrelation {f : Failure} (h : f.toJson.isFinite = true)
    (id : String) : (f.withCorrelation (.str id)).envelope.isFinite = true := by
  have hreport : (f.withCorrelation (.str id)).envelope.isFinite =
      (f.withCorrelation (.str id)).toJson.isFinite := Bool.and_true _
  rw [isFinite_toJson] at h
  rw [hreport, isFinite_toJson]
  obtain ⟨cause, message, details, correlation⟩ := f
  cases correlation with
  | _ => exact h

end Failure

namespace Gateway

open Transport TestScribe.Flow Service

/-! ## Stages that went well, and one that has failed -/

namespace Course

/-- All stages of a run went well. -/
structure Passes (x : Course) (a : Component.Analysis) (t : Generation.TestFile)
    (v : Validation.Verdict) : Prop where
  analysis : x.analysis = .ok a
  generation : x.generation a = .ok t
  validation : x.validation a t = .ok v

/-- A stage of a run has failed. -/
def Fails (x : Course) (f : Failure) : Prop :=
  x.analysis = .error (.failure f) ∨
    (∃ a, x.analysis = .ok a ∧ x.generation a = .error (.failure f)) ∨
    ∃ a t, x.analysis = .ok a ∧ x.generation a = .ok t ∧ x.validation a t = .error (.failure f)

variable {x : Course}

theorem Passes.verdict {a : Component.Analysis} {t : Generation.TestFile} {v : Validation.Verdict}
    (h : x.Passes a t v) : x.verdict = .ok (x.completed a t v) := by
  unfold Course.verdict
  rw [h.analysis]
  show (x.generation a >>= _) = _
  rw [h.generation]
  show (x.validation a t >>= _) = _
  rw [h.validation]
  rfl

theorem exists_passes {v : Validation.Verdict} (h : x.verdict = .ok v) :
    ∃ a t u, x.Passes a t u ∧ v = x.completed a t u := by
  obtain ⟨a, hanalysis, h⟩ := bind_eq_ok_iff.1 h
  obtain ⟨t, hgeneration, h⟩ := bind_eq_ok_iff.1 h
  obtain ⟨u, hvalidation, h⟩ := bind_eq_ok_iff.1 h
  exact ⟨a, t, u, ⟨hanalysis, hgeneration, hvalidation⟩, (Except.ok.inj h).symm⟩

theorem Fails.verdict {f : Failure} (h : x.Fails f) : x.verdict = .error (.failure f) := by
  refine bind_eq_error_iff.2 ?_
  rcases h with h₁ | ⟨a, h₁, h₂⟩ | ⟨a, t, h₁, h₂, h₃⟩
  · exact .inl h₁
  · exact .inr ⟨a, h₁, bind_eq_error_iff.2 (.inl h₂)⟩
  · exact .inr ⟨a, h₁, bind_eq_error_iff.2 (.inr ⟨t, h₂, bind_eq_error_iff.2 (.inl h₃)⟩)⟩

end Course

namespace Desk

/-! ## Visits -/

/-- A request for a test, and what the gateway is given for it. -/
structure Posting where
  freshId : String
  now : Time.Instant
  correlation : Option String
  contentType : Option String
  body : String
  client : String

namespace Posting

/-- A posting as the gateway receives it. -/
def request (p : Posting) : Service.Request :=
  { method := "POST", path := testPath, correlation := p.correlation
    contentType := p.contentType, body := p.body, client := p.client }

/-- What the gateway is given for a posting. -/
def surroundings (s : Settings) (p : Posting) : Surroundings :=
  { settings := s, freshId := p.freshId, now := p.now }

/-- The id of a posting. -/
def id (s : Settings) (p : Posting) : String :=
  (p.surroundings s).idOr p.correlation

end Posting

/-- A posting that a desk was given: the desk before it, what came of it, and the desk after it. -/
structure Visit where
  posting : Posting
  before : Desk
  result : Except Problem Response
  after : Desk

/-- The visit that a posting is to a desk. -/
def visitOf (s : Settings) (d : Desk) (p : Posting) : Visit :=
  { posting := p, before := d
    result := (Flow.run (answer (p.surroundings s) p.request) d).1
    after := (Flow.run (answer (p.surroundings s) p.request) d).2 }

namespace Visit

variable (s : Settings) (scripts : Peer → Script) (v : Visit)

/-- What was sent for a visit. -/
def sent : List Call :=
  Flow.sent v.before v.after

/-- The time at which a visit asks its limiter. -/
def time : Float :=
  v.before.client.askedAt

/-- The status under which a visit was answered. -/
def status? : Option Int :=
  v.result.toOption.map (·.status)

/-- A visit is let in with the request `q`. -/
def Admits (q : Request) : Prop :=
  Desk.Admits (v.posting.surroundings s) v.posting.request v.before q

/-- The course of the run of the pipeline that a visit starts with the request `q`. -/
def course (q : Request) : Course :=
  courseOf (v.posting.surroundings s) q (some (v.posting.id s)) none scripts v.before.clientAfter

/-- A visit was answered with the report of an error. -/
def Reports (status : Int) (code : String) (message details : Json) : Prop :=
  ∃ response correlation, v.result = .ok response ∧ response.status = status ∧
    response.content = .json (.obj [("success", .bool false),
      ("error", .obj ([("message", message), ("code", .str code)] ++
        Failure.unlessNull "correlationId" correlation ++ Failure.unlessNull "details" details))])

/-- A reply that was taken for a visit never comes to its end. -/
def IsStuck : Prop :=
  ∃ p, ∃ n < v.sent.countP (fun c => c.service = p.name), IsEndless ((scripts p).reply n)

/-- The law of a visit.  It is answered, unless it waits for a reply that has no end.  One that is
not let in by its limiter leaves no trace at the services and at the breakers, and is told to wait.
A test is given back exactly to a visit that is let in and for which all stages went well, the last
with a test that is valid; it is the finished test.  A test that is not valid is rejected with its
issues, and a failure of a stage is reported as it is, if it can be written. -/
structure Lawful : Prop where
  answered : (∃ response, v.result = .ok response) ∨
    v.result = .error (.defect .endless) ∧ v.IsStuck scripts
  admitted : v.sent ≠ [] → ∃ q, v.Admits s q
  refused : v.before.admission s v.posting.client ≠ .allowed →
    v.sent = [] ∧ v.after.client.breakers = v.before.client.breakers
  limited : ∀ value, valueOf v.posting.request = .ok value →
    v.before.admission s v.posting.client ≠ .allowed → 1 ≤ s.rateLimitMax →
    ∃ wait, v.before.admission s v.posting.client = .wait wait ∧
      (Decimal.isFinite (Decimal.roundTo 1 wait) = true →
        v.Reports 429 "rate_limited" (.str "Too many requests. Please try again later.")
          (.obj [("retryAfter", .float (Decimal.roundTo 1 wait))]))
  met_iff : v.status? = some 200 ↔
    ∃ q a t u, v.Admits s q ∧ (v.course s scripts q).Passes a t u ∧ u.valid = true
  met : ∀ q a t u, v.Admits s q → (v.course s scripts q).Passes a t u → u.valid = true →
    ∃ response, v.result = .ok response ∧ response.content = .json (success
      (finished u.test t (enriched a q) q v.posting.now).toJson (v.posting.id s))
  notValid : ∀ q a t u, v.Admits s q → (v.course s scripts q).Passes a t u → u.valid = false →
    v.Reports 400 "validation_error" (.str "Generated test failed validation.")
      (Component.stringsJson u.issues)
  failed : ∀ q f, v.Admits s q → (v.course s scripts q).Fails f → f.toJson.isFinite = true →
    v.Reports f.cause.status f.cause.code f.message f.details

end Visit

/-! ## One visit -/

theorem eq_ok_of_toOption {ε α : Type} {r : Except ε α} {a : α} (h : r.toOption = some a) :
    r = .ok a := by
  cases r with
  | error e => cases h
  | ok b => exact congrArg _ (Option.some.inj h)

section Answers

variable {v : Visit} {id : String} {f : Failure} {outcome : Except Problem Generation.TestFile}

/-- A failure that can be written is reported. -/
theorem Visit.reports_of_result (h : v.result = responseTo id (.error (.failure f)))
    (hfinite : f.toJson.isFinite = true) :
    v.Reports f.cause.status f.cause.code f.message f.details := by
  have hresponse : responseTo id (.error (.failure f)) =
      .ok { status := f.cause.status, correlation := id
            content := .json (f.withCorrelation (.str id)).envelope } :=
    congrArg _ (if_pos (Failure.isFinite_envelope_withCorrelation hfinite id))
  rw [hresponse] at h
  refine ⟨_, (f.withCorrelation (.str id)).correlation, h, rfl, ?_⟩
  obtain ⟨cause, message, details, correlation⟩ := f
  cases correlation with
  | _ => rfl

/-- Only a test is given back with success. -/
theorem exists_of_status_responseTo {response : Response}
    (h : responseTo id outcome = .ok response) (h200 : response.status = 200)
    (herror : ∀ f, outcome = .error (.failure f) → IsReportedAsError f) :
    ∃ t, outcome = .ok t := by
  have h500 : (500 : Int) ≠ 200 := by decide
  match outcome with
  | .ok t => exact ⟨t, rfl⟩
  | .error (.defect d) =>
    by_cases hend : d = .endless
    · subst hend
      cases h
    · rw [responseTo_of_ne_endless id hend] at h
      obtain rfl := Except.ok.inj h
      exact absurd h200 h500
  | .error (.failure f) =>
    have hstatus : 400 ≤ f.cause.status := herror f rfl
    obtain rfl := Except.ok.inj h
    unfold failureResponse at h200
    split at h200
    · change f.cause.status = 200 at h200
      omega
    · exact absurd h200 h500

/-- A visit that is not answered waits without end. -/
theorem result_cases (h : v.result = responseTo id outcome) :
    (∃ response, v.result = .ok response) ∨ v.result = .error (.defect .endless) := by
  rw [h]
  match outcome with
  | .ok t => exact .inl ⟨_, rfl⟩
  | .error (.failure f) => exact .inl ⟨_, rfl⟩
  | .error (.defect d) =>
    by_cases hend : d = .endless
    · subst hend
      exact .inr rfl
    · exact .inl ⟨_, responseTo_of_ne_endless id hend⟩

end Answers

section One

variable {s : Settings} {scripts : Peer → Script} {d : Desk} {p : Posting}

/-- The reception of a posting. -/
def Posting.reception (s : Settings) (p : Posting) (scripts : Peer → Script) (d : Desk) :
    Reception :=
  Desk.reception (p.surroundings s) p.request (p.id s) scripts d

theorem run_visitOf (h : ∀ p, d.client.links p = .remote (scripts p)) :
    (visitOf s d p).result = responseTo (p.id s) (p.reception s scripts d).outcome ∧
      (visitOf s d p).sent = (p.reception s scripts d).calls ∧
      Follows (p.surroundings s) p.request d (visitOf s d p).after := by
  obtain ⟨d', hrun, hsent, hfollows⟩ :=
    run_answer (p.surroundings s) (r := p.request) rfl rfl h
  have hafter : (visitOf s d p).after = d' := congrArg Prod.snd hrun
  refine ⟨congrArg Prod.fst hrun, ?_, hafter ▸ hfollows⟩
  show Flow.sent d (visitOf s d p).after = _
  rw [hafter, hsent.sent_eq]
  rfl

/-- Whatever a posting fails with, it is reported under the status of an error. -/
theorem isReportedAsError_reception {f : Failure}
    (h : (p.reception s scripts d).outcome = .error (.failure f)) : IsReportedAsError f :=
  failure_of_reception _ scripts (fun _ => (by decide : (400 : Int) ≤ 400))
    (fun _ => (by decide : (400 : Int) ≤ 429)) (fun _ => (by decide : (400 : Int) ≤ 400))
    (fun _ _ hrun => Course.isReportedAsError_verdict hrun) h

/-- A limiter that allows requests at all tells those that it refuses to wait. -/
theorem exists_wait_of_refused {client : String} (hmax : 1 ≤ s.rateLimitMax)
    (h : d.admission s client ≠ .allowed) : ∃ wait, d.admission s client = .wait wait := by
  cases hadmission : d.admission s client with
  | allowed => exact absurd hadmission h
  | wait t => exact ⟨t, rfl⟩
  | never =>
    unfold admission at hadmission
    rw [ClientLimiters.acquire_fst] at hadmission
    exact absurd hadmission (Limiter.acquire_ne_never (q := quota s) hmax _ _)

theorem outcome_of_wait {value : Option Json} {wait : Float}
    (hvalue : valueOf p.request = .ok value)
    (hwait : d.admission s p.client = .wait wait) :
    (p.reception s scripts d).outcome = .error (.failure (tooMany wait (p.id s))) := by
  change d.admission (p.surroundings s).settings p.request.client = _ at hwait
  unfold Posting.reception Desk.reception
  rw [hvalue]
  dsimp only
  rw [hwait]

section Admitted

variable {q : Request} (hq : (visitOf s d p).Admits s q)
include hq

theorem outcome_of_admits :
    (p.reception s scripts d).outcome =
      validated (p.id s) ((visitOf s d p).course s scripts q).verdict :=
  congrArg Reception.outcome (reception_of_admits (p.id s) scripts hq)

theorem outcome_of_passes {a : Component.Analysis} {t : Generation.TestFile}
    {u : Validation.Verdict} (h : ((visitOf s d p).course s scripts q).Passes a t u) :
    (p.reception s scripts d).outcome =
      if u.valid then .ok (((visitOf s d p).course s scripts q).completed a t u).test
      else .error (.failure (notValid u.issues (p.id s))) := by
  rw [outcome_of_admits hq, h.verdict]
  rfl

end Admitted

theorem isFinite_tooMany {wait : Float} (h : Decimal.isFinite (Decimal.roundTo 1 wait) = true)
    (id : String) : (tooMany wait id).toJson.isFinite = true := by
  rw [Failure.isFinite_toJson]
  simp [tooMany, Json.isFinite, Json.membersFinite, h]

theorem isFinite_notValid (issues : List String) (id : String) :
    (notValid issues id).toJson.isFinite = true := by
  rw [Failure.isFinite_toJson]
  simp [notValid, Json.isFinite, Json.isFinite_stringsJson]

theorem lawful_visitOf (h : ∀ p, d.client.links p = .remote (scripts p)) :
    (visitOf s d p).Lawful s scripts := by
  obtain ⟨hresult, hsent, hfollows⟩ := run_visitOf (s := s) (p := p) h
  constructor
  case answered =>
    refine (result_cases hresult).imp_right fun hendless => ⟨hendless, ?_⟩
    exact exists_endless_of_answer _ h hendless
  case admitted =>
    intro hcalls
    rw [hsent] at hcalls
    exact admits_of_calls _ _ hcalls
  case refused =>
    intro hrefused
    refine ⟨?_, hfollows.breakers hrefused⟩
    rw [hsent]
    by_contra hcalls
    obtain ⟨q, hq⟩ := admits_of_calls _ _ hcalls
    exact hrefused hq.allowed
  case limited =>
    intro value hvalue hrefused hmax
    obtain ⟨wait, hwait⟩ := exists_wait_of_refused hmax hrefused
    refine ⟨wait, hwait, fun hfinite => ?_⟩
    have houtcome : (p.reception s scripts d).outcome = _ := outcome_of_wait hvalue hwait
    rw [houtcome] at hresult
    exact Visit.reports_of_result hresult (isFinite_tooMany hfinite _)
  case met_iff =>
    constructor
    · intro hstatus
      obtain ⟨response, hresponse, h200⟩ := Option.map_eq_some_iff.1 hstatus
      obtain ⟨test, htest⟩ := exists_of_status_responseTo
        (hresult.symm.trans (eq_ok_of_toOption hresponse)) h200
        fun f hf => isReportedAsError_reception hf
      obtain ⟨q, v, hq, hverdict, hvalid, -⟩ := reception_eq_ok _ _ htest
      obtain ⟨a, t, u, hpasses, rfl⟩ := Course.exists_passes hverdict
      exact ⟨q, a, t, u, hq, hpasses, hvalid⟩
    · rintro ⟨q, a, t, u, hq, hpasses, hvalid⟩
      rw [Visit.status?, hresult, outcome_of_passes hq hpasses, hvalid]
      rfl
  case met =>
    intro q a t u hq hpasses hvalid
    rw [outcome_of_passes hq hpasses, hvalid] at hresult
    exact ⟨_, hresult, rfl⟩
  case notValid =>
    intro q a t u hq hpasses hvalid
    rw [outcome_of_passes hq hpasses, hvalid] at hresult
    exact Visit.reports_of_result hresult (isFinite_notValid _ _)
  case failed =>
    intro q f hq hfails hfinite
    rw [outcome_of_admits hq, hfails.verdict] at hresult
    exact Visit.reports_of_result hresult hfinite

end One

end Desk

end Gateway

end TestScribe
