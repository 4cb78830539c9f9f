import TestScribe.Gateway.Desk
import TestScribe.Proofs.Gateway.Operations
import TestScribe.Proofs.Gateway.PipelineRun
import TestScribe.Proofs.Service.Envelopes

/-!
# Requests at the desk

What becomes of a request for a test, read off the desk before it: its body, what the limiter of its
client says, and the course of the run of the pipeline that it starts (`Desk.run_handling`).  What
is sent on the way is what that run sends, and so nothing if no run is started.
-/

namespace TestScribe.Gateway.Desk

open Transport TestScribe.Flow Service

/-! ## Journals -/

/-- The desk once records were written. -/
def noted (d : Desk) (rs : List Journal.Record) : Desk :=
  Journaling.setJournal (Journaling.journal d ++ rs.map .record) d

theorem noted_nil (d : Desk) : d.noted [] = d := by
  simp [noted, Journaling.setJournal, Journaling.journal]

theorem noted_noted (d : Desk) (rs rs' : List Journal.Record) :
    (d.noted rs).noted rs' = d.noted (rs ++ rs') := by
  simp [noted, Journaling.setJournal, Journaling.journal]

theorem run_note (d : Desk) (severity : Journal.Severity) (name message : String)
    (fields : Members) :
    ∃ r, Flow.run (Flow.note severity name message fields) d = (.ok (), d.noted [r]) :=
  ⟨_, rfl⟩

/-- What was sent from one desk to a later one. -/
def HasSent (d d' : Desk) (calls : List Call) : Prop :=
  Client.HasSent d.client calls d'.client

theorem HasSent.sent_eq {d d' : Desk} {calls : List Call} (h : HasSent d d' calls) :
    Flow.sent d d' = calls := by
  obtain ⟨es, hes, hcalls⟩ := h
  exact (Flow.sent_eq hes).trans hcalls

theorem HasSent.noted {d d' : Desk} {calls : List Call} (h : HasSent d d' calls)
    (rs : List Journal.Record) : HasSent d (d'.noted rs) calls := by
  have hrecords : Client.HasSent d'.client [] (d'.noted rs).client :=
    ⟨rs.map .record, rfl, callsIn_records rs⟩
  have hboth := Client.HasSent.append h hrecords
  rwa [List.append_nil] at hboth

/-! ## The limiter -/

section Limiter

variable (s : Settings) (client : String) (d : Desk)

/-- What the limiter of a client says to a request. -/
def admission : Admission Float :=
  (ClientLimiters.acquire (quota s) client d.client.askedAt d.limiters).1

/-- The gateway as a client once a limiter has looked at the clock. -/
def clientAfter : Client :=
  { d.client with clock := { d.client.clock with used := d.client.clock.used + 1 } }

/-- The desk once the limiter of a client was asked. -/
def asked : Desk :=
  { client := d.clientAfter
    limiters := (ClientLimiters.acquire (quota s) client d.client.askedAt d.limiters).2 }

theorem run_askLimiter :
    Flow.run (askLimiter s client) d = (.ok (d.admission s client), d.asked s client) := rfl

end Limiter

section Passing

variable {w : Surroundings} {r : Service.Request} {d : Desk} (id : String)

theorem run_passLimiter_of_allowed (h : d.admission w.settings r.client = .allowed) :
    Flow.run (passLimiter w r id) d = (.ok (), d.asked w.settings r.client) := by
  unfold passLimiter
  rw [run_bind_of_ok (run_askLimiter w.settings r.client d), h]
  rfl

theorem run_passLimiter_of_never (h : d.admission w.settings r.client = .never) :
    Flow.run (passLimiter w r id) d =
      (.error (.defect .badIndex), d.asked w.settings r.client) := by
  unfold passLimiter
  rw [run_bind_of_ok (run_askLimiter w.settings r.client d), h]
  rfl

theorem run_passLimiter_of_wait {t : Float} (h : d.admission w.settings r.client = .wait t) :
    ∃ rs, Flow.run (passLimiter w r id) d =
      (.error (.failure (tooMany t id)), (d.asked w.settings r.client).noted rs) := by
  unfold passLimiter
  rw [run_bind_of_ok (run_askLimiter w.settings r.client d), h]
  obtain ⟨record, hnote⟩ := run_note (d.asked w.settings r.client) .warning "services.gateway_app"
    ("Rate limit exceeded for " ++ r.client)
    [("correlation_id", .str id), ("service", .str w.settings.serviceName)]
  dsimp only
  rw [run_bind_of_ok hnote]
  exact ⟨_, rfl⟩

end Passing

/-! ## Tests -/

/-- What is given back for the end of a run: the test, if it is valid. -/
def validated (id : String) (v : Except Problem Validation.Verdict) :
    Except Problem Generation.TestFile := do
  let v ← v
  if v.valid then return v.test else .error (.failure (notValid v.issues id))

section Run

variable (w : Surroundings) (q : Request) (id : String) {scripts : Peer → Script} {d : Desk}

theorem over_eq {c : Client} (h : ∀ p, c.links p = .remote (scripts p)) : c.over scripts = c := by
  have hlinks : (fun p => Link.remote (scripts p)) = c.links := (funext h).symm
  unfold Client.over
  rw [hlinks]

theorem keeps_isRemote_call {α : Type} (p : Peer) (path : String) (body : Json) (name : String)
    (reader : Wire.Reader α) (id : Option String) :
    Keeps Client.isRemote (Client.call w p path body name reader id) :=
  fun c => Client.call_isRemote w p path body name reader id c

theorem keeps_isRemote_makeTest (given : Option String) (options : Option Generation.Options) :
    Keeps Client.isRemote (makeTest w q given options) := by
  have hjournal : ∀ es (c : Client), (Journaling.setJournal es c).isRemote = c.isRemote :=
    fun _ _ => rfl
  unfold makeTest
  refine (keeps_note hjournal _ _ _ _).bind fun _ => ?_
  refine (keeps_isRemote_call w _ _ _ _ _ _).bind fun a => ?_
  refine (keeps_isRemote_call w _ _ _ _ _ _).bind fun t => ?_
  refine (keeps_isRemote_call w _ _ _ _ _ _).bind fun v => ?_
  exact (keeps_note hjournal _ _ _ _).bind fun _ => keeps_pure _

/-- Making a test at the desk takes the course of the run that it starts. -/
theorem run_validTest (h : ∀ p, d.client.links p = .remote (scripts p)) :
    ∃ d', Flow.run (validTest w q id) d =
        (validated id (courseOf w q (some id) none scripts d.client).verdict, d') ∧
      HasSent d d' (courseOf w q (some id) none scripts d.client).calls ∧
      d'.limiters = d.limiters ∧ d'.client.isRemote = d.client.isRemote := by
  obtain ⟨hverdict, hsent⟩ := run_makeTest w q (some id) none scripts d.client
  rw [over_eq h] at hverdict hsent
  have hremote := keeps_isRemote_makeTest w q (some id) none d.client
  have hclient : Flow.run (asClient (makeTest w q (some id) none)) d =
      ((courseOf w q (some id) none scripts d.client).verdict,
        { d with client := (Flow.run (makeTest w q (some id) none) d.client).2 }) := by
    unfold asClient
    rw [run_within, hverdict]
  refine ⟨{ d with client := (Flow.run (makeTest w q (some id) none) d.client).2 }, ?_, hsent, rfl,
    hremote⟩
  unfold validTest
  cases hcourse : (courseOf w q (some id) none scripts d.client).verdict with
  | error p =>
    rw [hcourse] at hclient
    exact run_bind_of_error hclient
  | ok v =>
    rw [hcourse] at hclient
    rw [run_bind_of_ok hclient]
    show _ = (if v.valid then (.ok v.test : Except Problem Generation.TestFile)
      else .error (.failure (notValid v.issues id)), _)
    cases v.valid with
    | true => rfl
    | false => rfl

end Run

/-! ## Handling -/

/-- What becomes of a request for a test, and what is sent for it. -/
structure Reception where
  outcome : Except Problem Generation.TestFile
  calls : List Call

/-- The reception of a request under an id: a body that is no JSON is rejected before the limiter is
asked, and one that cannot be read after that; else a run is started. -/
def reception (w : Surroundings) (r : Service.Request) (id : String) (scripts : Peer → Script)
    (d : Desk) : Reception :=
  match valueOf r with
  | .error f => { outcome := .error (.failure f), calls := [] }
  | .ok value =>
    match d.admission w.settings r.client with
    | .never => { outcome := .error (.defect .badIndex), calls := [] }
    | .wait t => { outcome := .error (.failure (tooMany t id)), calls := [] }
    | .allowed =>
      match readValue Request.read value with
      | .error f => { outcome := .error (.failure f), calls := [] }
      | .ok q =>
        let x := courseOf w q (some id) none scripts d.clientAfter
        { outcome := validated id x.verdict, calls := x.calls }

/-- A request is let in: its client may ask, and its body is read as `q`. -/
structure Admits (w : Surroundings) (r : Service.Request) (d : Desk) (q : Request) : Prop where
  allowed : d.admission w.settings r.client = .allowed
  body : ∃ value, valueOf r = .ok value ∧ readValue Request.read value = .ok q

section Reception

variable {w : Surroundings} {r : Service.Request} {d : Desk} (id : String)
  (scripts : Peer → Script)

/-- A request that is let in starts a run. -/
theorem reception_of_admits {q : Request} (h : Admits w r d q) :
    reception w r id scripts d =
      { outcome := validated id (courseOf w q (some id) none scripts d.clientAfter).verdict
        calls := (courseOf w q (some id) none scripts d.clientAfter).calls } := by
  obtain ⟨hallowed, value, hvalue, hread⟩ := h
  unfold reception
  rw [hvalue]
  dsimp only
  rw [hallowed]
  dsimp only
  rw [hread]

/-- Whatever is sent for a request, it was let in. -/
theorem admits_of_calls (h : (reception w r id scripts d).calls ≠ []) :
    ∃ q, Admits w r d q := by
  unfold reception at h
  split at h
  · exact absurd rfl h
  · next value hvalue =>
    split at h
    · exact absurd rfl h
    · exact absurd rfl h
    · next hallowed =>
      split at h
      · exact absurd rfl h
      · next q hread => exact ⟨q, hallowed, value, hvalue, hread⟩

/-- A test is given back if the run that a request starts has come to a valid one. -/
theorem reception_eq_ok {t : Generation.TestFile}
    (h : (reception w r id scripts d).outcome = .ok t) :
    ∃ q v, Admits w r d q ∧
      (courseOf w q (some id) none scripts d.clientAfter).verdict = .ok v ∧
      v.valid = true ∧ t = v.test := by
  unfold reception at h
  split at h
  · cases h
  · next value hvalue =>
    split at h
    · cases h
    · cases h
    · next hallowed =>
      split at h
      · cases h
      · next q hread =>
        obtain ⟨v, hv, hvalid⟩ := Course.bind_eq_ok_iff.1 h
        split at hvalid
        · next hv' =>
          exact ⟨q, v, ⟨hallowed, value, hvalue, hread⟩, hv, hv', (Except.ok.inj hvalid).symm⟩
        · cases hvalid

/-- The rule for failures of a reception: the body is rejected, or the limiter refuses, or the run
has failed, or its test is not valid. -/
theorem failure_of_reception {P : Failure → Prop} {f : Failure}
    (hinvalid : ∀ issues, P (invalid issues)) (hrefused : ∀ t, P (tooMany t id))
    (hnotValid : ∀ issues, P (notValid issues id))
    (hrun : ∀ q, Admits w r d q →
      (courseOf w q (some id) none scripts d.clientAfter).verdict = .error (.failure f) → P f)
    (h : (reception w r id scripts d).outcome = .error (.failure f)) : P f := by
  unfold reception at h
  split at h
  · next f' hvalue =>
    obtain rfl := Problem.failure.inj (Except.error.inj h)
    obtain ⟨issues, rfl⟩ := eq_invalid_of_valueOf hvalue
    exact hinvalid issues
  · next value hvalue =>
    split at h
    · cases h
    · obtain rfl := Problem.failure.inj (Except.error.inj h)
      exact hrefused _
    · next hallowed =>
      split at h
      · next f' hread =>
        obtain rfl := Problem.failure.inj (Except.error.inj h)
        obtain ⟨issues, rfl⟩ := eq_invalid_of_readValue hread
        exact hinvalid issues
      · next q hread =>
        rcases Course.bind_eq_error_iff.1 h with hfailed | ⟨v, -, hvalid⟩
        · exact hrun q ⟨hallowed, value, hvalue, hread⟩ hfailed
        · split at hvalid
          · cases hvalid
          · obtain rfl := Problem.failure.inj (Except.error.inj hvalid)
            exact hnotValid _

end Reception

/-- What becomes of a request is a test, or a problem, which may be one of the client. -/
inductive Becomes :
    Except Problem (Service.Outcome Desk) → Except Problem Generation.TestFile → Prop
  | data (t : Generation.TestFile) : Becomes (.ok (.data t.toJson)) (.ok t)
  | rejection (f : Failure) : Becomes (.ok (.rejection f)) (.error (.failure f))
  | problem (p : Problem) : Becomes (.error p) (.error p)

/-- What the gateway does for a request for a test. -/
def handling (w : Surroundings) (r : Service.Request) (id : String) :
    Flow Desk (Service.Outcome Desk) :=
  taking (passLimiter w) Request.read
    (fun q id => do return .data (← validTest w q id).toJson) r id

/-- What a desk shows after a request, apart from its journal: the limiters go on if they were
asked, the breakers only if a run was started, and services over the network stay there. -/
structure Follows (w : Surroundings) (r : Service.Request) (d d' : Desk) : Prop where
  limiters : d'.limiters = match valueOf r with
    | .error _ => d.limiters
    | .ok _ => (d.asked w.settings r.client).limiters
  breakers : d.admission w.settings r.client ≠ .allowed →
    d'.client.breakers = d.client.breakers
  isRemote : d'.client.isRemote = d.client.isRemote

theorem Follows.noted {w : Surroundings} {r : Service.Request} {d d' : Desk}
    (h : Follows w r d d') (rs : List Journal.Record) : Follows w r d (d'.noted rs) :=
  ⟨h.limiters, h.breakers, h.isRemote⟩

/-- A request is received as its body, the limiter and the services say. -/
theorem run_handling (w : Surroundings) (r : Service.Request) (id : String)
    {scripts : Peer → Script} {d : Desk} (h : ∀ p, d.client.links p = .remote (scripts p)) :
    ∃ result d', Flow.run (handling w r id) d = (result, d') ∧
      Becomes result (reception w r id scripts d).outcome ∧
      HasSent d d' (reception w r id scripts d).calls ∧ Follows w r d d' := by
  have hasked : HasSent d (d.asked w.settings r.client) [] := ⟨[], (List.append_nil _).symm, rfl⟩
  unfold handling taking reception
  cases hvalue : valueOf r with
  | error f =>
    exact ⟨_, d, rfl, .rejection f, ⟨[], (List.append_nil _).symm, rfl⟩,
      ⟨by rw [hvalue], fun _ => rfl, rfl⟩⟩
  | ok value =>
    have hfollows : Follows w r d (d.asked w.settings r.client) :=
      ⟨by rw [hvalue], fun _ => rfl, rfl⟩
    dsimp only
    cases hadmission : d.admission w.settings r.client with
    | never =>
      rw [run_bind_of_error (run_passLimiter_of_never id hadmission)]
      exact ⟨_, _, rfl, .problem _, hasked, hfollows⟩
    | wait t =>
      obtain ⟨rs, hpass⟩ := run_passLimiter_of_wait id hadmission
      rw [run_bind_of_error hpass]
      exact ⟨_, _, rfl, .problem _, hasked.noted rs, hfollows.noted rs⟩
    | allowed =>
      rw [run_bind_of_ok (run_passLimiter_of_allowed id hadmission)]
      cases hread : readValue Request.read value with
      | error f => exact ⟨_, _, rfl, .rejection f, hasked, hfollows⟩
      | ok q =>
        dsimp only
        have hlinks : ∀ p, (d.asked w.settings r.client).client.links p = .remote (scripts p) := h
        obtain ⟨d', hrun, hsent, hlimiters, hremote⟩ := run_validTest w q id hlinks
        change _ = (validated id (courseOf w q (some id) none scripts d.clientAfter).verdict, d')
          at hrun
        have hfollows' : Follows w r d d' :=
          ⟨by rw [hvalue]; exact hlimiters, fun hne => absurd hadmission hne, hremote⟩
        rcases hvalid :
          validated id (courseOf w q (some id) none scripts d.clientAfter).verdict with p | t
        · rw [hvalid] at hrun
          rw [run_bind_of_error hrun]
          exact ⟨_, d', rfl, .problem p, hsent, hfollows'⟩
        · rw [hvalid] at hrun
          rw [run_bind_of_ok hrun]
          exact ⟨_, d', rfl, .data t, hsent, hfollows'⟩

/-! ## Responses -/

/-- The response to a request that met with a defect. -/
def defectResponse (id : String) : Response :=
  { status := 500, correlation := id
    content := .json
      ((Failure.plain .internal "Internal server error.").withCorrelation (.str id)).envelope }

/-- The response that reports a failure. A report that cannot be written counts as a defect. -/
def failureResponse (id : String) (f : Failure) : Response :=
  if (f.withCorrelation (.str id)).envelope.isFinite then
    { status := f.cause.status, correlation := id
      content := .json (f.withCorrelation (.str id)).envelope }
  else defectResponse id

/-- What a request for a test comes to, given what becomes of it: a response, unless something is
waited for without end. -/
def responseTo (id : String) : Except Problem Generation.TestFile → Except Problem Response
  | .ok t => .ok { status := 200, correlation := id, content := .json (success t.toJson id) }
  | .error (.failure f) => .ok (failureResponse id f)
  | .error (.defect .endless) => .error (.defect .endless)
  | .error (.defect _) => .ok (defectResponse id)

theorem responseTo_of_ne_endless (id : String) {d : Defect} (h : d ≠ .endless) :
    responseTo id (.error (.defect d)) = .ok (defectResponse id) := by
  cases d with
  | endless => exact absurd rfl h
  | _ => rfl

theorem run_respondFailure (w : Surroundings) (r : Service.Request) (id : String) (f : Failure)
    (d : Desk) :
    ∃ rs, Flow.run (respondFailure w r id f) d = (.ok (failureResponse id f), d.noted rs) := by
  unfold respondFailure failureResponse
  dsimp only
  split
  · exact ⟨[_], rfl⟩
  · exact ⟨[_], rfl⟩

theorem run_conclude (w : Surroundings) (r : Service.Request) (id : String)
    {result : Except Problem (Service.Outcome Desk)} {outcome : Except Problem Generation.TestFile}
    (h : Becomes result outcome) (d : Desk) :
    ∃ rs, Flow.run (conclude w r id result) d = (responseTo id outcome, d.noted rs) := by
  cases h with
  | data t => exact ⟨[_], rfl⟩
  | rejection f => exact run_respondFailure w r id f d
  | problem p =>
    cases p with
    | defect x =>
      by_cases hend : x = .endless
      · subst hend
        exact ⟨[], Prod.ext rfl (noted_nil d).symm⟩
      · rw [conclude_of_ne_endless hend, responseTo_of_ne_endless id hend]
        exact ⟨[_], rfl⟩
    | failure f =>
      obtain ⟨record, hnote⟩ : ∃ record, Flow.run (noteFailure w id f) d =
          (.ok (), d.noted [record]) := ⟨_, rfl⟩
      obtain ⟨rs, hrespond⟩ := run_respondFailure w r id f (d.noted [record])
      refine ⟨[record] ++ rs, ?_⟩
      unfold conclude
      dsimp only
      rw [run_bind_of_ok hnote, hrespond, noted_noted]
      rfl

/-- The path of requests for a test. -/
def testPath : String := "/api/generate-test"

/-- A request for a test is answered as it is received. -/
theorem run_answer (w : Surroundings) {r : Service.Request} (hmethod : r.method = "POST")
    (hpath : r.path = testPath) {scripts : Peer → Script} {d : Desk}
    (h : ∀ p, d.client.links p = .remote (scripts p)) :
    ∃ d', Flow.run (answer w r) d =
        (responseTo (w.idOr r.correlation)
          (reception w r (w.idOr r.correlation) scripts d).outcome, d') ∧
      HasSent d d' (reception w r (w.idOr r.correlation) scripts d).calls ∧ Follows w r d d' := by
  have hdispatch : dispatch (routes w) r (w.idOr r.correlation) =
      handling w r (w.idOr r.correlation) := by
    unfold dispatch routes healthRoute
    rw [hmethod, hpath]
    rfl
  obtain ⟨result, d', hrun, hbecomes, hsent, hfollows⟩ :=
    run_handling w r (w.idOr r.correlation) h
  obtain ⟨rs, hconclude⟩ := run_conclude w r (w.idOr r.correlation) hbecomes d'
  refine ⟨d'.noted rs, ?_, hsent.noted rs, hfollows.noted rs⟩
  unfold answer serve
  dsimp only
  rw [hdispatch, run_bind_of_ok (run_outcome d _), hrun]
  exact hconclude

end TestScribe.Gateway.Desk
