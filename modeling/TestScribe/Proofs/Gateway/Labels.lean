import TestScribe.Proofs.Gateway.EndlessAnswers
import TestScribe.Proofs.Gateway.FailureSources
import TestScribe.Proofs.Gateway.Reception

/-!
# The id of a request comes back

The gateway hands the id of a request on to the services, and reports their failures under it: a
failure that a service reports under the id that it was sent, or under none, becomes a failure under
that id (`correlation_verdict`).  So every response of the gateway is under the id of its request,
as are those of the services of the stages, and only a reply without end can keep a service from
responding (`every_answer_labelled`).
-/

namespace TestScribe.Gateway

open Transport TestScribe.Flow Service

/-! ## Failures of services -/

/-- A reply that reports an error names no id but this one. -/
def Echoes (id : String) : Reply → Prop
  | .mishap _ => True
  | .answer a => isError a.status = true →
    Failure.telling? (Failure.reportIn (a.body?.getD .null)) "correlationId" = none ∨
      Failure.telling? (Failure.reportIn (a.body?.getD .null)) "correlationId" = some (.str id)

namespace Client

variable {id : String} {f : Failure}

theorem correlation_mishapFailure (p : Peer) (id : Json) (m : Mishap) :
    (mishapFailure p id m).correlation = id := by
  unfold mishapFailure
  cases m.trouble with
  | _ => rfl

theorem correlation_ofAnswer {status : Int} {payload correlation : Json} {fallback : String}
    (h : Failure.ofAnswer status payload fallback correlation = .ok f) :
    f.correlation =
      (Failure.telling? (Failure.reportIn payload) "correlationId").getD correlation := by
  rw [Failure.eq_of_ofAnswer h]

/-- The failure that a reply amounts to is under the id that was sent. -/
theorem correlation_dataOf {p : Peer} {r : Reply} (hr : Echoes id r)
    (h : dataOf p (.str id) r = .error (.failure f)) : f.correlation = .str id := by
  refine failure_of_dataOf (P := fun f => f.correlation = .str id)
    (correlation_mishapFailure p _) (fun _ => rfl) (fun a fallback f ha herror hanswer => ?_) h
  subst ha
  rw [correlation_ofAnswer hanswer]
  rcases hr herror with hnone | hsome
  · rw [hnone]
    rfl
  · rw [hsome]
    rfl

/-- The failure of a stage is under the id that was sent, if the replies it took name no other. -/
theorem Stage.correlation_result {α : Type} {k : Stage α} {w : Surroundings} {b : Breaker Float}
    {t : Float} {script : Script}
    (hechoes : ∀ n < k.requests id w b t script, Echoes id (script.reply n))
    (h : k.result id w b t script = .error (.failure f)) : f.correlation = .str id :=
  failure_of_result (P := fun f => f.correlation = .str id) rfl (fun _ => rfl)
    (fun n hn _ hf => correlation_dataOf (hechoes n hn) hf) h

end Client

namespace Course

variable {x : Course} {f : Failure}

/-- Among the requests of a run are those of a stage. -/
theorem count_le_countP {α : Type} (k : Client.Stage α) (n : Nat) {calls : List Call}
    (h : (x.callsOf k n).Sublist calls) :
    x.count k n ≤ calls.countP fun c => c.service = k.peer.name := by
  have hall : (x.callsOf k n).countP (fun c => c.service = k.peer.name) = x.count k n := by
    unfold callsOf
    rw [List.countP_replicate, if_pos]
    exact decide_eq_true rfl
  rw [← hall]
  exact h.countP_le

/-- The failure of a run is under its id, if the replies that were taken name no other. -/
theorem correlation_verdict
    (hechoes : ∀ p, ∀ n < x.calls.countP (fun c => c.service = p.name),
      Echoes x.id ((x.scripts p).reply n))
    (h : x.verdict = .error (.failure f)) : f.correlation = .str x.id := by
  refine Course.of_verdict_eq_error (fun k n hsub hresult => ?_) h
  refine Client.Stage.correlation_result (fun m hm => ?_) hresult
  exact hechoes k.peer m (lt_of_lt_of_le hm (x.count_le_countP k n hsub))

end Course

/-! ## Questions about health -/

namespace Client

variable {P : Failure → Prop} (w : Surroundings)

theorem failsWith_now : FailsWith P Client.now := fun _ => trivial

theorem failsWith_judge (p : Peer) (start : Float) (complaint : Option Json) :
    FailsWith P (judge p start complaint) := by
  unfold judge
  refine failsWith_now.bind fun t _ => ?_
  split
  · exact yields_defect _
  · split
    · exact yields_pure trivial
    · exact yields_defect _

/-- A question about health has an answer, or meets with a defect: a failure of the service is an
answer. -/
theorem failsWith_probe (p : Peer) (id : Option String) (start : Float) :
    FailsWith P (probe w p id start) := by
  have hcomplaint : ∀ complaint : Option Json,
      FailsWith P (pure complaint : Flow Client (Option Json)) := fun _ => yields_pure trivial
  refine (failsWith_true (request w p "GET" Service.healthPath none id)).outcome.bind fun r _ => ?_
  match r with
  | .ok _ =>
    exact (hcomplaint none).bind fun complaint _ => failsWith_judge p start complaint
  | .error (.defect d) =>
    exact (yields_defect (Q := fun _ => True) d).bind fun complaint _ =>
      failsWith_judge p start complaint
  | .error (.failure f) =>
    exact (failsWith_note _ _ _ _).bind fun _ _ =>
      (hcomplaint (some f.message)).bind fun complaint _ => failsWith_judge p start complaint

/-- A question that has an end did not fail. -/
def Inquiry.Sound (P : Failure → Prop) : Inquiry → Prop
  | .ended r => Meets (fun _ => True) P r
  | .waiting _ => True

theorem yields_inquire (id : Option String) (p : Peer) :
    Yields (Inquiry.Sound P) P (inquire w id p) := by
  unfold inquire
  refine failsWith_now.bind fun start _ => failsWith_get.bind fun c _ => ?_
  split
  · exact (failsWith_probe w p id start).outcome.bind fun r hr => yields_pure hr
  · exact yields_pure trivial

theorem yields_await (id : Option String) (p : Peer) {i : Inquiry} (h : i.Sound P) :
    Yields (Meets (fun _ => True) P) P (await w id p i) := by
  cases i with
  | ended r => exact yields_pure h
  | waiting start => exact (failsWith_probe w p id start).outcome

theorem failsWith_checkAll (id : Option String) : FailsWith P (checkAll w id) := by
  have hinquire : ∀ p ∈ Peer.all, Yields (fun x : Peer × Inquiry => x.2.Sound P) P
      (do return (p, ← inquire w id p) : Flow Client (Peer × Inquiry)) := fun p _ =>
    (yields_inquire w id p).bind fun _ hi => yields_pure hi
  unfold checkAll
  refine (Yields.mapM hinquire).bind fun inquiries hinquiries => ?_
  refine (Yields.mapM fun x hx => yields_await w id x.1 (hinquiries x hx)).bind fun ends hends => ?_
  exact (yields_gather hends).mono (fun _ _ => trivial) fun _ hf => hf

end Client

/-! ## Responses of the gateway -/

namespace Desk

variable {w : Surroundings} {r : Service.Request} {id : String}

theorem isFit_status :
    Service.IsFit { method := "GET", path := "/status"
                    handle := fun _ id => do return .data (← status w id).toJson } := by
  intro r id
  have hstatus : FailsWith Service.Unclaimed (status w id) := by
    unfold status asClient
    exact ((Client.failsWith_checkAll w (some id)).within _ _).bind fun _ _ => yields_pure trivial
  exact Service.yields_data hstatus StatusReport.toJson

/-- Whatever becomes of a request for a test, the response is under its id, unless a failure claims
another. -/
theorem answers_responseTo {outcome : Except Problem Generation.TestFile}
    (h : ∀ f, outcome = .error (.failure f) → Service.Owned id f) :
    Service.Answers id (outcome = .error (.defect .endless)) (responseTo id outcome) := by
  have hdefect : Service.Labelled id (defectResponse id) :=
    ⟨rfl, Service.enveloped_report (f := .plain .internal "Internal server error.") (.inl rfl)⟩
  match outcome with
  | .ok t => exact .response ⟨rfl, .data _⟩
  | .error (.defect d) =>
    by_cases hend : d = .endless
    · subst hend
      exact .none rfl
    · rw [responseTo_of_ne_endless id hend]
      exact .response hdefect
  | .error (.failure f) =>
    show Service.Answers id _ (.ok (failureResponse id f))
    unfold failureResponse
    split
    · exact .response ⟨rfl, Service.enveloped_report (h f rfl)⟩
    · exact .response hdefect

/-- No failure of a reception claims another id, if the replies that were taken name no other. -/
theorem owned_reception {scripts : Peer → Script} {d : Desk} (hid : w.idOr (some id) = id)
    (hechoes : ∀ p, ∀ n < (reception w r id scripts d).calls.countP (fun c => c.service = p.name),
      Echoes id ((scripts p).reply n))
    {f : Failure} (h : (reception w r id scripts d).outcome = .error (.failure f)) :
    Service.Owned id f := by
  refine failure_of_reception id scripts (fun issues => Service.owned_invalid issues)
    (fun _ => .inr rfl) (fun _ => .inr rfl) (fun q hadmits hf => .inr ?_) h
  rw [reception_of_admits id scripts hadmits] at hechoes
  have hcourse : (courseOf w q (some id) none scripts d.clientAfter).id = id := hid
  rw [← hcourse]
  refine Course.correlation_verdict (fun p n hn => ?_) hf
  rw [hcourse]
  exact hechoes p n hn

theorem idOr_idOr (w : Surroundings) (given : Option String) :
    w.idOr (some (w.idOr given)) = w.idOr given := by
  by_cases h : w.idOr given = ""
  · have hfresh : w.idOr (some (w.idOr given)) = w.freshId := idOr_of_none w (.inr (by rw [h]))
    rw [hfresh]
    by_cases hgiven : given = none ∨ given = some ""
    · exact (idOr_of_none w hgiven).symm
    · obtain ⟨g, rfl⟩ := Option.ne_none_iff_exists'.1 (mt Or.inl hgiven)
      have hne : g ≠ "" := fun hempty => hgiven (.inr (congrArg some hempty))
      rw [idOr_of_some w hne] at h
      exact absurd h hne
  · exact idOr_of_some w h

/-- The gateway responds under the id of the request, unless it waits for a reply without end. -/
theorem answer_answers (w : Surroundings) (r : Service.Request) {d : Desk}
    {scripts : Peer → Script} (hlinks : ∀ p, d.client.links p = .remote (scripts p))
    (hechoes : ∀ p, ∀ n < (Flow.sent d (Flow.run (answer w r) d).2).countP
      (fun c => c.service = p.name), Echoes (w.idOr r.correlation) ((scripts p).reply n)) :
    Service.Answers (w.idOr r.correlation)
      (∃ p, ∃ n < (Flow.sent d (Flow.run (answer w r) d).2).countP (fun c => c.service = p.name),
        IsEndless ((scripts p).reply n))
      (Flow.run (answer w r) d).1 := by
  by_cases hposted : r.method = "POST" ∧ r.path = testPath
  · obtain ⟨d', hrun, hsent, -⟩ := run_answer w hposted.1 hposted.2 hlinks
    have hanswers : Service.Answers (w.idOr r.correlation)
        ((reception w r (w.idOr r.correlation) scripts d).outcome = .error (.defect .endless))
        (Flow.run (answer w r) d).1 := by
      rw [hrun, hsent.sent_eq] at hechoes
      rw [hrun]
      exact answers_responseTo fun _ hf => owned_reception (idOr_idOr w r.correlation) hechoes hf
    exact hanswers.because (exists_endless_of_answer w hlinks)
  · have hanswers := Service.serve_answers (w := w) (r := r) (routes w) d <| by
      refine Service.meets_dispatch fun t ht hpath hmethod => ?_
      simp only [routes, List.mem_cons, List.not_mem_nil, or_false] at ht
      rcases ht with rfl | rfl | rfl
      · exact Service.isFit_healthRoute w _ (yields_pure trivial) r _ d
      · exact isFit_status r _ d
      · exact absurd ⟨hmethod.symm, hpath.symm⟩ hposted
    exact hanswers.because (exists_endless_of_answer w hlinks)

end Desk

/-! ## All services -/

/-- The id of a request is the one that it brings, unless that is empty, or else the fresh one. -/
def IsIdOf (w : Surroundings) (r : Service.Request) (id : String) : Prop :=
  (r.correlation = some id ∧ id ≠ "") ∨
    ((r.correlation = none ∨ r.correlation = some "") ∧ id = w.freshId)

theorem IsIdOf.eq_idOr {w : Surroundings} {r : Service.Request} {id : String}
    (h : IsIdOf w r id) : id = w.idOr r.correlation := by
  rcases h with ⟨hgiven, hne⟩ | ⟨hnone, rfl⟩
  · rw [hgiven, idOr_of_some w hne]
  · exact (idOr_of_none w hnone).symm

/-- Every response is under the id of its request: whatever is asked of the services of the stages,
and of the gateway whatever the services that it calls reply, as long as their reports of errors
name no other id than the one that was sent.  And there is a response to every request, unless one
of the replies that were taken for it has no end. -/
theorem every_answer_labelled (w : Surroundings) (r : Service.Request) (id : String)
    (hid : IsIdOf w r id) :
    (∀ (p : Peer) (b : Generation.Backend),
      Service.Answers id
        (∃ n < (Flow.sent b (Flow.run (Service.answer w p r) b).2).length,
          IsEndless (b.script.reply n))
        (Flow.run (Service.answer w p r) b).1) ∧
    ∀ (d : Desk) (scripts : Peer → Script), (∀ p, d.client.links p = .remote (scripts p)) →
      (∀ p, ∀ n < (Flow.sent d (Flow.run (Desk.answer w r) d).2).countP
        (fun c => c.service = p.name), Echoes id ((scripts p).reply n)) →
      Service.Answers id
        (∃ p, ∃ n < (Flow.sent d (Flow.run (Desk.answer w r) d).2).countP
          (fun c => c.service = p.name), IsEndless ((scripts p).reply n))
        (Flow.run (Desk.answer w r) d).1 := by
  have heq := hid.eq_idOr
  subst heq
  refine ⟨fun p b => ?_, fun d scripts hlinks hechoes => Desk.answer_answers w r hlinks hechoes⟩
  exact (Service.answer_answers w p r b).because (Service.exists_endless_of_answer w)

/-! ## A source that does not parse -/

/-- The analysis reports a syntax error under the id that it was sent, and no other service can be
reached. -/
def unparsableSource : Peer → Script
  | .analysis =>
    { first := .answer
        { status := 422
          text := "\x7b\"error\":\x7b\"code\":\"parse_error\",\"message\":\"No.\"," ++
            "\"correlationId\":\"c7\"\x7d\x7d"
          ending := .complete }
      rest := [] }
  | _ => refused

/-- A desk that was not asked yet. -/
def newDesk (scripts : Peer → Script) : Desk :=
  { client := newClient.over scripts, limiters := [] }

/-- A request for a test under the id `c7`. -/
def someRequestForTest : Service.Request :=
  { method := "POST", path := "/api/generate-test", correlation := some "c7"
    contentType := some "application/json", body := "\x7b\"code\":\"(\"\x7d"
    client := "10.0.0.1" }

theorem eq_str_of_string? {v : Option Json} {text : String}
    (h : v.bind Json.string? = some text) : v = some (.str text) := by
  obtain ⟨value, rfl, hvalue⟩ := Option.bind_eq_some_iff.1 h
  cases value with
  | str s => exact congrArg _ (congrArg _ (Option.some.inj hvalue))
  | _ => cases hvalue

/-- The failure of the analysis is reported to the client under the id of its request. -/
theorem every_answer_labelled_unparsable :
    IsIdOf someSurroundings someRequestForTest "c7" ∧
    (∀ p, ∀ n < (Flow.sent (newDesk unparsableSource)
        (Flow.run (Desk.answer someSurroundings someRequestForTest)
          (newDesk unparsableSource)).2).countP (fun c => c.service = p.name),
      Echoes "c7" ((unparsableSource p).reply n)) ∧
    (∃ response, (Flow.run (Service.answer someSurroundings .analysis someRequestForTest)
        newClient.backend).1 = .ok response ∧ Service.Labelled "c7" response) ∧
    ∃ response, (Flow.run (Desk.answer someSurroundings someRequestForTest)
        (newDesk unparsableSource)).1 = .ok response ∧
      response.status = 422 ∧ Service.Labelled "c7" response := by
  have hid : IsIdOf someSurroundings someRequestForTest "c7" := .inl ⟨rfl, by decide⟩
  have hreply : ∀ p n, (unparsableSource p).reply n = (unparsableSource p).first := by
    intro p n
    cases p with
    | _ => exact congrArg Script.first (Script.after_of_last rfl n)
  have hechoes : ∀ p n, Echoes "c7" ((unparsableSource p).reply n) := by
    intro p n
    rw [hreply]
    cases p with
    | analysis =>
      have htold : ∀ a, (unparsableSource .analysis).first = .answer a →
          (Failure.telling? (Failure.reportIn (a.body?.getD .null)) "correlationId").bind
            Json.string? = some "c7" := by
        rintro _ ⟨⟩
        decide +kernel
      exact fun _ => .inr (eq_str_of_string? (htold _ rfl))
    | _ => trivial
  have hends : ∀ p n, ¬ IsEndless ((unparsableSource p).reply n) := by
    intro p n
    rw [hreply]
    rintro ⟨a, ha, hending⟩
    cases p with
    | analysis =>
      obtain rfl := Reply.answer.inj ha
      cases hending
    | _ => cases ha
  have hmodel : ∀ n, ¬ IsEndless (newClient.backend.script.reply n) := fun n => hends .generation n
  have hstatus : (Flow.run (Desk.answer someSurroundings someRequestForTest)
      (newDesk unparsableSource)).1.toOption.map (·.status) = some 422 := by
    decide +kernel
  obtain ⟨hstage, hdesk⟩ := every_answer_labelled someSurroundings someRequestForTest "c7" hid
  obtain ⟨response, hrun, hlabelled⟩ :=
    (hdesk (newDesk unparsableSource) unparsableSource (fun _ => rfl)
      fun p n _ => hechoes p n).exists_response fun ⟨p, n, _, h⟩ => hends p n h
  rw [hrun] at hstatus
  refine ⟨hid, fun p n _ => hechoes p n, ?_, response, hrun, Option.some.inj hstatus, hlabelled⟩
  exact (hstage .analysis newClient.backend).exists_response fun ⟨n, _, h⟩ => hmodel n h

end TestScribe.Gateway
