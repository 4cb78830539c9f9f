import TestScribe.Proofs.Failure.RoundTrip
import TestScribe.Proofs.Generation.EventGrammar
import TestScribe.Proofs.Journal.YieldRules
import TestScribe.Service.Stages

/-!
# Envelopes under the id of their request

A response carries the id of its request in its header, and if it holds JSON, once more in an
envelope with data or with the report of a failure (`Labelled`).  Whatever becomes of a request, a
service responds in this way, unless it waits without end, as long as no failure claims an id of
another request (`serve_answers`); the failures of the services of the stages claim none
(`answer_answers`).
-/

namespace TestScribe.Service

open TestScribe.Flow Generation

/-! ## Labelled responses -/

/-- An envelope under an id, with the status of the response around it. -/
inductive Enveloped (id : String) : Int → Json → Prop
  | data (v : Json) :
      Enveloped id 200 (.obj [("success", .bool true), ("data", v), ("correlationId", .str id)])
  | failure (cause : Cause) (report : Members)
      (correlation : report.get? "correlationId" = some (.str id))
      (code : report.get? "code" = some (.str cause.code)) :
      Enveloped id cause.status (.obj [("success", .bool false), ("error", .obj report)])

/-- A response under an id: JSON comes in an envelope, and the rest of what is answered is a stream
of events or the advice to ask elsewhere. -/
structure Labelled (id : String) (r : Response) : Prop where
  header : r.correlation = id
  content : match r.content with
    | .json v => Enveloped id r.status v
    | .events _ => r.status = 200
    | .empty => r.status = 307

/-- The end of a request: a response under an id, or none as long as something is waited for. -/
inductive Answers (id : String) (waits : Prop) : Except Problem Response → Prop
  | response {r : Response} (labelled : Labelled id r) : Answers id waits (.ok r)
  | none (h : waits) : Answers id waits (.error (.defect .endless))

theorem Answers.because {id : String} {waits waits' : Prop} {x : Except Problem Response}
    (h : Answers id waits x) (hx : x = .error (.defect .endless) → waits') :
    Answers id waits' x := by
  cases h with
  | response labelled => exact .response labelled
  | none _ => exact .none (hx rfl)

theorem Answers.exists_response {id : String} {waits : Prop} {x : Except Problem Response}
    (h : Answers id waits x) (hnot : ¬ waits) :
    ∃ response, x = .ok response ∧ Labelled id response := by
  cases h with
  | response labelled => exact ⟨_, rfl, labelled⟩
  | none hwaits => exact absurd hwaits hnot

/-- A failure claims no id but this one. -/
def Owned (id : String) (f : Failure) : Prop :=
  f.correlation = .null ∨ f.correlation = .str id

theorem correlation_withCorrelation {id : String} {f : Failure} (h : Owned id f) :
    (f.withCorrelation (.str id)).correlation = .str id := by
  unfold Failure.withCorrelation
  rcases h with h | h
  · rw [h]
  · rw [h]
    exact h

theorem cause_withCorrelation (f : Failure) (id : Json) :
    (f.withCorrelation id).cause = f.cause := by
  unfold Failure.withCorrelation
  split
  · rfl
  · rfl

/-- The report of a failure that claims no other id is an envelope under the id. -/
theorem enveloped_report {id : String} {f : Failure} (h : Owned id f) :
    Enveloped id f.cause.status (f.withCorrelation (.str id)).envelope := by
  have hid := correlation_withCorrelation h
  rw [← cause_withCorrelation f (.str id)]
  refine .failure _ _ ?_ (Failure.get?_code_report _)
  rw [Failure.report, Members.get?_append, Members.get?_append, hid]
  rfl

/-! ## From what becomes of a request to the response -/

section Responses

variable {σ : Type} {w : Surroundings} {r : Request} {id : String}

/-- A flow that always gives a value. -/
def Total {α : Type} (x : Flow σ α) : Prop :=
  ∀ s, ∃ a s', Flow.run x s = (.ok a, s')

/-- What becomes of a request claims no id but this one. -/
def Fit (id : String) : Outcome σ → Prop
  | .stream events => Total events
  | .rejection f => Owned id f
  | .data _ | .elsewhere => True

variable [Journaling σ]

/-- A flow gives a response under an id, from any state. -/
def Responds (id : String) (x : Flow σ Response) : Prop :=
  ∀ s, ∃ response s', Flow.run x s = (.ok response, s') ∧ Labelled id response

theorem respond_labelled {status : Int} {content : Content}
    (h : Labelled id { status, correlation := id, content }) :
    Responds id (respond w r id status content : Flow σ Response) :=
  fun _ => ⟨_, _, rfl, h⟩

theorem respondDefect_labelled : Responds id (respondDefect w id : Flow σ Response) := by
  intro s
  refine ⟨_, _, rfl, rfl, ?_⟩
  exact enveloped_report (f := .plain .internal "Internal server error.") (.inl rfl)

theorem respondFailure_labelled {f : Failure} (h : Owned id f) :
    Responds id (respondFailure w r id f : Flow σ Response) := by
  unfold respondFailure
  dsimp only
  split
  · exact respond_labelled ⟨rfl, enveloped_report h⟩
  · exact respondDefect_labelled

/-- A defect counts as one of the service, but for an endless wait. -/
theorem conclude_of_ne_endless {d : Defect} (h : d ≠ .endless) :
    (conclude w r id (.error (.defect d)) : Flow σ Response) = respondDefect w id := by
  cases d with
  | endless => exact absurd rfl h
  | _ => rfl

/-- Whatever becomes of a request without a claim to another id, the response is under its id. -/
theorem conclude_labelled {result : Except Problem (Outcome σ)}
    (h : Meets (Fit id) (Owned id) result) (hend : result ≠ .error (.defect .endless)) :
    Responds id (conclude w r id result) := by
  match result with
  | .ok (.data v) => exact respond_labelled ⟨rfl, .data _⟩
  | .ok (.rejection f) => exact respondFailure_labelled h
  | .ok .elsewhere => exact respond_labelled ⟨rfl, rfl⟩
  | .error (.defect d) =>
    rw [conclude_of_ne_endless fun hd => hend (hd ▸ rfl)]
    exact respondDefect_labelled
  | .error (.failure f) =>
    intro s
    unfold conclude
    have hnote : ∃ s', Flow.run (noteFailure w id f : Flow σ Unit) s = (.ok (), s') := ⟨_, rfl⟩
    obtain ⟨s', hnote⟩ := hnote
    dsimp only
    rw [run_bind_of_ok hnote]
    exact respondFailure_labelled h s'
  | .ok (.stream events) =>
    intro s
    have hrespond : ∃ s', Flow.run (respond w r id 200 .empty : Flow σ Response) s =
        (.ok { status := 200, correlation := id, content := .empty }, s') := ⟨_, rfl⟩
    obtain ⟨s', hrespond⟩ := hrespond
    obtain ⟨es, s'', hevents⟩ := (h : Total events) s'
    unfold conclude
    dsimp only
    rw [run_bind_of_ok hrespond, run_bind_of_ok hevents]
    exact ⟨_, _, rfl, rfl, rfl⟩

/-- A service responds under the id of the request, if the request comes to an end. -/
theorem serve_answers (routes : List (Route σ)) (s : σ)
    (h : Meets (Fit (w.idOr r.correlation)) (Owned (w.idOr r.correlation))
      (Flow.run (dispatch routes r (w.idOr r.correlation)) s).1) :
    Answers (w.idOr r.correlation)
      ((Flow.run (dispatch routes r (w.idOr r.correlation)) s).1 = .error (.defect .endless))
      (Flow.run (serve w routes r) s).1 := by
  unfold serve
  dsimp only
  rw [run_bind_of_ok (run_outcome s _)]
  by_cases hend : (Flow.run (dispatch routes r (w.idOr r.correlation)) s).1 =
      .error (.defect .endless)
  · rw [hend]
    exact .none rfl
  · obtain ⟨response, s', hrun, hlabelled⟩ := conclude_labelled (w := w) (r := r) h hend _
    rw [hrun]
    exact .response hlabelled

/-! ## Routes -/

/-- Answering by a route claims no id but that of the request. -/
def IsFit (t : Route σ) : Prop :=
  ∀ r id, Yields (Fit id) (Owned id) (t.handle r id)

omit [Journaling σ] in
/-- What becomes of a request is decided by its route, if it has one. -/
theorem meets_dispatch {routes : List (Route σ)} {s : σ}
    (h : ∀ t ∈ routes, t.path = r.path → t.method = r.method →
      Meets (Fit id) (Owned id) (Flow.run (t.handle r id) s).1) :
    Meets (Fit id) (Owned id) (Flow.run (dispatch routes r id) s).1 := by
  unfold dispatch
  split
  · next t hfound =>
    have hroute := List.find?_some hfound
    rw [Bool.and_eq_true, beq_iff_eq, beq_iff_eq] at hroute
    exact h t (List.mem_of_find?_eq_some hfound) hroute.1 hroute.2
  · split
    · exact .inl rfl
    · split
      · trivial
      · exact .inl rfl

end Responses

/-! ## The failures of the stages -/

/-- A failure without an id. -/
def Unclaimed (f : Failure) : Prop :=
  f.correlation = .null

section Backend

open Backend Transport

theorem unclaimed_mishapFailure (action : String) (m : Mishap) :
    Unclaimed (mishapFailure action m) := by
  unfold mishapFailure
  cases m.trouble with
  | _ => rfl

theorem unclaimed_statusFailure (action : String) (a : Answer) :
    Unclaimed (statusFailure action a) := by
  unfold statusFailure
  dsimp only
  split
  · rfl
  · split
    · rfl
    · rfl

theorem unclaimed_attemptOf {action : String} {r : Reply} {f : Failure}
    (h : (attemptOf action r).finish = .failed f) : Unclaimed f := by
  rcases failed_attemptOf h with ⟨m, rfl⟩ | ⟨a, rfl⟩ | ⟨e, rfl⟩
  · exact unclaimed_mishapFailure action m
  · exact unclaimed_statusFailure action a
  · rfl

variable {α : Type} {P : Failure → Prop}

theorem failsWith_now : FailsWith P Backend.now := fun _ => trivial

theorem failsWith_isStopped (stop : Stop) : FailsWith P (isStopped stop) := fun _ => trivial

theorem failsWith_ask (method path : String) (body : Option Json) :
    FailsWith P (ask method path body) := by
  intro b
  unfold ask Flow.run ExceptT.run
  dsimp only
  split
  · trivial
  · trivial

theorem failsWith_take (stop : Stop) (action : String) (r : Reply) :
    FailsWith Unclaimed (take stop (attemptOf action r)) := by
  unfold take
  refine (failsWith_write _).bind fun _ _ => (failsWith_modify _).bind fun _ _ => ?_
  split
  · exact yields_pure trivial
  · next f hfinish => exact yields_fail (unclaimed_attemptOf hfinish)
  · refine (failsWith_isStopped stop).bind fun stopped _ => ?_
    split
    · exact yields_fail rfl
    · exact yields_defect _

theorem failsWith_pauseBefore (patience : Patience) (action : String) (n : Nat) (f : Failure) :
    FailsWith P (pauseBefore patience action n f) := by
  unfold pauseBefore
  split
  · exact yields_defect _
  · exact (failsWith_note _ _ _ _).bind fun _ _ => failsWith_write _

/-- Before another attempt a request fails with the failure of the last one, or because it was
stopped. -/
theorem failsWith_againOf (stop : Stop) (action : String) (patience : Patience) (n : Nat)
    {f : Failure} (hf : Unclaimed f) : FailsWith Unclaimed (againOf stop action patience n f) := by
  intro b
  rw [run_againOf]
  split
  · exact hf
  · split
    · rfl
    · exact failsWith_pauseBefore patience action n f b

theorem failsWith_insist (s : Settings) (action : String) (stop : Stop) {attempt : Flow Backend α}
    (h : FailsWith Unclaimed attempt) : FailsWith Unclaimed (insist s action stop attempt) :=
  Trial.yields_run h (fun _ _ => yields_pure trivial)
    (fun n _ hf => failsWith_againOf stop action _ n hf) _ _

theorem failsWith_stream (s : Settings) (prompt : String) (options : Option Options)
    (stop : Stop) : FailsWith Unclaimed (stream s prompt options stop) := by
  unfold stream
  refine (failsWith_modify _).bind fun _ _ => failsWith_now.bind fun _ _ => ?_
  refine (failsWith_insist s textAction stop ?_).bind fun _ _ => failsWith_now.bind fun _ _ => ?_
  · exact (failsWith_ask _ _ _).bind fun r _ => failsWith_take stop textAction r
  · split
    · exact yields_pure trivial
    · exact yields_defect _

theorem failsWith_collect (s : Settings) (prompt : String) (options : Option Options)
    (stop : Stop) : FailsWith Unclaimed (collect s prompt options stop) := by
  unfold collect
  refine (failsWith_stream s prompt options stop).bind fun _ _ => failsWith_get.bind fun _ _ => ?_
  split
  · exact yields_defect _
  · exact yields_pure trivial

theorem failsWith_wholeAnswer (action : String) (r : Reply) :
    FailsWith Unclaimed (wholeAnswer action r) := by
  unfold wholeAnswer
  split
  · exact yields_fail (unclaimed_mishapFailure action _)
  · split
    · exact yields_fail (unclaimed_mishapFailure action _)
    · exact yields_defect _
    · split
      · exact yields_fail (unclaimed_statusFailure action _)
      · exact yields_pure trivial

theorem failsWith_models (s : Settings) : FailsWith Unclaimed (models s) := by
  unfold models
  refine (failsWith_modify _).bind fun _ _ => (failsWith_insist s "listModels" none ?_).bind
    fun _ _ => ?_
  · exact (failsWith_ask _ _ _).bind fun r _ => failsWith_wholeAnswer _ r
  · split
    · exact yields_defect _
    · split
      · exact yields_pure trivial
      · exact yields_defect _

theorem failsWith_generate (s : Settings) (a : Component.Analysis) (options : Option Options)
    (stop : Stop) (correlation : Json) :
    FailsWith Unclaimed (generate s a options stop correlation) := by
  unfold generate
  refine (failsWith_note _ _ _ _).bind fun _ _ => ?_
  exact (failsWith_collect s _ _ stop).bind fun _ _ => yields_pure trivial

/-- A stream of events tells of the end of the generation, and does not fail itself. -/
theorem total_events (s : Settings) (a : Component.Analysis) (options : Option Options)
    (stop : Stop) (correlation : Json) : Total (events s a options stop correlation) := by
  intro b
  obtain ⟨b', -, hrun, -⟩ := run_events s a options stop correlation b rfl
  exact ⟨_, b', hrun⟩

end Backend

theorem failsWith_analyze (r : Component.Request) (correlation : Json) :
    FailsWith Unclaimed (Component.analyze r correlation) := by
  have hparsed : FailsWith Unclaimed (Component.parsed .tsx r.code) := by
    unfold Component.parsed
    split
    · exact yields_pure trivial
    · exact (failsWith_note _ _ _ _).bind fun _ _ => yields_fail rfl
  unfold Component.analyze
  refine hparsed.bind fun root _ => ?_
  dsimp only
  split
  · exact yields_fail rfl
  · refine (failsWith_note _ _ _ _).bind fun _ _ => (failsWith_note _ _ _ _).bind fun _ _ => ?_
    exact yields_pure trivial

theorem failsWith_check (t : TestFile) (component : Option String) (correlation : Json)
    {P : Failure → Prop} : FailsWith P (Validation.check t component correlation) := by
  unfold Validation.check Validation.checkWith
  dsimp only
  split
  · exact (failsWith_note _ _ _ _).bind fun _ _ => yields_pure trivial
  · exact (failsWith_note _ _ _ _).bind fun _ _ => yields_pure trivial

/-! ## The services of the stages -/

section Routes

variable {σ α : Type} {id : String}

theorem Unclaimed.owned {f : Failure} (h : Unclaimed f) : Owned id f := .inl h

/-- What is made of a value claims no id, if making it fails without a claim. -/
theorem yields_data {x : Flow σ α} (h : FailsWith Unclaimed x) (f : α → Json) :
    Yields (Fit id) (Owned id) (do return .data (f (← x)) : Flow σ (Outcome σ)) := by
  have howned : FailsWith (Owned id) x := h.mono (fun _ ha => ha) fun _ hf => hf.owned
  exact howned.bind fun _ _ => yields_pure trivial

theorem isFit_healthRoute (w : Surroundings) (name : String) {more : Flow σ Members}
    (h : FailsWith Unclaimed more) : IsFit (healthRoute w name more) :=
  fun _ _ => yields_data h (healthJson w name)

theorem exists_of_mapError {ε ε' : Type} {f : ε → ε'} {r : Except ε α} {e : ε'}
    (h : r.mapError f = .error e) : ∃ e', r = .error e' ∧ f e' = e := by
  cases r with
  | ok a => cases h
  | error e' => exact ⟨e', rfl, Except.error.inj h⟩

/-- A body that is no JSON is rejected with what is wrong about it. -/
theorem eq_invalid_of_valueOf {r : Request} {f : Failure} (h : valueOf r = .error f) :
    ∃ issues, f = invalid issues := by
  unfold valueOf at h
  split at h
  · cases h
  · split at h
    · obtain ⟨e, -, rfl⟩ := exists_of_mapError h
      exact ⟨_, rfl⟩
    · cases h

/-- A body that cannot be read is rejected with what is wrong about it. -/
theorem eq_invalid_of_readValue {reader : Wire.Reader α} {value : Option Json} {f : Failure}
    (h : readValue reader value = .error f) : ∃ issues, f = invalid issues := by
  unfold readValue at h
  split at h
  · exact ⟨_, (Except.error.inj h).symm⟩
  · split at h
    · cases h
    · exact ⟨_, (Except.error.inj h).symm⟩

theorem owned_invalid (issues : List Wire.Issue) : Owned id (invalid issues) := .inl rfl

/-- What becomes of a request with a body: the body is rejected, or handed to the work. -/
theorem yields_taking {Q : Outcome σ → Prop} {P : Failure → Prop}
    {door : Request → String → Flow σ Unit} {reader : Wire.Reader α}
    {handle : α → String → Flow σ (Outcome σ)} {r : Request}
    (hinvalid : ∀ issues, Q (.rejection (invalid issues))) (hdoor : FailsWith P (door r id))
    (h : ∀ a, Yields Q P (handle a id)) : Yields Q P (taking door reader handle r id) := by
  unfold taking
  split
  · next f hvalue =>
    obtain ⟨issues, rfl⟩ := eq_invalid_of_valueOf hvalue
    exact yields_pure (hinvalid issues)
  · refine hdoor.bind fun _ _ => ?_
    split
    · next f hread =>
      obtain ⟨issues, rfl⟩ := eq_invalid_of_readValue hread
      exact yields_pure (hinvalid issues)
    · exact h _

theorem isFit_post {path : String} {reader : Wire.Reader α}
    {handle : α → String → Flow σ (Outcome σ)}
    (h : ∀ a id, Yields (Fit id) (Owned id) (handle a id)) : IsFit (post path reader handle) :=
  fun _ id => yields_taking owned_invalid (yields_pure trivial) fun a => h a id

theorem failsWith_modelHealth (w : Surroundings) : FailsWith Unclaimed (modelHealth w) := by
  have hthere : FailsWith Unclaimed Backend.checkHealth :=
    (failsWith_ask _ _ _).bind fun r _ => (failsWith_wholeAnswer _ r).bind fun _ _ =>
      yields_pure trivial
  have hflag : ∀ there : Bool, FailsWith Unclaimed (pure there : Flow Backend Bool) :=
    fun _ => yields_pure trivial
  unfold modelHealth
  refine hthere.outcome.bind fun result _ => ?_
  split
  · exact (hflag true).bind fun _ _ => yields_pure trivial
  · exact (hflag false).bind fun _ _ => yields_pure trivial
  · exact (yields_defect (Q := fun _ => True) _).bind fun _ _ => yields_pure trivial

theorem yields_validation (body : Json) (id : String) :
    Yields (Fit id) (Owned id)
      (match Validation.Request.ofBody body with
        | .error f => Flow.fail f
        | .ok r => do
          return .data (← (Validation.check r.test (r.component.map (·.name))
            (.str id)).lift).toJson : Flow Backend (Outcome Backend)) := by
  cases hbody : Validation.Request.ofBody body with
  | error f =>
    obtain ⟨issues, -, rfl⟩ := exists_of_mapError hbody
    exact yields_fail (.inl rfl)
  | ok r => exact yields_data ((failsWith_check _ _ _).within _ _) Validation.Verdict.toJson

theorem isFit_routes (w : Surroundings) (p : Peer) : ∀ t ∈ routes w p, IsFit t := by
  have hhealth : ∀ name, IsFit (healthRoute w name (pure [] : Flow Generation.Backend Members)) :=
    fun name => isFit_healthRoute w name (yields_pure trivial)
  intro t ht
  cases p with
  | analysis =>
    simp only [routes, analysisRoutes, List.mem_cons, List.not_mem_nil, or_false] at ht
    rcases ht with rfl | rfl
    · exact hhealth _
    · exact isFit_post fun r id =>
        yields_data ((failsWith_analyze r (.str id)).within _ _) Component.Analysis.toJson
  | generation =>
    simp only [routes, generationRoutes, List.mem_cons, List.not_mem_nil, or_false] at ht
    rcases ht with rfl | rfl | rfl | rfl
    · exact isFit_healthRoute w _ (failsWith_modelHealth w)
    · intro r id
      exact yields_data (failsWith_models w.settings) fun ms => .arr (ms.map modelJson)
    · exact isFit_post fun r id =>
        yields_data (failsWith_generate w.settings r.analysis r.options none (.str id))
          TestFile.toJson
    · exact isFit_post fun r id => yields_pure (total_events _ _ _ _ _)
  | validation =>
    simp only [routes, validationRoutes, List.mem_cons, List.not_mem_nil, or_false] at ht
    rcases ht with rfl | rfl
    · exact hhealth _
    · exact isFit_post fun body id => yields_validation body id

/-- The service of a stage answers a request under its id, if the request comes to an end. -/
theorem answer_answers (w : Surroundings) (p : Peer) (r : Request) (b : Generation.Backend) :
    Answers (w.idOr r.correlation)
      ((Flow.run (dispatch (routes w p) r (w.idOr r.correlation)) b).1 = .error (.defect .endless))
      (Flow.run (answer w p r) b).1 :=
  serve_answers _ b (meets_dispatch fun t ht _ _ => isFit_routes w p t ht r _ b)

end Routes

end TestScribe.Service
