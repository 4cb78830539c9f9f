import TestScribe.Proofs.Service.Envelopes
import TestScribe.Proofs.Transport.WaitRules

/-!
# What the services of the stages wait for

A service answers a request unless it waits without end, and it does so only for a reply of the
model server that it has taken (`awaits_answer`).  The parts of the work are gone through one by
one, by the rules for what flows wait for.
-/

namespace TestScribe.Generation.Backend

open Transport TestScribe.Flow

/-! ## The model server -/

/-- The model server, which answers a backend. -/
def modelServer : Services Backend where
  Kind := Unit
  name _ := "ollama"
  script? b _ := some b.script
  journal_setJournal _ _ := rfl
  script?_setJournal _ _ := rfl

variable {E : Prop} {α : Type}

theorem awaits_now : Awaits modelServer E Never Backend.now :=
  awaits_of_same (fun _ => ⟨rfl, rfl⟩) fun _ => False.elim

theorem awaits_isStopped (stop : Stop) : Awaits modelServer E Never (isStopped stop) :=
  awaits_of_same (fun _ => ⟨rfl, rfl⟩) fun _ => False.elim

theorem awaits_hand (f : List Chunk → List Chunk) :
    Awaits modelServer E Never (modify fun b : Backend => { b with handed := f b.handed }) :=
  awaits_of_same (fun _ => ⟨rfl, rfl⟩) fun _ => False.elim

theorem awaits_ask (method path : String) (body : Option Json) :
    Awaits modelServer E IsEndless (ask method path body) := by
  intro b _
  set call : Call := { service := "ollama", method, path, body, correlation := none } with hcall
  cases hobjection : objection? call with
  | some d =>
    have hrun : run (ask method path body) b = (.error (.defect d), b) := by
      simp only [Flow.run, ask, ExceptT.run, ← hcall, send_of_objection hobjection]
    rw [hrun]
    exact ⟨[], Services.takes_refl b, fun h => absurd h (ne_endless_of_objection hobjection)⟩
  | none =>
    have hsend : send call b.script = .ok (b.script.reply 0, b.script.after 1, [.call call]) :=
      send_of_writable hobjection b.script 0
    have hrun : run (ask method path body) b = (.ok (b.script.reply 0),
        { b with script := b.script.after 1, journal := b.journal ++ [.call call] }) := by
      simp only [Flow.run, ask, ExceptT.run, ← hcall, hsend]
    have hcount : ∀ k, modelServer.count [call] k = 1 := fun _ => by
      simp [Services.count, modelServer, hcall]
    rw [hrun]
    refine ⟨[call], ⟨⟨[.call call], rfl, rfl⟩, fun c hc => ⟨(), ?_⟩, fun k => ?_⟩, fun h => .inl ?_⟩
    · rw [List.mem_singleton.1 hc]
      rfl
    · rw [hcount]
      rfl
    · exact ⟨(), b.script, rfl, 0, hcount () ▸ Nat.one_pos, h⟩

/-- An attempt hangs only if its reply has no end. -/
theorem awaits_take (stop : Stop) (action : String) {r : Reply} (h : IsEndless r → E) :
    Awaits modelServer E Never (take stop (attemptOf action r)) := by
  unfold take
  refine (awaits_write (callsIn_records _)).bind fun _ => ?_
  refine (awaits_hand fun cs => cs ++ (attemptOf action r).chunks).bind fun _ => ?_
  split
  · exact awaits_pure False.elim
  · exact awaits_fail _
  · next hhanging =>
    have hendless : IsEndless r := by
      by_contra hnot
      exact finish_ne_hanging hnot action hhanging
    refine (awaits_isStopped stop).bind fun stopped => ?_
    split
    · exact awaits_fail _
    · exact awaits_defect fun _ => .inl (.inl (.inl (h hendless)))

theorem awaits_wholeAnswer (action : String) {r : Reply} (h : IsEndless r → E) :
    Awaits modelServer E Never (wholeAnswer action r) := by
  unfold wholeAnswer
  split
  · exact awaits_fail _
  · next a =>
    split
    · exact awaits_fail _
    · next hending => exact awaits_defect fun _ => h ⟨a, rfl, hending⟩
    · split
      · exact awaits_fail _
      · exact awaits_pure False.elim

/-- An answer that is taken as a whole. -/
theorem awaits_askWhole (action method path : String) (body : Option Json) :
    Awaits modelServer E Never (do wholeAnswer action (← ask method path body)) :=
  (awaits_ask method path body).bind fun _ => awaits_wholeAnswer action .inr

/-! ## Trying again -/

theorem awaits_pauseBefore (patience : Patience) (action : String) (n : Nat) (f : Failure) :
    Awaits modelServer E Never (pauseBefore patience action n f) := by
  unfold pauseBefore
  split
  · exact awaits_defect nofun
  · exact (awaits_note _ _ _ _).bind fun _ => awaits_write rfl

theorem awaits_againOf (stop : Stop) (action : String) (patience : Patience) (n : Nat)
    (f : Failure) : Awaits modelServer E Never (againOf stop action patience n f) := by
  intro b hb
  rw [run_againOf]
  split
  · exact awaits_fail f b hb
  · split
    · exact awaits_fail stopped b hb
    · exact awaits_pauseBefore patience action n f b hb

theorem awaits_insist (s : Settings) (action : String) (stop : Stop) {attempt : Flow Backend α}
    (h : Awaits modelServer E Never attempt) :
    Awaits modelServer E Never (insist s action stop attempt) :=
  h.trial (fun _ _ => awaits_pure False.elim) (fun n f => awaits_againOf stop action _ n f) _ _

/-! ## Text and models -/

theorem awaits_stream (s : Settings) (prompt : String) (options : Option Options) (stop : Stop) :
    Awaits modelServer E Never (stream s prompt options stop) := by
  unfold stream
  refine (awaits_hand fun _ => []).bind fun _ => awaits_now.bind fun _ => ?_
  refine (awaits_insist s textAction stop ?_).bind fun _ => awaits_now.bind fun _ => ?_
  · exact (awaits_ask _ _ _).bind fun _ => awaits_take stop textAction .inr
  · split
    · exact awaits_pure False.elim
    · exact awaits_defect nofun

theorem awaits_collect (s : Settings) (prompt : String) (options : Option Options) (stop : Stop) :
    Awaits modelServer E Never (collect s prompt options stop) := by
  unfold collect
  refine (awaits_stream s prompt options stop).bind fun _ => awaits_get.bind fun _ => ?_
  split
  · exact awaits_defect nofun
  · exact awaits_pure False.elim

theorem ne_endless_of_modelOf {entry : Json} {d : Defect} (h : modelOf entry = .error d) :
    d ≠ .endless := by
  unfold modelOf at h
  split at h
  · split at h
    · cases h
    · cases h
      nofun
  · cases h
    nofun

/-- A list of models that cannot be read is not waited for. -/
theorem ne_endless_of_modelsIn {body : Json} {d : Defect} (h : modelsIn body = .error d) :
    d ≠ .endless := by
  have hentries : ∀ entries : List Json, entries.mapM modelOf = .error d → d ≠ .endless := by
    intro entries
    induction entries with
    | nil => exact nofun
    | cons entry entries ih =>
      rw [List.mapM_cons]
      cases hentry : modelOf entry with
      | error d' =>
        rintro ⟨⟩
        exact ne_endless_of_modelOf hentry
      | ok m =>
        cases hrest : entries.mapM modelOf with
        | error d' =>
          rintro ⟨⟩
          exact ih hrest
        | ok ms => exact nofun
  unfold modelsIn at h
  split at h
  · split at h
    · cases h
    · exact hentries _ h
    · cases h
    · cases h
    · cases h
      nofun
  · cases h
    nofun

theorem awaits_models (s : Settings) : Awaits modelServer E Never (models s) := by
  unfold models
  refine (awaits_hand fun _ => []).bind fun _ => ?_
  refine (awaits_insist s "listModels" none (awaits_askWhole _ _ _ _)).bind fun _ => ?_
  split
  · exact awaits_defect nofun
  · split
    · exact awaits_pure False.elim
    · next d hd => exact awaits_defect fun h => absurd h (ne_endless_of_modelsIn hd)

theorem awaits_checkHealth : Awaits modelServer E Never checkHealth :=
  (awaits_ask _ _ _).bind fun _ => (awaits_wholeAnswer _ .inr).bind fun _ => awaits_pure False.elim

end TestScribe.Generation.Backend

namespace TestScribe.Generation

open Transport TestScribe.Flow Backend

variable {E : Prop}

theorem awaits_generate (s : Settings) (a : Component.Analysis) (options : Option Options)
    (stop : Stop) (correlation : Json) :
    Awaits modelServer E Never (generate s a options stop correlation) := by
  unfold generate
  refine (awaits_note _ _ _ _).bind fun _ => ?_
  exact (awaits_collect s _ _ stop).bind fun _ => awaits_pure False.elim

/-- A stream of events has an end even if the text has none. -/
theorem awaits_events (s : Settings) (a : Component.Analysis) (options : Option Options)
    (stop : Stop) (correlation : Json) :
    Awaits modelServer E Never (events s a options stop correlation) := by
  have hclosing : ∀ {E' : Prop} (r : Except Problem Summary),
      Awaits modelServer E' Never (closing? correlation r) := by
    intro E' r
    unfold closing?
    split
    · exact awaits_pure False.elim
    · exact (awaits_note _ _ _ _).bind fun _ => awaits_pure False.elim
    · exact awaits_pure False.elim
    · exact (awaits_note _ _ _ _).bind fun _ => awaits_pure False.elim
  unfold events
  refine (awaits_stream s _ _ stop).outcome.bind fun r => awaits_get.bind fun _ => ?_
  exact (hclosing r).bind fun _ => awaits_pure False.elim

end TestScribe.Generation

namespace TestScribe.Service

open Generation Backend Transport TestScribe.Flow

variable {E : Prop}

/-! ## Work without services -/

theorem awaits_analyze (r : Component.Request) (correlation : Json) :
    Awaits journalAlone E Never (Component.analyze r correlation) := by
  have hparsed : Awaits journalAlone E Never (Component.parsed .tsx r.code) := by
    unfold Component.parsed
    split
    · exact awaits_pure False.elim
    · exact (awaits_note _ _ _ _).bind fun _ => awaits_fail _
  unfold Component.analyze
  refine hparsed.bind fun root => ?_
  dsimp only
  split
  · exact awaits_fail _
  · refine (awaits_note _ _ _ _).bind fun _ => (awaits_note _ _ _ _).bind fun _ => ?_
    exact awaits_pure False.elim

theorem awaits_check (t : TestFile) (component : Option String) (correlation : Json) :
    Awaits journalAlone E Never (Validation.check t component correlation) := by
  unfold Validation.check Validation.checkWith
  dsimp only
  split
  · exact (awaits_note _ _ _ _).bind fun _ => awaits_pure False.elim
  · exact (awaits_note _ _ _ _).bind fun _ => awaits_pure False.elim

/-! ## From a route to the response -/

section Routes

variable {σ α : Type} [Journaling σ] {S : Services σ} {w : Surroundings} {r : Request} {id : String}

/-- A stream of events that becomes of a request waits for replies only. -/
def StreamAwaits (S : Services σ) : Outcome σ → Prop
  | .stream events => Awaits S False Never events
  | .data _ | .rejection _ | .elsewhere => True

/-- What is done for a request waits for replies only, and so does a stream of events that becomes
of it. -/
structure Patient (S : Services σ) (x : Flow σ (Outcome σ)) : Prop where
  awaits : Awaits S False Never x
  stream : Yields (StreamAwaits S) (fun _ => True) x

theorem awaits_respond (status : Int) (content : Content) :
    Awaits S E Never (respond w r id status content : Flow σ Response) :=
  (awaits_note _ _ _ _).bind fun _ => awaits_pure False.elim

theorem awaits_respondDefect : Awaits S E Never (respondDefect w id : Flow σ Response) :=
  (awaits_note _ _ _ _).bind fun _ => awaits_pure False.elim

theorem awaits_respondFailure (f : Failure) :
    Awaits S E Never (respondFailure w r id f : Flow σ Response) := by
  unfold respondFailure
  dsimp only
  split
  · exact awaits_respond _ _
  · exact awaits_respondDefect

theorem awaits_conclude {result : Except Problem (Outcome σ)}
    (h : Meets (StreamAwaits S) (fun _ => True) result) :
    Awaits S (Waits Never result) Never (conclude w r id result) := by
  match result with
  | .ok (.data v) => exact awaits_respond _ _
  | .ok (.rejection f) => exact awaits_respondFailure f
  | .ok .elsewhere => exact awaits_respond _ _
  | .ok (.stream events) =>
    have hevents : Awaits S False Never events := h
    exact (awaits_respond _ _).bind fun _ => hevents.excused.bind fun _ => awaits_pure False.elim
  | .error (.failure f) => exact (awaits_note _ _ _ _).bind fun _ => awaits_respondFailure f
  | .error (.defect d) =>
    by_cases hend : d = .endless
    · subst hend
      exact awaits_defect fun h => h
    · rw [conclude_of_ne_endless hend]
      exact awaits_respondDefect

/-! ## From a route to its service -/

theorem patient_pure {o : Outcome σ} (h : StreamAwaits S o) : Patient S (pure o : Flow σ _) :=
  ⟨awaits_pure False.elim, yields_pure h⟩

/-- Data are made of what some work comes to. -/
theorem patient_data {x : Flow σ α} (h : Awaits S False Never x) (f : α → Json) :
    Patient S (do return .data (f (← x)) : Flow σ (Outcome σ)) where
  awaits := h.bind fun _ => awaits_pure False.elim
  stream := (failsWith_true x).bind fun _ _ => yields_pure trivial

/-- A request with a body is rejected, or its body handed to the work. -/
theorem patient_taking {door : Request → String → Flow σ Unit} {reader : Wire.Reader α}
    {handle : α → String → Flow σ (Outcome σ)} (hdoor : Awaits S False Never (door r id))
    (h : ∀ a, Patient S (handle a id)) : Patient S (taking door reader handle r id) where
  awaits := by
    unfold taking
    split
    · exact awaits_pure False.elim
    · refine hdoor.bind fun _ => ?_
      split
      · exact awaits_pure False.elim
      · exact (h _).awaits.excused
  stream := yields_taking (fun _ => trivial) (failsWith_true _) fun a => (h a).stream

theorem patient_post {path : String} {reader : Wire.Reader α}
    {handle : α → String → Flow σ (Outcome σ)} (h : ∀ a id, Patient S (handle a id)) :
    Patient S ((post path reader handle).handle r id) :=
  patient_taking (awaits_pure False.elim) fun a => h a id

theorem patient_dispatch {routes : List (Route σ)}
    (h : ∀ t ∈ routes, ∀ r id, Patient S (t.handle r id)) : Patient S (dispatch routes r id) := by
  unfold dispatch
  split
  · next t hfound => exact h t (List.mem_of_find?_eq_some hfound) r id
  · split
    · exact patient_pure trivial
    · split
      · exact patient_pure trivial
      · exact patient_pure trivial

/-- A service waits without end only for a reply that it has taken. -/
theorem awaits_serve {routes : List (Route σ)}
    (h : ∀ t ∈ routes, ∀ r id, Patient S (t.handle r id)) :
    Awaits S False Never (serve w routes r) := by
  have hdispatch : Patient S (dispatch routes r (w.idOr r.correlation)) := patient_dispatch h
  unfold serve
  refine hdispatch.awaits.outcome.bind_of_value fun result ⟨s, hs⟩ => ?_
  obtain rfl := Except.ok.inj hs
  exact (awaits_conclude (hdispatch.stream s)).mono .inr fun _ ha => ha

end Routes

/-! ## The services of the stages -/

section Stages

variable (w : Surroundings)

theorem awaits_modelHealth : Awaits modelServer E Never (modelHealth w) := by
  unfold modelHealth
  refine awaits_checkHealth.outcome.bind fun result => ?_
  match result with
  | .ok _ => exact (awaits_pure (W := Never) False.elim).bind fun _ => awaits_pure False.elim
  | .error (.failure _) =>
    exact (awaits_pure (W := Never) False.elim).bind fun _ => awaits_pure False.elim
  | .error (.defect d) =>
    exact (awaits_defect (W := Never) .inr).bind fun _ => awaits_pure False.elim

theorem patient_validation (body : Json) (id : String) :
    Patient modelServer
      (match Validation.Request.ofBody body with
        | .error f => Flow.fail f
        | .ok r => do
          return .data (← (Validation.check r.test (r.component.map (·.name))
            (.str id)).lift).toJson : Flow Backend (Outcome Backend)) := by
  split
  · exact ⟨awaits_fail _, yields_fail trivial⟩
  · exact patient_data (awaits_check _ _ _).lift Validation.Verdict.toJson

theorem patient_routes (p : Peer) :
    ∀ t ∈ routes w p, ∀ r id, Patient modelServer (t.handle r id) := by
  have hhealth : ∀ (name : String) r id,
      Patient modelServer ((healthRoute w name (pure [])).handle r id) := fun name _ _ =>
    patient_data (awaits_pure False.elim) (healthJson w name)
  intro t ht r id
  cases p with
  | analysis =>
    simp only [routes, analysisRoutes, List.mem_cons, List.not_mem_nil, or_false] at ht
    rcases ht with rfl | rfl
    · exact hhealth _ r id
    · exact patient_post fun q id =>
        patient_data (awaits_analyze q (.str id)).lift Component.Analysis.toJson
  | generation =>
    simp only [routes, generationRoutes, List.mem_cons, List.not_mem_nil, or_false] at ht
    rcases ht with rfl | rfl | rfl | rfl
    · exact patient_data (awaits_modelHealth w) (healthJson w _)
    · exact patient_data (awaits_models w.settings) fun ms => .arr (ms.map modelJson)
    · exact patient_post fun q id =>
        patient_data (awaits_generate w.settings q.analysis q.options none (.str id))
          TestFile.toJson
    · exact patient_post fun q id =>
        patient_pure (awaits_events w.settings q.analysis q.options none (.str id))
  | validation =>
    simp only [routes, validationRoutes, List.mem_cons, List.not_mem_nil, or_false] at ht
    rcases ht with rfl | rfl
    · exact hhealth _ r id
    · exact patient_post fun body id => patient_validation body id

/-- The service of a stage waits without end only for a reply of the model server. -/
theorem awaits_answer (p : Peer) (r : Request) :
    Awaits modelServer False Never (answer w p r) :=
  awaits_serve (patient_routes w p)

/-- A request without a response has met with an endless reply of the model server. -/
theorem exists_endless_of_answer {p : Peer} {r : Request} {b : Backend}
    (h : (Flow.run (answer w p r) b).1 = .error (.defect .endless)) :
    ∃ n < (Flow.sent b (Flow.run (answer w p r) b).2).length, IsEndless (b.script.reply n) := by
  obtain ⟨k, script, hscript, n, hn, hendless⟩ := (awaits_answer w p r).stuck (fun _ => rfl) h
  obtain rfl := Option.some.inj hscript
  exact ⟨n, lt_of_lt_of_le hn (List.countP_le_length), hendless⟩

end Stages

end TestScribe.Service
