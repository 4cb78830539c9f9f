import TestScribe.Gateway.Pipeline
import TestScribe.Proofs.Gateway.StageEnds
import TestScribe.Proofs.Generation.EventGrammar

/-!
# Runs of the pipeline

The gateway makes a test in three stages, one after another.  What a run sends and what it comes to
is put together from the ends of its stages (`run_makeTest`): a stage is begun only if the one
before passed on a result, all requests carry one id, and the first stage that fails ends the run
with its problem (`makeTest_staged`).
-/

namespace TestScribe.Gateway

open Transport TestScribe.Flow Client

/-! ## Courses -/

/-- What a run of the pipeline depends on: the request and what the run is given with it, the
breakers before it, the readings of the clock during it, and the replies of the services. -/
structure Course where
  surroundings : Service.Surroundings
  request : Request
  id : String
  options : Option Generation.Options
  breakers : Peer → Breaker Float
  reading : Nat → Float
  scripts : Peer → Script

namespace Course

variable (x : Course)

/-- The stage of the analysis. -/
def analysisStage : Stage Component.Analysis :=
  { peer := .analysis, path := Service.analyzePath, body := analysisBody x.request
    name := "ComponentAnalysis", reader := Component.Analysis.read }

/-- The stage of the generation, for an analysis. -/
def generationStage (a : Component.Analysis) : Stage Generation.TestFile :=
  { peer := .generation, path := Service.generatePath
    body := generationBody (enriched a x.request) x.options, name := "GeneratedTest"
    reader := Generation.TestFile.read }

/-- The stage of the validation, for an analysis and a test. -/
def validationStage (a : Component.Analysis) (t : Generation.TestFile) :
    Stage Validation.Verdict :=
  { peer := .validation, path := Service.validatePath
    body := validationBody t (some (enriched a x.request)), name := "ValidationResult"
    reader := Validation.Verdict.read }

section Ends

variable {α : Type} (k : Stage α) (n : Nat)

/-- What comes of a stage that `n` others precede. -/
def result : Except Problem α :=
  k.result x.id x.surroundings (x.breakers k.peer) (x.reading n) (x.scripts k.peer)

/-- The number of requests of a stage that `n` others precede. -/
def count : Nat :=
  k.requests x.id x.surroundings (x.breakers k.peer) (x.reading n) (x.scripts k.peer)

/-- The requests of a stage that `n` others precede. -/
def callsOf : List Call :=
  List.replicate (x.count k n) (k.request x.id)

end Ends

/-- What comes of the analysis. -/
def analysis : Except Problem Component.Analysis :=
  x.result x.analysisStage 0

/-- What comes of the generation. -/
def generation (a : Component.Analysis) : Except Problem Generation.TestFile :=
  x.result (x.generationStage a) 1

/-- What comes of the validation. -/
def validation (a : Component.Analysis) (t : Generation.TestFile) :
    Except Problem Validation.Verdict :=
  x.result (x.validationStage a t) 2

/-- A verdict with what the stages left open about the test. -/
def completed (a : Component.Analysis) (t : Generation.TestFile) (v : Validation.Verdict) :
    Validation.Verdict :=
  { v with test := finished v.test t (enriched a x.request) x.request x.surroundings.now }

/-- What comes of the run. -/
def verdict : Except Problem Validation.Verdict := do
  let a ← x.analysis
  let t ← x.generation a
  let v ← x.validation a t
  return x.completed a t v

/-- What follows the calls of a stage that came to `r`. -/
def callsAfter {α : Type} (r : Except Problem α) (rest : α → List Call) : List Call :=
  match r with
  | .error _ => []
  | .ok a => rest a

@[simp] theorem callsAfter_nil {α : Type} (r : Except Problem α) :
    callsAfter r (fun _ => []) = [] := by
  cases r <;> rfl

/-- The requests of the run. -/
def calls : List Call :=
  x.callsOf x.analysisStage 0 ++ callsAfter x.analysis fun a =>
    x.callsOf (x.generationStage a) 1 ++ callsAfter (x.generation a) fun t =>
      x.callsOf (x.validationStage a t) 2

/-- A run from this client takes the course. -/
structure StartsAt (start : Client) : Prop where
  links : ∀ p, start.links p = .remote (x.scripts p)
  breakers : start.breakers = x.breakers
  reading : ∀ n, start.clock.reading (start.clock.used + n) = x.reading n

end Course

/-! ## From one stage to the next -/

namespace Client

/-- What was sent on the way from one client to a later one. -/
def HasSent (start : Client) (calls : List Call) (c : Client) : Prop :=
  ∃ es, c.backend.journal = start.backend.journal ++ es ∧ callsIn es = calls

theorem HasSent.sent_eq {start c : Client} {calls : List Call} (h : HasSent start calls c) :
    Flow.sent start c = calls := by
  obtain ⟨es, hes, hcalls⟩ := h
  exact (Flow.sent_eq hes).trans hcalls

theorem HasSent.append {start c c' : Client} {calls calls' : List Call}
    (h : HasSent start calls c) (h' : HasSent c calls' c') :
    HasSent start (calls ++ calls') c' := by
  obtain ⟨es, hes, hcalls⟩ := h
  obtain ⟨es', hes', hcalls'⟩ := h'
  refine ⟨es ++ es', ?_, ?_⟩
  · rw [hes', hes, List.append_assoc]
  · rw [callsIn_append, hcalls, hcalls']

/-- The client before the stage after `n` others, when `calls` were sent: the services in `left`
were not called yet, and each stage that went well has looked at the clock once. -/
structure Reached (start : Client) (n : Nat) (left : List Peer) (calls : List Call) (c : Client) :
    Prop where
  sent : HasSent start calls c
  clock : c.clock = { start.clock with used := start.clock.used + n }
  links : ∀ p ∈ left, c.links p = start.links p
  breakers : ∀ p ∈ left, c.breakers p = start.breakers p

/-- Running a flow comes to `r`, and by then `calls` were sent. -/
def Ends {β : Type} (start : Client) (flow : Flow Client β) (c : Client) (calls : List Call)
    (r : Except Problem β) : Prop :=
  (Flow.run flow c).1 = r ∧ HasSent start calls (Flow.run flow c).2

section Stages

variable {x : Course} {start c : Client} {α β : Type} {k : Stage α} {n : Nat} {left : List Peer}
  {calls : List Call}

/-- A stage that is reached ends as if no other stage had come before, but for the time, and if it
passes on a result the next stage is reached. -/
theorem Reached.run_flow (hstart : x.StartsAt start) (h : Reached start n (k.peer :: left) calls c)
    (hleft : k.peer ∉ left) :
    ∃ c', Flow.run (k.flow x.id x.surroundings) c = (x.result k n, c') ∧
      HasSent start (calls ++ x.callsOf k n) c' ∧
      ∀ a, x.result k n = .ok a → Reached start (n + 1) left (calls ++ x.callsOf k n) c' := by
  have hlink : c.links k.peer = .remote (x.scripts k.peer) :=
    (h.links k.peer List.mem_cons_self).trans (hstart.links k.peer)
  have hbreaker : c.breakers k.peer = x.breakers k.peer :=
    (h.breakers k.peer List.mem_cons_self).trans (congrFun hstart.breakers k.peer)
  have htime : c.askedAt = x.reading n := by
    rw [askedAt, h.clock]
    exact hstart.reading n
  obtain ⟨hresult, hafter⟩ := k.run_flow x.id x.surroundings _ hlink
  have hjournal := hafter.journal
  have hpassed := hafter.passed
  rw [hbreaker, htime] at hresult hjournal hpassed
  have hsent : HasSent start (calls ++ x.callsOf k n)
      (Flow.run (k.flow x.id x.surroundings) c).2 := h.sent.append hjournal
  refine ⟨_, Prod.ext hresult rfl, hsent, fun a ha => ?_⟩
  obtain ⟨hclock, hothers⟩ := hpassed a ha
  have hne : ∀ p ∈ left, p ≠ k.peer := fun p hp => ne_of_mem_of_not_mem hp hleft
  refine ⟨hsent, ?_, fun p hp => ?_, fun p hp => ?_⟩
  · rw [hclock, h.clock]
    rfl
  · rw [(hothers p (hne p hp)).1]
    exact h.links p (List.mem_cons_of_mem _ hp)
  · rw [(hothers p (hne p hp)).2]
    exact h.breakers p (List.mem_cons_of_mem _ hp)

/-- The rule for one stage before others: what they come to is what comes of both. -/
theorem Reached.bind (hstart : x.StartsAt start) (h : Reached start n (k.peer :: left) calls c)
    (hleft : k.peer ∉ left) {f : α → Flow Client β} {r : α → Except Problem β}
    {rest : α → List Call}
    (hf : ∀ a c', Reached start (n + 1) left (calls ++ x.callsOf k n) c' →
      Ends start (f a) c' (calls ++ x.callsOf k n ++ rest a) (r a)) :
    Ends start (k.flow x.id x.surroundings >>= f) c
      (calls ++ (x.callsOf k n ++ Course.callsAfter (x.result k n) rest)) (x.result k n >>= r) := by
  obtain ⟨c', hrun, hsent, hnext⟩ := h.run_flow hstart hleft
  rw [← List.append_assoc]
  cases hresult : x.result k n with
  | error p =>
    rw [hresult] at hrun
    rw [Ends, run_bind_of_error hrun, Course.callsAfter, List.append_nil]
    exact ⟨rfl, hsent⟩
  | ok a =>
    rw [hresult] at hrun
    rw [Ends, run_bind_of_ok hrun]
    exact hf a c' (hnext a hresult)

/-- The rule for the last stage, after which nothing is sent. -/
theorem Reached.bind_last (hstart : x.StartsAt start)
    (h : Reached start n (k.peer :: left) calls c) (hleft : k.peer ∉ left) {f : α → Flow Client β}
    {r : α → Except Problem β}
    (hf : ∀ a c', HasSent start (calls ++ x.callsOf k n) c' →
      Ends start (f a) c' (calls ++ x.callsOf k n) (r a)) :
    Ends start (k.flow x.id x.surroundings >>= f) c (calls ++ x.callsOf k n)
      (x.result k n >>= r) := by
  have hnothing : ∀ a c', Reached start (n + 1) left (calls ++ x.callsOf k n) c' →
      Ends start (f a) c' (calls ++ x.callsOf k n ++ []) (r a) := fun a c' h' => by
    rw [List.append_nil]
    exact hf a c' h'.sent
  have hends := h.bind hstart hleft hnothing
  rwa [Course.callsAfter_nil, List.append_nil] at hends

/-- Writing a record sends nothing. -/
theorem HasSent.ends_note (h : HasSent start calls c) (severity : Journal.Severity)
    (part message : String) (fields : Members) (b : β) :
    Ends start (do Flow.note severity part message fields; return b) c calls (.ok b) := by
  have hnote : HasSent c []
      (Flow.run (Flow.note severity part message fields : Flow Client Unit) c).2 := ⟨_, rfl, rfl⟩
  have hboth := h.append hnote
  rw [List.append_nil] at hboth
  exact ⟨rfl, hboth⟩

end Stages

end Client

/-- The client with all services reached over the network. -/
def Client.over (scripts : Peer → Script) (c : Client) : Client :=
  { c with links := fun p => .remote (scripts p) }

/-- The course of a run. -/
def courseOf (s : Service.Surroundings) (r : Request) (given : Option String)
    (options : Option Generation.Options) (scripts : Peer → Script) (c : Client) : Course :=
  { surroundings := s, request := r, id := s.idOr given, options := options.or r.options
    breakers := c.breakers, reading := fun n => c.clock.reading (c.clock.used + n), scripts }

section Runs

variable (s : Service.Surroundings) (r : Request) (given : Option String)
  (options : Option Generation.Options) (scripts : Peer → Script) (c : Client)

/-- A run of the pipeline takes its course. -/
theorem run_makeTest :
    Ends (c.over scripts) (makeTest s r given options) (c.over scripts)
      (courseOf s r given options scripts c).calls
      (courseOf s r given options scripts c).verdict := by
  have hstart : (courseOf s r given options scripts c).StartsAt (c.over scripts) :=
    ⟨fun _ => rfl, rfl, fun _ => rfl⟩
  obtain ⟨begun, hnote, hbegun⟩ : ∃ begun, Flow.run (Flow.note .info pipelinePart
        ("Generating test for component " ++ labelOf r)
        [("correlation_id", .str (s.idOr given)), ("component", .str (labelOf r))])
        (c.over scripts) = (.ok (), begun) ∧ Reached (c.over scripts) 0 Peer.all [] begun :=
    ⟨_, rfl, ⟨_, rfl, rfl⟩, rfl, fun _ _ => rfl, fun _ _ => rfl⟩
  unfold Ends makeTest
  simp only
  rw [run_bind_of_ok hnote]
  refine hbegun.bind (k := (courseOf s r given options scripts c).analysisStage) hstart
    (by decide : Peer.analysis ∉ [Peer.generation, Peer.validation]) fun a c₁ h₁ => ?_
  refine h₁.bind (k := (courseOf s r given options scripts c).generationStage a) hstart
    (by decide : Peer.generation ∉ [Peer.validation]) fun t c₂ h₂ => ?_
  exact h₂.bind_last (k := (courseOf s r given options scripts c).validationStage a t) hstart
    (by decide : Peer.validation ∉ []) fun v c₃ h₃ => h₃.ends_note _ _ _ _ _

end Runs

/-! ## What a run sends and what it comes to -/

/-- Where a request goes. -/
def routeOf (call : Call) : String × String × String :=
  (call.service, call.method, call.path)

namespace Course

variable (x : Course)

/-- The largest number of requests of a stage. -/
def limit : Nat :=
  x.surroundings.settings.retryAttempts.toNat + 1

/-- A reply of the service of a stage was accepted as `a`. -/
def Accepted {α : Type} (k : Stage α) (a : α) : Prop :=
  k.Accepts x.id (x.scripts k.peer) (Patience.ofSettings x.surroundings.settings) a

/-- The law of a run that sent `sent` and came to `outcome`.  The requests go to the analysis, then
to the generation, then to the validation, each at most as often as the settings allow, and to a
stage only if the one before has accepted a reply.  All carry the same id.  The run comes to a
verdict exactly if all stages pass on a result, and keeps what the validation says; else it comes to
the problem of the first stage that has one. -/
structure Staged (sent : List Call) (outcome : Except Problem Validation.Verdict) : Prop where
  sequence : ∃ a b d,
    sent.map routeOf =
      List.replicate a ("code-analysis", "POST", "/api/analyze") ++
        (List.replicate b ("llm-service", "POST", "/api/generate") ++
          List.replicate d ("test-validation", "POST", "/api/validate")) ∧
    a ≤ x.limit ∧ b ≤ x.limit ∧ d ≤ x.limit ∧
    (0 < b → ∃ y, x.analysis = .ok y ∧ x.Accepted x.analysisStage y) ∧
    (0 < d → ∃ y t, x.analysis = .ok y ∧ x.generation y = .ok t ∧
      x.Accepted (x.generationStage y) t)
  correlation : ∀ call ∈ sent, call.correlation = some x.id
  verdict_iff : ∀ v, outcome = .ok v ↔
    ∃ y t w, x.analysis = .ok y ∧ x.generation y = .ok t ∧ x.validation y t = .ok w ∧
      v = x.completed y t w ∧ v.valid = w.valid ∧ v.issues = w.issues
  problem_iff : ∀ p, outcome = .error p ↔
    x.analysis = .error p ∨
    (∃ y, x.analysis = .ok y ∧ x.generation y = .error p) ∨
    ∃ y t, x.analysis = .ok y ∧ x.generation y = .ok t ∧ x.validation y t = .error p

variable {x}

section Calls

variable {α : Type} (k : Stage α) (n : Nat)

theorem count_le : x.count k n ≤ x.limit :=
  k.requests_le _ _ _ _ _

theorem map_routeOf_callsOf :
    (x.callsOf k n).map routeOf = List.replicate (x.count k n) (k.peer.name, "POST", k.path) :=
  List.map_replicate

theorem accepted_of_result {a : α} (h : x.result k n = .ok a) : x.Accepted k a :=
  k.accepts_of_result _ _ _ _ _ h

theorem correlation_of_mem_callsOf (hid : x.id ≠ "") {call : Call} (h : call ∈ x.callsOf k n) :
    call.correlation = some x.id := by
  rw [List.eq_of_mem_replicate h]
  simp [Stage.request, callOf, hid]

end Calls

theorem mem_callsAfter {α : Type} {r : Except Problem α} {rest : α → List Call} {call : Call}
    (h : call ∈ callsAfter r rest) : ∃ a, r = .ok a ∧ call ∈ rest a := by
  cases r with
  | error p => exact absurd h List.not_mem_nil
  | ok a => exact ⟨a, rfl, h⟩

section Bind

variable {α β : Type} {r : Except Problem α} {f : α → Except Problem β}

theorem bind_eq_ok_iff {b : β} : (r >>= f) = .ok b ↔ ∃ a, r = .ok a ∧ f a = .ok b := by
  cases r <;> simp [bind, Except.bind]

theorem bind_eq_error_iff {p : Problem} :
    (r >>= f) = .error p ↔ r = .error p ∨ ∃ a, r = .ok a ∧ f a = .error p := by
  cases r <;> simp [bind, Except.bind]

end Bind

/-- What is sent on a course, and what comes of it, obeys the law of a run. -/
theorem staged (hid : x.id ≠ "") : x.Staged x.calls x.verdict where
  sequence := by
    cases h₁ : x.analysis with
    | error p =>
      refine ⟨x.count x.analysisStage 0, 0, 0, ?_, count_le _ _, Nat.zero_le _, Nat.zero_le _,
        fun h => absurd h (Nat.lt_irrefl 0), fun h => absurd h (Nat.lt_irrefl 0)⟩
      rw [calls, h₁, callsAfter, List.append_nil, map_routeOf_callsOf]
      exact (List.append_nil _).symm
    | ok y =>
      have haccepted := accepted_of_result x.analysisStage 0 h₁
      cases h₂ : x.generation y with
      | error p =>
        refine ⟨x.count x.analysisStage 0, x.count (x.generationStage y) 1, 0, ?_, count_le _ _,
          count_le _ _, Nat.zero_le _, fun _ => ⟨y, rfl, haccepted⟩,
          fun h => absurd h (Nat.lt_irrefl 0)⟩
        rw [calls, h₁, callsAfter, h₂, callsAfter, List.append_nil, List.map_append,
          map_routeOf_callsOf, map_routeOf_callsOf]
        exact congrArg _ (List.append_nil _).symm
      | ok t =>
        refine ⟨x.count x.analysisStage 0, x.count (x.generationStage y) 1,
          x.count (x.validationStage y t) 2, ?_, count_le _ _, count_le _ _, count_le _ _,
          fun _ => ⟨y, rfl, haccepted⟩,
          fun _ => ⟨y, t, rfl, h₂, accepted_of_result (x.generationStage y) 1 h₂⟩⟩
        rw [calls, h₁, callsAfter, h₂, callsAfter, List.map_append, List.map_append,
          map_routeOf_callsOf, map_routeOf_callsOf, map_routeOf_callsOf]
        rfl
  correlation call hcall := by
    rcases List.mem_append.1 hcall with h | h
    · exact correlation_of_mem_callsOf _ _ hid h
    · obtain ⟨y, -, h⟩ := mem_callsAfter h
      rcases List.mem_append.1 h with h | h
      · exact correlation_of_mem_callsOf _ _ hid h
      · obtain ⟨t, -, h⟩ := mem_callsAfter h
        exact correlation_of_mem_callsOf _ _ hid h
  verdict_iff v := by
    simp only [verdict, bind_eq_ok_iff]
    constructor
    · rintro ⟨y, h₁, t, h₂, w, h₃, h⟩
      obtain rfl := Except.ok.inj h
      exact ⟨y, t, w, h₁, h₂, h₃, rfl, rfl, rfl⟩
    · rintro ⟨y, t, w, h₁, h₂, h₃, rfl, -, -⟩
      exact ⟨y, h₁, t, h₂, w, h₃, rfl⟩
  problem_iff p := by
    simp only [verdict, bind_eq_error_iff]
    constructor
    · rintro (h₁ | ⟨y, h₁, h₂ | ⟨t, h₂, h₃ | ⟨w, -, h⟩⟩⟩)
      · exact .inl h₁
      · exact .inr (.inl ⟨y, h₁, h₂⟩)
      · exact .inr (.inr ⟨y, t, h₁, h₂, h₃⟩)
      · cases h
    · rintro (h₁ | ⟨y, h₁, h₂⟩ | ⟨y, t, h₁, h₂, h₃⟩)
      · exact .inl h₁
      · exact .inr ⟨y, h₁, .inl h₂⟩
      · exact .inr ⟨y, h₁, .inr ⟨t, h₂, .inl h₃⟩⟩

end Course

theorem idOr_of_some (s : Service.Surroundings) {given : String} (h : given ≠ "") :
    s.idOr (some given) = given := by
  simp [Service.Surroundings.idOr, Option.filter, h]

theorem idOr_of_none (s : Service.Surroundings) {given : Option String}
    (h : given = none ∨ given = some "") : s.idOr given = s.freshId := by
  rcases h with rfl | rfl <;> rfl

theorem idOr_ne_empty {s : Service.Surroundings} (h : s.freshId ≠ "") (given : Option String) :
    s.idOr given ≠ "" := by
  by_cases hg : given = none ∨ given = some ""
  · rwa [idOr_of_none s hg]
  · obtain ⟨g, rfl⟩ := Option.ne_none_iff_exists'.1 (mt Or.inl hg)
    have hne : g ≠ "" := fun hempty => hg (.inr (congrArg some hempty))
    rwa [idOr_of_some s hne]

/-- Every run of the pipeline over the network obeys the law of a run, under the id that it is
given, or a fresh one if it is given none. -/
theorem makeTest_staged (s : Service.Surroundings) (hfresh : s.freshId ≠ "") (r : Request)
    (given : Option String) (options : Option Generation.Options) (scripts : Peer → Script)
    (c : Client) :
    (courseOf s r given options scripts c).Staged
      (Flow.sent (c.over scripts) (Flow.run (makeTest s r given options) (c.over scripts)).2)
      (Flow.run (makeTest s r given options) (c.over scripts)).1 ∧
    (∀ g, g ≠ "" → given = some g → (courseOf s r given options scripts c).id = g) ∧
    (given = none ∨ given = some "" →
      (courseOf s r given options scripts c).id = s.freshId) := by
  obtain ⟨houtcome, hsent⟩ := run_makeTest s r given options scripts c
  refine ⟨?_, fun g hg hgiven => ?_, fun hgiven => idOr_of_none s hgiven⟩
  · rw [houtcome, hsent.sent_eq]
    exact Course.staged (idOr_ne_empty hfresh given)
  · subst hgiven
    exact idOr_of_some s hg

/-! ## A generation that cannot be reached -/

/-- Settings under which a request is sent again once. -/
def persistent : Settings :=
  { Generation.impatient with retryAttempts := 1 }

/-- What the gateway is given for a run. -/
def someSurroundings : Service.Surroundings :=
  { settings := persistent, freshId := "fresh"
    now := { date := { year := 2024, month := 1, day := 2 }, hour := 3, minute := 4, second := 5
             micro := 0, offset := some 0 } }

/-- A request for a test. -/
def someRequest : Request :=
  { code := "const Greeting = () => null", name := none, filePath := none, displayName := none
    instructions := none, extent := .full, metadata := none, options := none }

/-- No connection. -/
def refused : Script :=
  { first := .mishap { trouble := .unreachable, message := "refused" }, rest := [] }

/-- The analysis answers, and no other service can be reached. -/
def analysisOnly : Peer → Script
  | .analysis =>
    { first := .answer
        { status := 200
          text := "\x7b\"data\":\x7b\"name\":\"Greeting\",\"type\":\"functional\"\x7d\x7d"
          ending := .complete }
      rest := [] }
  | _ => refused

/-- A gateway that was not called yet. -/
def newClient : Client :=
  { links := fun _ => .inHouse, breakers := fun _ => .fresh
    clock := { reading := fun _ => 0.0, used := 0 }
    backend := { script := refused, handed := [], clock := { reading := fun _ => 0.0, used := 0 }
                 journal := [] } }

/-- The generation is asked twice after one answer of the analysis, and the validation never. -/
theorem makeTest_staged_analysisOnly :
    someSurroundings.freshId ≠ "" ∧
    (courseOf someSurroundings someRequest none none analysisOnly newClient).Staged
      (Flow.sent (newClient.over analysisOnly)
        (Flow.run (makeTest someSurroundings someRequest none none)
          (newClient.over analysisOnly)).2)
      (Flow.run (makeTest someSurroundings someRequest none none) (newClient.over analysisOnly)).1 ∧
    (Flow.sent (newClient.over analysisOnly)
        (Flow.run (makeTest someSurroundings someRequest none none)
          (newClient.over analysisOnly)).2).map routeOf =
      [("code-analysis", "POST", "/api/analyze"), ("llm-service", "POST", "/api/generate"),
        ("llm-service", "POST", "/api/generate")] := by
  have hfresh : someSurroundings.freshId ≠ "" := by decide
  exact ⟨hfresh,
    (makeTest_staged someSurroundings hfresh someRequest none none analysisOnly newClient).1,
    by decide +kernel⟩

end TestScribe.Gateway
