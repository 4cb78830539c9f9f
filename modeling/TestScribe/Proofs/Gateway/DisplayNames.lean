import TestScribe.Proofs.Gateway.PipelineRun
import TestScribe.Proofs.Gateway.StageValues

/-!
# How a run calls the component

A run that comes to a verdict has called the component by some name in the notes that went to the
generation, and calls it by some name in the notes of the finished test, from which it makes the
file name if no stage has set one.  The two are the same just if the caller gave a name to display,
or no other name than the one that was found in the source (`run_calls_component`).
-/

namespace TestScribe.Gateway

open Transport TestScribe.Flow Client Component Generation

/-! ## Requests of a stage that went well -/

/-- A stage that passes on a result has sent its request. -/
theorem Client.Stage.requests_pos_of_result {α : Type} {k : Stage α} {id : String}
    {s : Service.Surroundings} {b : Breaker Float} {t : Float} {script : Script} {a : α}
    (h : k.result id s b t script = .ok a) : 0 < k.requests id s b t script := by
  unfold result at h
  unfold requests
  by_cases htaken : (b.attempt t).2 = true
  · rw [if_pos htaken] at h
    cases hobjection : objection? (k.request id) with
    | none => simp [htaken]
    | some d =>
      rw [hobjection] at h
      cases h
  · rw [if_neg htaken] at h
    cases h

/-! ## Names -/

/-- How the notes that go to the generation call the component. -/
def attachedName (a : Analysis) (r : Request) : String :=
  (r.displayName.or r.name).getD a.name

/-- The name to display that stands in the notes of an analysis that is sent. -/
def attachedIn? (call : Call) : Option Json := do
  let body ← call.body
  let analysis ← body.get? "analysis"
  let notes ← analysis.get? "metadata"
  notes.get? "displayName"

/-- The caller gave a name to display, or no other name than `name`. -/
def Request.Calls (r : Request) (name : String) : Prop :=
  r.displayName = none → ∀ hint, r.name = some hint → hint = name

theorem attachedName_eq_finalName_iff (a : Analysis) (r : Request) :
    attachedName a r = finalName a r ↔ r.Calls a.name := by
  unfold attachedName finalName Request.Calls
  cases r.displayName with
  | some display => simp
  | none => cases r.name <;> simp

theorem displayName_enriched (a : Analysis) (r : Request) :
    (enriched a r).metadata.get? "displayName" = some (.str (attachedName a r)) :=
  displayName_merge_callerNotes _ _ r

/-- The request of the generation holds the notes of the analysis that it is for. -/
theorem attachedIn?_request (x : Course) (a : Analysis) :
    attachedIn? ((x.generationStage a).request x.id) =
      some (.str (attachedName a x.request)) := by
  have hanalysis : (generationBody (enriched a x.request) x.options).get? "analysis" =
      some (enriched a x.request).toJson := rfl
  have hnotes : (enriched a x.request).toJson.get? "metadata" =
      some (.obj (enriched a x.request).metadata) := rfl
  show ((generationBody (enriched a x.request) x.options).get? "analysis").bind
      (fun analysis => (analysis.get? "metadata").bind fun notes => notes.get? "displayName") = _
  rw [hanalysis, Option.bind_some, hnotes, Option.bind_some]
  exact displayName_enriched a x.request

namespace Course

variable {x : Course} {a : Analysis} {t : TestFile}

/-- What is sent to the generation on a course that gets there. -/
theorem mem_calls_generation_iff (ha : x.analysis = .ok a) (ht : x.generation a = .ok t)
    (call : Call) :
    call ∈ x.calls ∧ call.service = "llm-service" ↔
      call = (x.generationStage a).request x.id := by
  have hsome : 0 < x.count (x.generationStage a) 1 := Stage.requests_pos_of_result ht
  rw [calls, ha, callsAfter, ht, callsAfter]
  simp only [callsOf, List.mem_append, List.mem_replicate]
  constructor
  · rintro ⟨⟨-, rfl⟩ | ⟨-, rfl⟩ | ⟨-, rfl⟩, hservice⟩
    · exact absurd hservice (by decide : "code-analysis" ≠ "llm-service")
    · rfl
    · exact absurd hservice (by decide : "test-validation" ≠ "llm-service")
  · rintro rfl
    exact ⟨.inr (.inl ⟨by omega, rfl⟩), rfl⟩

end Course

/-- A run that sent `sent` and finished the test `final` calls the component `attachedAs` in the
notes for the generation, which was asked, and `finalAs` in those of the finished test, where it
makes a file name of it if neither of the two stages has set one. -/
structure CallsComponent (sent : List Call) (final generated validated : TestFile)
    (attachedAs finalAs : String) : Prop where
  asked : ∃ call ∈ sent, call.service = "llm-service"
  attached : ∀ call ∈ sent, call.service = "llm-service" →
    attachedIn? call = some (.str attachedAs)
  displayName : final.metadata.get? "displayName" = some (.str finalAs)
  fileName : unlessEmpty validated.fileName = none → unlessEmpty generated.fileName = none →
    final.fileName = some (Text.withoutBlanks finalAs ++ ".test.tsx")

/-- A run that comes to a verdict calls the component by one name throughout just if the caller gave
a name to display, or no other name than the one that the analysis found. -/
theorem run_calls_component (s : Service.Surroundings) (r : Request) (given : Option String)
    (options : Option Generation.Options) (scripts : Peer → Script) (c : Client)
    {v : Validation.Verdict}
    (hrun : (Flow.run (makeTest s r given options) (c.over scripts)).1 = .ok v) :
    let x := courseOf s r given options scripts c
    ∃ a t w, x.analysis = .ok a ∧ x.generation a = .ok t ∧ x.validation a t = .ok w ∧
      ∃ attachedAs finalAs,
        CallsComponent
          (Flow.sent (c.over scripts) (Flow.run (makeTest s r given options) (c.over scripts)).2)
          v.test t w.test attachedAs finalAs ∧
        (attachedAs = finalAs ↔ r.Calls a.name) := by
  intro x
  obtain ⟨houtcome, hsent⟩ := run_makeTest s r given options scripts c
  rw [houtcome, Course.verdict, Course.bind_eq_ok_iff] at hrun
  obtain ⟨a, ha, hrun⟩ := hrun
  obtain ⟨t, ht, hrun⟩ := Course.bind_eq_ok_iff.1 hrun
  obtain ⟨w, hw, hrun⟩ := Course.bind_eq_ok_iff.1 hrun
  obtain rfl := Except.ok.inj hrun
  refine ⟨a, t, w, ha, ht, hw, attachedName a r, finalName a r, ?_,
    attachedName_eq_finalName_iff a r⟩
  have hcalls := Course.mem_calls_generation_iff (x := x) ha ht
  rw [hsent.sent_eq]
  constructor
  case asked => exact ⟨_, (hcalls _).2 rfl⟩
  case attached =>
    intro call hcall hservice
    rw [(hcalls call).1 ⟨hcall, hservice⟩]
    exact attachedIn?_request x a
  case displayName => exact displayName_finished w.test t (enriched a r) r s.now
  case fileName =>
    intro hvalidated hgenerated
    show some (((unlessEmpty w.test.fileName).or (unlessEmpty t.fileName)).getD
      (testFileName (finalName a r))) = _
    rw [hvalidated, hgenerated]
    rfl

/-! ## A caller with a hint -/

/-- A script of one answer. -/
def answering (text : String) : Script :=
  { first := .answer { status := 200, text, ending := .complete }, rest := [] }

/-- Services that find a component called `Card` and make a test for it. -/
def cardServices : Peer → Script
  | .analysis =>
    answering "\x7b\"data\":\x7b\"name\":\"Card\",\"type\":\"functional\"\x7d\x7d"
  | .generation => answering "\x7b\"data\":\x7b\"content\":\"c\"\x7d\x7d"
  | .validation =>
    answering ("\x7b\"data\":\x7b\"valid\":true,\"generatedTest\":" ++
      "\x7b\"content\":\"c\"\x7d\x7d\x7d")

/-- A request for a test of a component that the caller calls `name`. -/
def hinting (name : String) : Request :=
  { bareRequest with name := some name }

/-- A run over the services of `cardServices`. -/
def cardRun (r : Request) : Except Problem Validation.Verdict × Client :=
  Flow.run (makeTest someSurroundings r none none) (newClient.over cardServices)

/-- The names in the notes for the generation, and, of a run that comes to a verdict, the name in
the notes of the finished test and its file name. -/
def namesIn (e : Except Problem Validation.Verdict × Client) :
    List String × Option (Option String × Option String) :=
  ((Flow.sent (newClient.over cardServices) e.2).filterMap fun call =>
      (attachedIn? call).bind Json.string?,
    e.1.toOption.map fun v =>
      ((v.test.metadata.get? "displayName").bind Json.string?, v.test.fileName))

theorem run_calls_component_card :
    ∃ v, (cardRun bareRequest).1 = .ok v ∧
      ∃ (a : Analysis) (t : TestFile) (w : Validation.Verdict) (attachedAs finalAs : String),
        CallsComponent (Flow.sent (newClient.over cardServices) (cardRun bareRequest).2) v.test t
          w.test attachedAs finalAs ∧
        (attachedAs = finalAs ↔ bareRequest.Calls a.name) ∧
        namesIn (cardRun bareRequest) = (["Card"], some (some "Card", some "Card.test.tsx")) := by
  have hnames : namesIn (cardRun bareRequest) =
      (["Card"], some (some "Card", some "Card.test.tsx")) := by
    decide +kernel
  have hok : (cardRun bareRequest).1.toOption.isSome = true := by
    decide +kernel
  rcases hrun : (cardRun bareRequest).1 with p | v
  · rw [hrun] at hok
    cases hok
  · obtain ⟨a, t, w, -, -, -, attachedAs, finalAs, hcalls, hagree⟩ :=
      run_calls_component someSurroundings bareRequest none none cardServices newClient hrun
    exact ⟨v, rfl, a, t, w, attachedAs, finalAs, hcalls, hagree, hnames⟩

/-- The notes for the generation say `Hint`, those of the finished test and its file say `Card`. -/
theorem run_calls_component_twice :
    namesIn (cardRun (hinting "Hint")) =
      (["Hint"], some (some "Card", some "Card.test.tsx")) := by
  decide +kernel

end TestScribe.Gateway
