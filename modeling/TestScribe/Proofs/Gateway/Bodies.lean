import TestScribe.Proofs.Gateway.Operations
import TestScribe.Proofs.Wire.Models
import TestScribe.Proofs.Wire.WithoutNulls

/-!
# Bodies that are sent and read

The gateway and the services of the stages agree on what goes between them: the body that is sent
for an operation is taken by the service that receives it, and what the service reads is what was
sent (`bodies_are_understood`).
-/

namespace TestScribe.Gateway.Client

open Wire Service
open Wire.Checked (seq_ok map_ok seq_eq_ok_iff functorMap_eq_ok_iff)

/-! ## Short forms

The gateway leaves out what is null.  A service reads the same as if the nulls were there. -/

/-- What is sent to the analysis, with its nulls. -/
def analysisMembers (r : Request) : Members :=
  [("code", .str r.code), ("filePath", .ofString? r.filePath), ("componentName", .ofString? r.name),
    ("metadata", Component.Request.metadataJson r.metadata)]

theorem analysisBody_eq (r : Request) :
    analysisBody r = .obj (withoutNulls (analysisMembers r)) := by
  have hsplit : analysisMembers r =
      [("code", .str r.code)] ++ [("filePath", .ofString? r.filePath)] ++
        [("componentName", .ofString? r.name)] ++
        [("metadata", Component.Request.metadataJson r.metadata)] := rfl
  rw [hsplit]
  simp only [withoutNulls_append, withoutNulls_singleton]
  rfl

theorem read_analysisBody (r : Request) :
    Component.Request.read (analysisBody r) =
      Component.Request.read (.obj (analysisMembers r)) := by
  have hnodup : ((analysisMembers r).map (·.1)).Nodup :=
    (by decide : ["code", "filePath", "componentName", "metadata"].Nodup)
  rw [analysisBody_eq, Component.Request.read, record, record]
  rw [field_withoutNulls fullText hnodup rfl (.inl rfl) rfl,
    field?_withoutNulls text hnodup rfl
      (.inr (by decide : "file_path" ∉ ["code", "filePath", "componentName", "metadata"])),
    field?_withoutNulls text hnodup rfl
      (.inr (by decide : "component_name" ∉ ["code", "filePath", "componentName", "metadata"])),
    field?_withoutNulls object hnodup rfl (.inl rfl)]

theorem read_toShortJson (o : Generation.Options) :
    Generation.Options.read o.toShortJson = Generation.Options.read o.toJson := by
  have hnodup : (o.members.map (·.1)).Nodup :=
    (by decide : ["model", "temperature", "maxTokens", "examples"].Nodup)
  have hshort : o.toShortJson = .obj (withoutNulls o.members) := rfl
  rw [hshort, Generation.Options.toJson, Generation.Options.read, record, record]
  rw [field?_withoutNulls text hnodup rfl (.inl rfl),
    field?_withoutNulls number hnodup rfl (.inl rfl),
    field?_withoutNulls (integerAbove 0) hnodup rfl
      (.inr (by decide : "max_tokens" ∉ ["model", "temperature", "maxTokens", "examples"])),
    field?_withoutNulls (list text) hnodup rfl (.inl rfl)]

/-! ## Each stage -/

theorem readValue_of_ok {α : Type} {reader : Reader α} {v : Json} {a : α}
    (h : reader v = .ok a) : readValue reader (some v) = .ok a := by
  rw [readValue, h]
  rfl

/-- The analysis reads the source, and the name of the component that the request gives. -/
theorem readValue_analysisBody {v : Json} {r : Request} (h : Request.read v = .ok r) :
    readValue Component.Request.read (some (analysisBody r)) =
      .ok { code := r.code, filePath := r.filePath, name := r.name, metadata := r.metadata } := by
  obtain ⟨ms, h⟩ := record_eq_ok h
  simp only [seq_eq_ok_iff, functorMap_eq_ok_iff] at h
  obtain ⟨_, ⟨_, ⟨_, ⟨_, ⟨_, ⟨_, ⟨_, ⟨code, hcode, rfl⟩, name, -, rfl⟩, path, hpath, rfl⟩,
    _, -, rfl⟩, _, -, rfl⟩, _, -, rfl⟩, metadata, hmetadata, rfl⟩, _, -, rfl⟩ := h
  apply readValue_of_ok
  rw [read_analysisBody]
  -- the name was trimmed after it was read, and any name is read back
  exact seq_ok (seq_ok (seq_ok (map_ok
    (fullText_roundTrips.field hcode rfl))
    (text?_roundTrips.field? rfl hpath rfl))
    (Checked.under_eq_ok_iff.2 (nullable_text_ofString? name)))
    (metadata?_roundTrips.field? rfl hmetadata rfl)

theorem readValue_generationBody {a : Component.Analysis} {options : Option Generation.Options}
    (ha : ∃ v, Component.Analysis.read v = .ok a)
    (hoptions : ∀ o ∈ options, ∃ v, Generation.Options.read v = .ok o) :
    readValue Generation.Request.read (some (generationBody a options)) =
      .ok { analysis := a, options } := by
  obtain ⟨v, hv⟩ := ha
  have hanalysis : Component.Analysis.read a.toJson = .ok a := analysis_roundTrips v a hv
  apply readValue_of_ok
  cases options with
  | none => exact seq_ok (map_ok (Checked.under_eq_ok_iff.2 hanalysis)) rfl
  | some o =>
    obtain ⟨w, hw⟩ := hoptions o rfl
    have hread : Generation.Options.read o.toShortJson = .ok o := by
      rw [read_toShortJson]
      exact options_roundTrips w o hw
    exact seq_ok (map_ok (Checked.under_eq_ok_iff.2 hanalysis))
      (Checked.under_eq_ok_iff.2 (map_ok hread))

/-- A test alone has no member under the name of the test in an envelope. -/
theorem ofBody_toJson {t : Generation.TestFile} (ht : ∃ v, Generation.TestFile.read v = .ok t) :
    Validation.Request.ofBody (validationBody t none) = .ok { test := t, component := none } := by
  obtain ⟨v, hv⟩ := ht
  have hread : Generation.TestFile.read t.toJson = .ok t := testFile_roundTrips v t hv
  have hbare : (t.toJson.get? "generatedTest").isSome = false := rfl
  rw [validationBody, Validation.Request.ofBody, hbare, hread]
  rfl

/-- The name of an analysis is not empty, so that it names a component to the validation. -/
theorem read_subject {v : Json} {a : Component.Analysis} (h : Component.Analysis.read v = .ok a) :
    Validation.Subject.read (.obj [("name", .str a.name), ("complexity", .int a.complexity)]) =
      .ok { name := a.name, complexity := some a.complexity } := by
  obtain ⟨ms, h⟩ := record_eq_ok h
  simp only [seq_eq_ok_iff, functorMap_eq_ok_iff] at h
  obtain ⟨_, ⟨_, ⟨_, ⟨_, ⟨_, ⟨_, ⟨_, ⟨_, ⟨_, ⟨_, ⟨name, hname, rfl⟩, _, -, rfl⟩, _, -, rfl⟩,
    _, -, rfl⟩, _, -, rfl⟩, _, -, rfl⟩, _, -, rfl⟩, _, -, rfl⟩, _, -, rfl⟩, _, -, rfl⟩,
    _, -, rfl⟩ := h
  -- that the name passed the same check before is all that is needed
  exact seq_ok (map_ok (fullText_roundTrips.field hname rfl)) rfl

theorem ofBody_envelope {t : Generation.TestFile} {a : Component.Analysis}
    (ht : ∃ v, Generation.TestFile.read v = .ok t) (ha : ∃ v, Component.Analysis.read v = .ok a) :
    Validation.Request.ofBody (validationBody t (some a)) =
      .ok { test := t, component := some { name := a.name, complexity := some a.complexity } } := by
  obtain ⟨v, hv⟩ := ht
  obtain ⟨w, hw⟩ := ha
  have hread : Validation.Request.read (validationBody t (some a)) =
      .ok { test := t, component := some { name := a.name, complexity := some a.complexity } } :=
    seq_ok (map_ok (Checked.under_eq_ok_iff.2 (testFile_roundTrips v t hv)))
      (Checked.under_eq_ok_iff.2 (map_ok (read_subject hw)))
  have henvelope : ((validationBody t (some a)).get? "generatedTest").isSome = true := rfl
  rw [Validation.Request.ofBody, henvelope, hread]
  rfl

/-! ## All stages -/

/-- Over the network an operation sends `body` and nothing else, each time as a request of the kind
that the service of the stage takes. -/
def Sends (op : Operation) (p : Peer) (path : String) (body : Json) : Prop :=
  ∀ (s : Surroundings) (c : Client), c.isRemote p = true → ∀ call ∈ (entryOf s op c).sent,
    call.service = p.name ∧ call.method = "POST" ∧ call.path = path ∧ call.body = some body

theorem sends_of_stageCall {op : Operation} {k : StageCall} (hk : op.stageCall? = some k) :
    Sends op k.peer k.path k.body := by
  intro s c hremote call hcall
  rw [eq_callOf_of_mem_sent hk c hremote hcall]
  exact ⟨rfl, rfl, rfl, rfl⟩

/-- The services read from the bodies that the gateway sends what it was asked to send.  A request,
an analysis, options or a test are any that can be read from JSON at all. -/
theorem bodies_are_understood :
    (∀ r id, (∃ v, Request.read v = .ok r) →
      Sends (.analyze r id) .analysis analyzePath (analysisBody r) ∧
      readValue Component.Request.read (some (analysisBody r)) =
        .ok { code := r.code, filePath := r.filePath, name := r.name, metadata := r.metadata }) ∧
    (∀ a options id, (∃ v, Component.Analysis.read v = .ok a) →
      (∀ o ∈ options, ∃ v, Generation.Options.read v = .ok o) →
      Sends (.generate a options id) .generation generatePath (generationBody a options) ∧
      readValue Generation.Request.read (some (generationBody a options)) =
        .ok { analysis := a, options }) ∧
    (∀ t a id, (∃ v, Generation.TestFile.read v = .ok t) →
      (∀ x ∈ a, ∃ v, Component.Analysis.read v = .ok x) →
      Sends (.validate t a id) .validation validatePath (validationBody t a) ∧
      Validation.Request.ofBody (validationBody t a) =
        .ok
          { test := t
            component := a.map fun x => { name := x.name, complexity := some x.complexity } }) := by
  refine ⟨?_, ?_, ?_⟩
  · rintro r id ⟨v, hv⟩
    have hsends := sends_of_stageCall (rfl : (Operation.analyze r id).stageCall? = some _)
    exact ⟨hsends, readValue_analysisBody hv⟩
  · intro a options id ha hoptions
    have hsends := sends_of_stageCall (rfl : (Operation.generate a options id).stageCall? = some _)
    exact ⟨hsends, readValue_generationBody ha hoptions⟩
  · intro t a id ht ha
    have hsends := sends_of_stageCall (rfl : (Operation.validate t a id).stageCall? = some _)
    refine ⟨hsends, ?_⟩
    cases a with
    | none => exact ofBody_toJson ht
    | some x => exact ofBody_envelope ht (ha x rfl)

/-- A request with blanks around the name and with a null inside of its notes. -/
def counterRequest : Json :=
  .obj [("code", .str "x"), ("name", .str " Counter "), ("metadata", .obj [("k", .null)])]

/-- An analysis of the component. -/
def counterAnalysis : Component.Analysis :=
  { name := "Counter", form := .functional, props := [], state := [⟨"count", some "0"⟩]
    hooks := [], handlers := [], imports := [], testIds := ["total"], complexity := 4
    recommendations := []
    metadata := [("note", .null)] }

/-- A test of the component. -/
def counterTest : Generation.TestFile :=
  { content := "test", model := none, prompt := "", metadata := []
    fileName := some "Counter.test.tsx", relativePath := none, generatedAt := none }

/-- Blanks around the name of a component are not sent, and nulls inside of notes are. -/
theorem bodies_are_understood_counter :
    (∃ r, Request.read counterRequest = .ok r ∧
      readValue Component.Request.read (some (analysisBody r)) =
        .ok { code := "x", filePath := none, name := some "Counter"
              metadata := some [("k", .null)] }) ∧
    readValue Generation.Request.read (some (generationBody counterAnalysis (some .none))) =
      .ok { analysis := counterAnalysis, options := some .none } ∧
    Validation.Request.ofBody (validationBody counterTest (some counterAnalysis)) =
      .ok
        { test := counterTest
          component := some { name := "Counter", complexity := some 4 } } := by
  obtain ⟨hanalysis, hgeneration, hvalidation⟩ := bodies_are_understood
  have ha : ∃ v, Component.Analysis.read v = .ok counterAnalysis := ⟨counterAnalysis.toJson, rfl⟩
  have ht : ∃ v, Generation.TestFile.read v = .ok counterTest := ⟨counterTest.toJson, rfl⟩
  refine ⟨⟨_, rfl, (hanalysis _ none ⟨counterRequest, rfl⟩).2⟩, ?_, ?_⟩
  · refine (hgeneration counterAnalysis (some .none) none ha ?_).2
    rintro o ⟨⟩
    exact ⟨.obj [], rfl⟩
  · refine (hvalidation counterTest (some counterAnalysis) none ht ?_).2
    rintro x ⟨⟩
    exact ha

end TestScribe.Gateway.Client
