import Mathlib.Data.List.DropRight
import TestScribe.Component.Analyzer
import TestScribe.Gateway.Health
import TestScribe.Gateway.Request
import TestScribe.Generation.Request
import TestScribe.Generation.TestFile
import TestScribe.Proofs.FirstSeen
import TestScribe.Proofs.Time.InstantText
import TestScribe.Proofs.Wire.RoundTrip
import TestScribe.Validation.Verdict

/-!
# Models on the wire

Each model that goes over the wire reads back from what is written for it, whichever spelling of the
names and whichever forms of the values it was read from (`Model.read_toJson`).  A model is taken
apart into its fields; what a field was read from does not matter any more once it is read.
-/

namespace TestScribe.Wire

open Checked Component Gateway Generation Validation

/-! ## Cleaned parts

Repeated entries and blanks at the ends are left out when they are read, so nothing is left out when
they are read again. -/

theorem distinct_distinct (xs : List String) : distinct (distinct xs) = distinct xs :=
  List.eraseDups_eraseDups xs

/-- What is left begins with what the text without its leading blanks begins with. -/
theorem trimStart_trim (s : List Char) : Text.trimStart (Text.trim s) = Text.trim s := by
  obtain ⟨t, ht⟩ : Text.trim s <+: Text.trimStart s := List.rdropWhile_prefix _ _
  have hhead := List.head?_dropWhile_not Text.isBlank s
  cases htrim : Text.trim s with
  | nil => rfl
  | cons c r =>
    have hstart : s.dropWhile Text.isBlank = c :: (r ++ t) := by
      rw [htrim] at ht
      exact ht.symm
    rw [hstart] at hhead
    exact List.dropWhile_cons_of_neg (Bool.eq_false_iff.1 hhead)

theorem trim_trim (s : List Char) : Text.trim (Text.trim s) = Text.trim s := by
  show Text.trimEnd (Text.trimStart (Text.trim s)) = Text.trim s
  rw [trimStart_trim]
  exact List.rdropWhile_idempotent _ _

theorem trimmed_trimmed (s : String) : Text.trimmed (Text.trimmed s) = Text.trimmed s := by
  unfold Text.trimmed
  rw [String.toList_ofList, trim_trim]

theorem substance_substance (s : Option String) :
    Gateway.Request.substance (Gateway.Request.substance s) = Gateway.Request.substance s := by
  cases s with
  | none => rfl
  | some s =>
    unfold Gateway.Request.substance
    by_cases hempty : Text.trimmed s = ""
    · simp [Option.filter_some, hempty]
    · simp [Option.filter_some, hempty, trimmed_trimmed]

theorem fieldOr_map_roundTrips {α : Type} {reader : Reader α} {write : α → Json} {clean : α → α}
    (h : ∀ a, reader (write a) = .ok a) (hclean : ∀ a, clean (clean a) = clean a) {k : Key}
    {default : α} {ms out : Members} {a : α}
    (hread : (fieldOr k default reader ms).map clean = .ok a)
    (hout : k.find? out = some (k.wire, write a)) :
    (fieldOr k default reader out).map clean = .ok a := by
  obtain ⟨b, -, rfl⟩ := map_eq_ok_iff.1 hread
  have hagain : fieldOr k default reader out = .ok (clean b) := by
    unfold fieldOr
    rw [hout]
    exact under_eq_ok_iff.2 (h _)
  rw [hagain]
  exact congrArg Checked.ok (hclean b)

/-! ## Optional parts -/

theorem text?_roundTrips : RoundTrips (nullable text) .ofString? :=
  text_roundTrips.nullable (fun _ => rfl) rfl fun _ h => by cases h

theorem strings_roundTrips : RoundTrips (list text) stringsJson :=
  text_roundTrips.list

theorem strings?_roundTrips : RoundTrips (nullable (list text)) stringsJson? :=
  strings_roundTrips.nullable (fun _ => rfl) rfl fun _ h => by cases h

theorem metadata?_roundTrips : RoundTrips (nullable object) Component.Request.metadataJson :=
  object_roundTrips.nullable (fun _ => rfl) rfl fun _ h => by cases h

/-- A list of strings reads back, from wherever it comes. -/
theorem list_text_stringsJson (xs : List String) : list text (stringsJson xs) = .ok xs := by
  have hread : ∀ n, readItems text n (xs.map .str) = .ok xs := by
    induction xs with
    | nil => exact fun _ => rfl
    | cons x xs ih => exact fun n => seq_ok (map_ok rfl) (ih (n + 1))
  exact hread 0

/-! ## Facts about components -/

theorem form_roundTrips : RoundTrips (choice Form.choices) fun f => .str f.name := fun _ f _ => by
  cases f <;> rfl

theorem propFact_roundTrips : RoundTrips PropFact.read PropFact.toJson := fun v p h => by
  obtain ⟨ms, h⟩ := record_eq_ok h
  simp only [seq_eq_ok_iff, functorMap_eq_ok_iff] at h
  obtain ⟨_, ⟨_, ⟨_, ⟨_, ⟨name, hname, rfl⟩, type, htype, rfl⟩, required, hrequired, rfl⟩,
    default, hdefault, rfl⟩, description, hdescription, rfl⟩ := h
  exact seq_ok (seq_ok (seq_ok (seq_ok (map_ok
    (text_roundTrips.field hname rfl))
    (text?_roundTrips.field? rfl htype rfl))
    (truth_roundTrips.field hrequired rfl))
    (text?_roundTrips.field? rfl hdefault rfl))
    (text?_roundTrips.field? rfl hdescription rfl)

theorem stateFact_roundTrips : RoundTrips StateFact.read StateFact.toJson := fun v s h => by
  obtain ⟨ms, h⟩ := record_eq_ok h
  simp only [seq_eq_ok_iff, functorMap_eq_ok_iff] at h
  obtain ⟨_, ⟨name, hname, rfl⟩, initial, hinitial, rfl⟩ := h
  exact seq_ok (map_ok (text_roundTrips.field hname rfl))
    (text?_roundTrips.field? rfl hinitial rfl)

theorem hookFact_roundTrips : RoundTrips HookFact.read HookFact.toJson := fun v f h => by
  obtain ⟨ms, h⟩ := record_eq_ok h
  simp only [seq_eq_ok_iff, functorMap_eq_ok_iff] at h
  obtain ⟨_, ⟨name, hname, rfl⟩, dependencies, hdependencies, rfl⟩ := h
  exact seq_ok (map_ok (text_roundTrips.field hname rfl))
    (strings?_roundTrips.field? rfl hdependencies rfl)

theorem handlerFact_roundTrips : RoundTrips HandlerFact.read HandlerFact.toJson := fun v f h => by
  obtain ⟨ms, h⟩ := record_eq_ok h
  simp only [seq_eq_ok_iff, functorMap_eq_ok_iff] at h
  obtain ⟨_, ⟨_, ⟨name, hname, rfl⟩, handler, hhandler, rfl⟩, element, helement, rfl⟩ := h
  exact seq_ok (seq_ok (map_ok
    (text_roundTrips.field hname rfl))
    (text_roundTrips.field hhandler rfl))
    (text?_roundTrips.field? rfl helement rfl)

theorem importFact_roundTrips : RoundTrips ImportFact.read ImportFact.toJson := fun v i h => by
  obtain ⟨ms, h⟩ := record_eq_ok h
  simp only [seq_eq_ok_iff, functorMap_eq_ok_iff] at h
  obtain ⟨_, ⟨_, ⟨_, ⟨source, hsource, rfl⟩, names, hnames, rfl⟩, all, hall, rfl⟩,
    default, hdefault, rfl⟩ := h
  exact seq_ok (seq_ok (seq_ok (map_ok
    (text_roundTrips.field hsource rfl))
    (fieldOr_map_roundTrips list_text_stringsJson distinct_distinct hnames rfl))
    (text?_roundTrips.field? rfl hall rfl))
    (text?_roundTrips.field? rfl hdefault rfl)

theorem analysis_roundTrips : RoundTrips Analysis.read Analysis.toJson := fun v a h => by
  obtain ⟨ms, h⟩ := record_eq_ok h
  simp only [seq_eq_ok_iff, functorMap_eq_ok_iff] at h
  obtain ⟨_, ⟨_, ⟨_, ⟨_, ⟨_, ⟨_, ⟨_, ⟨_, ⟨_, ⟨_, ⟨name, hname, rfl⟩, form, hform, rfl⟩,
    props, hprops, rfl⟩, state, hstate, rfl⟩, hooks, hhooks, rfl⟩, handlers, hhandlers, rfl⟩,
    imports, himports, rfl⟩, testIds, htestIds, rfl⟩, complexity, hcomplexity, rfl⟩,
    recommendations, hrecommendations, rfl⟩, metadata, hmetadata, rfl⟩ := h
  exact seq_ok (seq_ok (seq_ok (seq_ok (seq_ok (seq_ok (seq_ok (seq_ok (seq_ok (seq_ok (map_ok
    (fullText_roundTrips.field hname rfl))
    (form_roundTrips.field hform rfl))
    (propFact_roundTrips.list.fieldOr rfl hprops rfl))
    (stateFact_roundTrips.list.fieldOr rfl hstate rfl))
    (hookFact_roundTrips.list.fieldOr rfl hhooks rfl))
    (handlerFact_roundTrips.list.fieldOr rfl hhandlers rfl))
    (importFact_roundTrips.list.fieldOr rfl himports rfl))
    (fieldOr_map_roundTrips list_text_stringsJson distinct_distinct htestIds rfl))
    ((integerFrom_roundTrips 1).fieldOr rfl hcomplexity rfl))
    (fieldOr_map_roundTrips list_text_stringsJson distinct_distinct hrecommendations rfl))
    (object_roundTrips.fieldOr rfl hmetadata rfl)

/-- A request for an analysis. -/
theorem analysisRequest_roundTrips :
    RoundTrips Component.Request.read Component.Request.toJson := fun v r h => by
  obtain ⟨ms, h⟩ := record_eq_ok h
  simp only [seq_eq_ok_iff, functorMap_eq_ok_iff] at h
  obtain ⟨_, ⟨_, ⟨_, ⟨code, hcode, rfl⟩, path, hpath, rfl⟩, name, hname, rfl⟩,
    metadata, hmetadata, rfl⟩ := h
  exact seq_ok (seq_ok (seq_ok (map_ok
    (fullText_roundTrips.field hcode rfl))
    (text?_roundTrips.field? rfl hpath rfl))
    (text?_roundTrips.field? rfl hname rfl))
    (metadata?_roundTrips.field? rfl hmetadata rfl)

/-! ## Tests -/

theorem options_roundTrips : RoundTrips Options.read Options.toJson := fun v o h => by
  have temperature := number_roundTrips.nullable
    (w := fun o => o.elim .null .float)
    (fun _ => rfl) rfl fun _ h => by cases h
  have maxTokens := (integerAbove_roundTrips 0).nullable
    (w := fun o => o.elim .null .int)
    (fun _ => rfl) rfl fun _ h => by cases h
  obtain ⟨ms, h⟩ := record_eq_ok h
  simp only [seq_eq_ok_iff, functorMap_eq_ok_iff] at h
  obtain ⟨_, ⟨_, ⟨_, ⟨model, hmodel, rfl⟩, degree, hdegree, rfl⟩, limit, hlimit, rfl⟩,
    examples, hexamples, rfl⟩ := h
  exact seq_ok (seq_ok (seq_ok (map_ok
    (text?_roundTrips.field? rfl hmodel rfl))
    (temperature.field? rfl hdegree (by cases degree <;> rfl)))
    (maxTokens.field? rfl hlimit (by cases limit <;> rfl)))
    (strings?_roundTrips.field? rfl hexamples rfl)

theorem options?_roundTrips : RoundTrips (nullable Options.read) Generation.Request.optionsJson? :=
  options_roundTrips.nullable (fun _ => rfl) rfl fun _ h => by cases h

theorem instant_roundTrips : RoundTrips Time.Instant.read Time.Instant.toJson := fun _ _ h =>
  Time.Instant.read_toJson (Time.Instant.valid_of_read h)

theorem instant?_roundTrips : RoundTrips (nullable Time.Instant.read) TestFile.instantJson? :=
  instant_roundTrips.nullable (fun _ => rfl) rfl fun _ h => by cases h

theorem testFile_roundTrips : RoundTrips TestFile.read TestFile.toJson := fun v t h => by
  obtain ⟨ms, h⟩ := record_eq_ok h
  simp only [seq_eq_ok_iff, functorMap_eq_ok_iff] at h
  obtain ⟨_, ⟨_, ⟨_, ⟨_, ⟨_, ⟨_, ⟨content, hcontent, rfl⟩, model, hmodel, rfl⟩,
    prompt, hprompt, rfl⟩, metadata, hmetadata, rfl⟩, fileName, hfileName, rfl⟩,
    path, hpath, rfl⟩, generatedAt, hgeneratedAt, rfl⟩ := h
  exact seq_ok (seq_ok (seq_ok (seq_ok (seq_ok (seq_ok (map_ok
    (text_roundTrips.field hcontent rfl))
    (text?_roundTrips.field? rfl hmodel rfl))
    (text_roundTrips.fieldOr rfl hprompt rfl))
    (object_roundTrips.fieldOr rfl hmetadata rfl))
    (text?_roundTrips.field? rfl hfileName rfl))
    (text?_roundTrips.field? rfl hpath rfl))
    (instant?_roundTrips.field? rfl hgeneratedAt rfl)

theorem verdict_roundTrips : RoundTrips Verdict.read Verdict.toJson := fun v r h => by
  obtain ⟨ms, h⟩ := record_eq_ok h
  simp only [seq_eq_ok_iff, functorMap_eq_ok_iff] at h
  obtain ⟨_, ⟨_, ⟨valid, hvalid, rfl⟩, issues, hissues, rfl⟩, test, htest, rfl⟩ := h
  exact seq_ok (seq_ok (map_ok
    (truth_roundTrips.field hvalid rfl))
    (strings_roundTrips.fieldOr rfl hissues rfl))
    (testFile_roundTrips.field htest rfl)

/-! ## Requests -/

theorem generationRequest_roundTrips :
    RoundTrips Generation.Request.read Generation.Request.toJson := fun v r h => by
  obtain ⟨ms, h⟩ := record_eq_ok h
  simp only [seq_eq_ok_iff, functorMap_eq_ok_iff] at h
  obtain ⟨_, ⟨analysis, hanalysis, rfl⟩, options, hoptions, rfl⟩ := h
  exact seq_ok (map_ok (analysis_roundTrips.field hanalysis rfl))
    (options?_roundTrips.field? rfl hoptions rfl)

theorem subject_roundTrips : RoundTrips Subject.read Subject.toJson := fun v s h => by
  have complexity? := integer_roundTrips.nullable
    (w := fun o => o.elim .null .int)
    (fun _ => rfl) rfl fun _ h => by cases h
  obtain ⟨ms, h⟩ := record_eq_ok h
  simp only [seq_eq_ok_iff, functorMap_eq_ok_iff] at h
  obtain ⟨_, ⟨name, hname, rfl⟩, complexity, hcomplexity, rfl⟩ := h
  exact seq_ok (map_ok (fullText_roundTrips.field hname rfl))
    (complexity?.field? rfl hcomplexity (by cases complexity <;> rfl))

theorem validationRequest_roundTrips :
    RoundTrips Validation.Request.read Validation.Request.toJson := fun v r h => by
  have component? := subject_roundTrips.nullable
    (w := fun o => o.elim .null Subject.toJson)
    (fun _ => rfl) rfl fun _ h => by cases h
  obtain ⟨ms, h⟩ := record_eq_ok h
  simp only [seq_eq_ok_iff, functorMap_eq_ok_iff] at h
  obtain ⟨_, ⟨test, htest, rfl⟩, component, hcomponent, rfl⟩ := h
  exact seq_ok (map_ok (testFile_roundTrips.field htest rfl))
    (component?.field? rfl hcomponent (by cases component <;> rfl))

theorem extent_roundTrips : RoundTrips (choice Extent.choices) fun e => .str e.name :=
  fun _ e _ => by cases e <;> rfl

/-- An optional string reads back, from wherever it comes. -/
theorem nullable_text_ofString? (s : Option String) : nullable text (.ofString? s) = .ok s := by
  cases s <;> rfl

theorem componentRequest_roundTrips :
    RoundTrips Gateway.Request.read Gateway.Request.toJson := fun v r h => by
  obtain ⟨ms, h⟩ := record_eq_ok h
  simp only [seq_eq_ok_iff, functorMap_eq_ok_iff] at h
  obtain ⟨_, ⟨_, ⟨_, ⟨_, ⟨_, ⟨_, ⟨_, ⟨code, hcode, rfl⟩, name, hname, rfl⟩, path, hpath, rfl⟩,
    displayName, hdisplayName, rfl⟩, instructions, hinstructions, rfl⟩, extent, hextent, rfl⟩,
    metadata, hmetadata, rfl⟩, options, hoptions, rfl⟩ := h
  exact seq_ok (seq_ok (seq_ok (seq_ok (seq_ok (seq_ok (seq_ok (map_ok
    (fullText_roundTrips.field hcode rfl))
    (fieldOr_map_roundTrips nullable_text_ofString? substance_substance hname rfl))
    (text?_roundTrips.field? rfl hpath rfl))
    (fieldOr_map_roundTrips nullable_text_ofString? substance_substance hdisplayName rfl))
    (fieldOr_map_roundTrips nullable_text_ofString? substance_substance hinstructions rfl))
    (extent_roundTrips.fieldOr rfl hextent rfl))
    (metadata?_roundTrips.field? rfl hmetadata rfl))
    (options?_roundTrips.field? rfl hoptions rfl)

/-! ## Health -/

theorem serviceHealth_roundTrips : RoundTrips ServiceHealth.read ServiceHealth.toJson :=
  fun v s h => by
    obtain ⟨ms, h⟩ := record_eq_ok h
    simp only [seq_eq_ok_iff, functorMap_eq_ok_iff] at h
    obtain ⟨_, ⟨_, ⟨_, ⟨service, hservice, rfl⟩, healthy, hhealthy, rfl⟩, latency, hlatency, rfl⟩,
      message, hmessage, rfl⟩ := h
    exact seq_ok (seq_ok (seq_ok (map_ok
      (text_roundTrips.field hservice rfl))
      (truth_roundTrips.field hhealthy rfl))
      (integer_roundTrips.fieldOr rfl hlatency rfl))
      (text?_roundTrips.field? rfl hmessage rfl)

theorem gatewayHealth_roundTrips : RoundTrips GatewayHealth.read GatewayHealth.toJson :=
  fun v s h => by
    obtain ⟨ms, h⟩ := record_eq_ok h
    simp only [seq_eq_ok_iff, functorMap_eq_ok_iff] at h
    obtain ⟨_, ⟨_, ⟨service, hservice, rfl⟩, healthy, hhealthy, rfl⟩, timestamp, htimestamp,
      rfl⟩ := h
    exact seq_ok (seq_ok (map_ok
      (text_roundTrips.field hservice rfl))
      (truth_roundTrips.fieldOr rfl hhealthy rfl))
      (instant_roundTrips.field htimestamp rfl)

theorem statusReport_roundTrips : RoundTrips StatusReport.read StatusReport.toJson :=
  fun v r h => by
    obtain ⟨ms, h⟩ := record_eq_ok h
    simp only [seq_eq_ok_iff, functorMap_eq_ok_iff] at h
    obtain ⟨_, ⟨gateway, hgateway, rfl⟩, dependencies, hdependencies, rfl⟩ := h
    exact seq_ok (map_ok (gatewayHealth_roundTrips.field hgateway rfl))
      (serviceHealth_roundTrips.list.fieldOr rfl hdependencies rfl)

/-! ## All models -/

/-- The models that go over the wire. -/
inductive Model
  | propFact
  | stateFact
  | hookFact
  | handlerFact
  | importFact
  | analysis
  | options
  | testFile
  | verdict
  | analysisRequest
  | generationRequest
  | subject
  | validationRequest
  | componentRequest
  | serviceHealth
  | gatewayHealth
  | statusReport

namespace Model

/-- The values of a model. -/
def Value : Model → Type
  | propFact => PropFact
  | stateFact => StateFact
  | hookFact => HookFact
  | handlerFact => HandlerFact
  | importFact => ImportFact
  | analysis => Analysis
  | options => Options
  | testFile => TestFile
  | verdict => Verdict
  | analysisRequest => Component.Request
  | generationRequest => Generation.Request
  | subject => Subject
  | validationRequest => Validation.Request
  | componentRequest => Gateway.Request
  | serviceHealth => ServiceHealth
  | gatewayHealth => GatewayHealth
  | statusReport => StatusReport

/-- How a model is read from JSON. -/
def read : (m : Model) → Reader m.Value
  | propFact => PropFact.read
  | stateFact => StateFact.read
  | hookFact => HookFact.read
  | handlerFact => HandlerFact.read
  | importFact => ImportFact.read
  | analysis => Analysis.read
  | options => Options.read
  | testFile => TestFile.read
  | verdict => Verdict.read
  | analysisRequest => Component.Request.read
  | generationRequest => Generation.Request.read
  | subject => Subject.read
  | validationRequest => Validation.Request.read
  | componentRequest => Gateway.Request.read
  | serviceHealth => ServiceHealth.read
  | gatewayHealth => GatewayHealth.read
  | statusReport => StatusReport.read

/-- How a model is written as JSON. -/
def toJson : (m : Model) → m.Value → Json
  | propFact => PropFact.toJson
  | stateFact => StateFact.toJson
  | hookFact => HookFact.toJson
  | handlerFact => HandlerFact.toJson
  | importFact => ImportFact.toJson
  | analysis => Analysis.toJson
  | options => Options.toJson
  | testFile => TestFile.toJson
  | verdict => Verdict.toJson
  | analysisRequest => Component.Request.toJson
  | generationRequest => Generation.Request.toJson
  | subject => Subject.toJson
  | validationRequest => Validation.Request.toJson
  | componentRequest => Gateway.Request.toJson
  | serviceHealth => ServiceHealth.toJson
  | gatewayHealth => GatewayHealth.toJson
  | statusReport => StatusReport.toJson

theorem roundTrips (m : Model) : RoundTrips m.read m.toJson :=
  match m with
  | propFact => propFact_roundTrips
  | stateFact => stateFact_roundTrips
  | hookFact => hookFact_roundTrips
  | handlerFact => handlerFact_roundTrips
  | importFact => importFact_roundTrips
  | analysis => analysis_roundTrips
  | options => options_roundTrips
  | testFile => testFile_roundTrips
  | verdict => verdict_roundTrips
  | analysisRequest => analysisRequest_roundTrips
  | generationRequest => generationRequest_roundTrips
  | subject => subject_roundTrips
  | validationRequest => validationRequest_roundTrips
  | componentRequest => componentRequest_roundTrips
  | serviceHealth => serviceHealth_roundTrips
  | gatewayHealth => gatewayHealth_roundTrips
  | statusReport => statusReport_roundTrips

/-- A model that was read from any JSON value reads back from what is written for it, and what is
written for it then is the same again. -/
theorem wire_round_trip (m : Model) {v : Json} {a : m.Value} (h : m.read v = .ok a) :
    m.read (m.toJson a) = .ok a ∧ (m.read (m.toJson a)).map m.toJson = .ok (m.toJson a) := by
  have hagain := m.roundTrips v a h
  refine ⟨hagain, ?_⟩
  rw [hagain]
  rfl

/-- A report in other forms than it is written in: a count of seconds for an instant, a number for a
truth value, and a text of digits under the plain name of a field. -/
def looseReport : Json :=
  .obj [
    ("gateway", .obj [("service", .str "gateway"), ("timestamp", .int 86399)]),
    ("dependencies", .arr [.obj [("service", .str "analysis"), ("healthy", .int 1),
      ("latency_ms", .str " 012 ")]])]

/-- What is read from it. -/
def report : StatusReport :=
  { gateway := {
      service := "gateway", healthy := true
      timestamp := {
        date := ⟨1970, 1, 1⟩, hour := 23, minute := 59, second := 59, micro := 0
        offset := some 0 } }
    dependencies := [{ service := "analysis", healthy := true, latency := 12, message := none }] }

theorem wire_round_trip_looseReport :
    statusReport.read looseReport = .ok report ∧
      statusReport.read (statusReport.toJson report) = .ok report := by
  have hread : statusReport.read looseReport = .ok report := rfl
  exact ⟨hread, (wire_round_trip statusReport hread).1⟩

end Model

end TestScribe.Wire
