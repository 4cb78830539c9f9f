import TestScribe.Gateway.Pipeline

/-!
# Tools for an assistant

The work of the gateway can also be called upon by an assistant, by way of three tools: one analyzes
a component, one makes a test for it, one tells how the services are doing. Each of them answers
with the text of a JSON value; a failure is reported in its envelope.
-/

namespace TestScribe.Tools

open Gateway Service

/-- The text of an answer. -/
def answerText (v : Json) : String :=
  Json.render .indented v

/-- Write down that a tool failed. -/
def noteFailed {σ : Type} [Journaling σ] (severity : Journal.Severity) (what : String)
    (f : Failure) : Flow σ Unit :=
  Flow.write [.record
    { severity, source := Journal.rootName, message := what ++ " failed: " ++ f.text
      fields := [] }]

/-- Answer with a result as JSON, or with the failure of what was to be done. -/
def report {σ α : Type} [Journaling σ] (s : Surroundings) (severity : Journal.Severity)
    (what : String) (x : Flow σ α) (toJson : α → Json) : Flow σ String := do
  match ← Flow.outcome x with
  | .ok a => return answerText (toJson a)
  | .error (.failure f) => do
    noteFailed severity what f
    return answerText (f.withCorrelation (.str s.freshId)).envelope
  | .error (.defect d) => Flow.defect d

/-! ## Analyzing -/

/-- Analyze a component. -/
def analyze (s : Surroundings) (r : Component.Request) : Flow Client String :=
  report s .warning "Analysis" (Component.analyze r (.str s.freshId)).lift fun a =>
    .obj [("success", .bool true), ("data", a.toJson), ("correlationId", .str s.freshId)]

/-! ## Making tests -/

/-- A verdict on a test as an answer. -/
def verdictJson (s : Surroundings) (v : Validation.Verdict) : Json :=
  .obj [("success", .bool v.valid), ("data", v.test.toJson),
    ("issues", Component.stringsJson v.issues), ("correlationId", .str s.freshId)]

/-- The options that name a model, if one is given. -/
def optionsFor (model : Json) : Wire.Checked (Option Generation.Options) :=
  if model.truthy then (Generation.Options.read (.obj [("model", model)])).map some
  else .ok none

/-- Make a test for a component. The model is given beside the request; a value that cannot be read
is a defect. -/
def generate (s : Surroundings) (request model : Json) : Flow Client String := do
  match optionsFor model with
  | .bad issues => Flow.defect (.invalid "GenerationOptions" issues)
  | .ok options =>
    match Request.read request with
    | .bad issues => Flow.defect (.invalid "ComponentRequest" issues)
    | .ok r =>
      report s .error "Test generation" (makeTest s { r with options } (some s.freshId) none)
        (verdictJson s)

/-! ## Health -/

/-- Tell how the services are doing. -/
def status (s : Surroundings) : Flow Client String := do
  return answerText (.arr ((← Client.checkAll s (some s.freshId)).map ServiceHealth.toJson))

end TestScribe.Tools
