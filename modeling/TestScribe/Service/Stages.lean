import TestScribe.Component.Analyzer
import TestScribe.Generation.Generator
import TestScribe.Service.Body
import TestScribe.Service.Kind
import TestScribe.Validation.Check

/-!
# The services of the stages

Each stage of the work has a service of its own, which also tells how it is doing. The three of them
share one state: the model server as the generation sees it, with its journal.
-/

namespace TestScribe.Service

open Generation (Backend)

/-- The path on which services tell how they are doing. -/
def healthPath : String := "/health"

/-- What a service says about itself. -/
def healthJson (s : Surroundings) (name : String) (more : Members) : Json :=
  .obj ([("status", .str "ok"), ("service", .str name),
    ("timestamp", .str (s.now.textWith "+00:00"))] ++ more)

/-- The route on which a service tells how it is doing. -/
def healthRoute {σ : Type} (s : Surroundings) (name : String) (more : Flow σ Members) : Route σ :=
  { method := "GET", path := healthPath
    handle := fun _ _ => do return .data (healthJson s name (← more)) }

/-- A route that takes values in its requests. -/
def post {σ α : Type} (path : String) (reader : Wire.Reader α)
    (handle : α → String → Flow σ (Outcome σ)) : Route σ :=
  { method := "POST", path, handle := taking openDoor reader handle }

/-! ## Analysis -/

/-- The path of analyses. -/
def analyzePath : String := "/api/analyze"

/-- The routes of the analysis service. -/
def analysisRoutes (s : Surroundings) : List (Route Backend) := [
  healthRoute s Service.analysis.name (pure []),
  post analyzePath Component.Request.read fun r id => do
    return .data (← (Component.analyze r (.str id)).lift).toJson]

/-! ## Generation -/

/-- The path of generations. -/
def generatePath : String := "/api/generate"

/-- A model as JSON. -/
def modelJson (m : Backend.ModelInfo) : Json :=
  .obj [("name", m.name), ("modifiedAt", m.modifiedAt), ("size", m.size)]

/-- What the generation service says about the model server. -/
def modelHealth (s : Surroundings) : Flow Backend Members := do
  let there ← match ← Flow.outcome Backend.checkHealth with
    | .ok _ => pure true
    | .error (.failure _) => pure false
    | .error (.defect d) => Flow.defect d
  return [("ollama", .bool there), ("model", .str s.settings.modelName)]

/-- The routes of the generation service. -/
def generationRoutes (s : Surroundings) : List (Route Backend) := [
  healthRoute s Service.generation.name (modelHealth s),
  { method := "GET", path := "/api/models"
    handle := fun _ _ => do
      return .data (.arr ((← Backend.models s.settings).map modelJson)) },
  post generatePath Generation.Request.read fun r id => do
    return .data (← Generation.generate s.settings r.analysis r.options none (.str id)).toJson,
  post "/api/generate/stream" Generation.Request.read fun r id =>
    return .stream (Generation.events s.settings r.analysis r.options none (.str id))]

/-! ## Validation -/

/-- The path of validations. -/
def validatePath : String := "/api/validate"

/-- The routes of the validation service. -/
def validationRoutes (s : Surroundings) : List (Route Backend) := [
  healthRoute s Service.validation.name (pure []),
  post validatePath Wire.Checked.ok fun body id => do
    match Validation.Request.ofBody body with
    | .error f => Flow.fail f
    | .ok r =>
      return .data (← (Validation.check r.test (r.component.map (·.name)) (.str id)).lift).toJson]

/-! ## All stages -/

/-- The routes of the service of a stage. -/
def routes (s : Surroundings) : Peer → List (Route Backend)
  | .analysis => analysisRoutes s
  | .generation => generationRoutes s
  | .validation => validationRoutes s

/-- Answer a request to the service of a stage. -/
def answer (s : Surroundings) (p : Peer) (r : Request) : Flow Backend Response :=
  serve s (routes s p) r

end TestScribe.Service
