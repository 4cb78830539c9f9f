import TestScribe.Component.Analysis
import TestScribe.Generation.Options

/-!
# Requests for a test

A request for a test holds the analysis of the component and, if the caller cares, options.
-/

namespace TestScribe.Generation

open Wire

/-- A request for a test of the component that is analyzed. -/
structure Request where
  analysis : Component.Analysis
  options : Option Options

namespace Request

/-- Read a request. -/
def read : Reader Request :=
  record "GenerationRequest" fun ms => mk
    <$> field (.single "analysis") Component.Analysis.read ms
    <*> field? (.single "options") Options.read ms

/-- Optional options as JSON. -/
def optionsJson? : Option Options → Json
  | some o => o.toJson
  | none => .null

/-- A request as JSON. -/
def toJson (r : Request) : Json :=
  .obj [("analysis", r.analysis.toJson), ("options", optionsJson? r.options)]

end Request

end TestScribe.Generation
