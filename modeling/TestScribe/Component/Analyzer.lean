import TestScribe.Component.Analysis
import TestScribe.Component.Hooks
import TestScribe.Component.Imports
import TestScribe.Component.Markup
import TestScribe.Component.Name
import TestScribe.Component.Props
import TestScribe.Component.Score
import TestScribe.Component.Tree

/-!
# Analyzing a source

A source that parses is searched for its component; the name may be given. Facts, complexity and
advice make up the analysis, and the path and the given name are noted in it.
-/

namespace TestScribe.Component

open Wire Syntax

/-! ## Requests -/

/-- A source to analyze. -/
structure Request where
  code : String
  filePath : Option String
  name : Option String
  metadata : Option Members

namespace Request

/-- Optional notes as JSON. -/
def metadataJson : Option Members → Json
  | some ms => .obj ms
  | none => .null

/-- Read a request. -/
def read : Reader Request :=
  record "AnalysisRequest" fun ms => mk
    <$> field (.single "code") fullText ms
    <*> field? ⟨"filePath", "file_path"⟩ text ms
    <*> field? ⟨"componentName", "component_name"⟩ text ms
    <*> field? (.single "metadata") object ms

/-- A request as JSON. -/
def toJson (r : Request) : Json :=
  .obj [("code", .str r.code), ("filePath", .ofString? r.filePath),
    ("componentName", .ofString? r.name), ("metadata", metadataJson r.metadata)]

end Request

/-! ## Analyses of trees -/

/-- The analysis of the component `name` in a tree. -/
def analysisOf (s : Source) (root : Node) (name : String) (metadata : Members) : Analysis :=
  let props := props s root name
  let hooks := hooks s root
  let handlers := handlers s root
  let imports := imports s root
  let testIds := testIds s root
  { name
    form := form s root name
    props
    state := state s root
    hooks
    handlers
    imports
    testIds
    complexity := complexity props hooks handlers imports
    recommendations := recommendations hooks handlers testIds imports
    metadata }

/-- The name that is given, or else the one found in the tree. -/
def chosenName? (s : Source) (root : Node) (given : Option String) : Option String :=
  ((given.filter (· != "")).or (name? s root)).filter (· != "")

/-- What is noted in an analysis: path and given name, and over them what the caller notes. -/
def notes (r : Request) : Members :=
  Members.merge [("filePath", .ofString? r.filePath), ("receivedComponentName", .ofString? r.name)]
    (r.metadata.getD [])

/-! ## Analyses of sources -/

/-- The number of items of a list as JSON. -/
def countJson {α : Type} (xs : List α) : Json :=
  .int xs.length

/-- The analysis of a source. -/
def analyze (r : Request) (correlation : Json) : Journaled Analysis := do
  let root ← parsed .tsx r.code
  let s := Source.ofText r.code
  match chosenName? s root r.name with
  | none =>
    Flow.fail (.plain .ambiguous
      "Unable to determine component name. Provide componentName in the payload.")
  | some name =>
    let a := analysisOf s root name (notes r)
    let counts := [("hooks", countJson a.hooks), ("props", countJson a.props)]
    Flow.note .debug "analysis.component_parser"
      ("Extracted " ++ a.form.name ++ " component " ++ name) (("component", .str name) :: counts)
    Flow.note .info "analysis.analyzer" ("Analysis completed for " ++ name)
      ([("correlation_id", correlation), ("component", .str name),
        ("complexity", .int a.complexity)] ++ counts)
    return a

end TestScribe.Component
