import TestScribe.Component.Wire

/-!
# Analyses

An analysis is all that is known about one component, together with notes that callers attach to it:
an open map that every stage passes on and to which it may add.
-/

namespace TestScribe.Component

open Wire

/-- What is known about a component, and the notes attached to it. -/
structure Analysis where
  name : String
  form : Form
  props : List PropFact
  state : List StateFact
  hooks : List HookFact
  handlers : List HandlerFact
  imports : List ImportFact
  testIds : List String
  complexity : Int
  recommendations : List String
  metadata : Members

namespace Analysis

/-- Read an analysis. -/
def read : Reader Analysis :=
  record "ComponentAnalysis" fun ms => mk
    <$> field (.single "name") fullText ms
    <*> field (.single "type") (choice Form.choices) ms
    <*> fieldOr (.single "props") [] (list PropFact.read) ms
    <*> fieldOr (.single "state") [] (list StateFact.read) ms
    <*> fieldOr (.single "hooks") [] (list HookFact.read) ms
    <*> fieldOr ⟨"eventHandlers", "event_handlers"⟩ [] (list HandlerFact.read) ms
    <*> fieldOr (.single "imports") [] (list ImportFact.read) ms
    <*> (fieldOr ⟨"dataTestIds", "data_test_ids"⟩ [] (list text) ms).map distinct
    <*> fieldOr (.single "complexity") 1 (integerFrom 1) ms
    <*> (fieldOr ⟨"testingRecommendations", "testing_recommendations"⟩ [] (list text) ms).map
          distinct
    <*> fieldOr (.single "metadata") [] object ms

/-- An analysis as JSON. -/
def toJson (a : Analysis) : Json :=
  .obj [("name", .str a.name), ("type", .str a.form.name),
    ("props", .arr (a.props.map PropFact.toJson)), ("state", .arr (a.state.map StateFact.toJson)),
    ("hooks", .arr (a.hooks.map HookFact.toJson)),
    ("eventHandlers", .arr (a.handlers.map HandlerFact.toJson)),
    ("imports", .arr (a.imports.map ImportFact.toJson)),
    ("dataTestIds", stringsJson a.testIds), ("complexity", .int a.complexity),
    ("testingRecommendations", stringsJson a.recommendations), ("metadata", .obj a.metadata)]

/-- The analysis with notes written over its own. -/
def withMetadata (a : Analysis) (extra : Members) : Analysis :=
  { a with metadata := a.metadata.merge extra }

end Analysis

end TestScribe.Component
