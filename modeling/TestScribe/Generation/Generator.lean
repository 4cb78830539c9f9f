import TestScribe.Generation.Backend
import TestScribe.Generation.CodeBlock
import TestScribe.Generation.Prompt
import TestScribe.Generation.Request
import TestScribe.Generation.StreamEvent

/-!
# Generating tests

A test is generated from the analysis of a component: the prompt is built, the model asked, and the
code taken out of its answer. A caller may instead follow the answer as a stream of events.
-/

namespace TestScribe.Generation

open Component

/-- The part of the program that generates tests. -/
def generatorPart : String := "generation.generator"

/-- The prompt for an analysis with the examples of the options. -/
def promptFor (a : Analysis) (options : Options) : String :=
  prompt a (options.examples.getD [])

/-- What the notes of a generated test say about its component. -/
def componentNotes (a : Analysis) : Members :=
  [("component", .str a.name), ("complexity", .int a.complexity)]

/-- Generate a test. -/
def generate (s : Settings) (a : Analysis) (options : Option Options) (stop : Backend.Stop)
    (correlation : Json) : Flow Backend TestFile := do
  let options := options.getD .none
  Flow.note .info generatorPart ("Generating test for " ++ a.name)
    [("correlation_id", correlation), ("component", .str a.name)]
  let t ← Backend.collect s (promptFor a options) (some options) stop
  return { t with content := codeBlock t.content, metadata := t.metadata.merge (componentNotes a) }

/-! ## Streams -/

/-- The event that opens a stream. -/
def startEvent (s : Settings) (a : Analysis) (options : Options) : StreamEvent :=
  { event := .start
    data := [("model", .str (options.modelName s.modelName)), ("component", .str a.name)] }

/-- The event for a chunk; a piece that counts as false has none. -/
def chunkEvent? (a : Analysis) (c : Chunk) : Option StreamEvent :=
  if c.done then some { event := .done, data := [("component", .str a.name)] }
  else if c.content.truthy then some { event := .token, data := [("token", c.content)] }
  else none

/-- The event for a problem. -/
def errorEvent (message : Json) (code : String) : StreamEvent :=
  { event := .error, data := [("message", message), ("code", .str code)] }

/-- The event for the end of a generation, if it ended in a problem, which is recorded. -/
def closing? (correlation : Json) (r : Except Problem Backend.Summary) :
    Flow Backend (List StreamEvent) :=
  match r with
  | .ok _ => pure []
  | .error (.failure f) => do
    Flow.note .error generatorPart "Streaming generation failed"
      [("correlation_id", correlation), ("code", .str f.cause.code), ("error", f.message)]
    return [errorEvent f.message f.cause.code]
  | .error (.defect .endless) => pure []
  | .error (.defect d) => do
    Flow.note .error generatorPart "Unexpected streaming failure"
      [("correlation_id", correlation)]
    return [errorEvent (.str d.message) Cause.internal.code]

/-- Generate a test as a stream of events. -/
def events (s : Settings) (a : Analysis) (options : Option Options) (stop : Backend.Stop)
    (correlation : Json) : Flow Backend (List StreamEvent) := do
  let options := options.getD .none
  let r ← Flow.outcome (Backend.stream s (promptFor a options) (some options) stop)
  let tokens := (← get).handed.filterMap (chunkEvent? a)
  let last ← closing? correlation r
  return startEvent s a options :: tokens ++ last

end TestScribe.Generation
