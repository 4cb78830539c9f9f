import TestScribe.Gateway.Request
import TestScribe.Generation.TestFile

/-!
# Putting the results of the stages together

A request goes through analysis, generation and validation. Between the stages the gateway writes
what the caller said about the component into the notes of the analysis, and in the end it fills in
what the stages left open about the test: its file name, its path and its time.
-/

namespace TestScribe.Gateway

open Component Generation

/-! ## Notes of the caller -/

/-- What the caller said about a component that is called `display`. -/
def callerNotes (display : String) (r : Request) : Members :=
  [("displayName", .str display), ("source", .str r.extent.name)] ++
    match r.instructions with
    | some text => [("instructions", .str text)]
    | none => []

/-- An analysis with the notes of the caller. -/
def enriched (a : Analysis) (r : Request) : Analysis :=
  a.withMetadata (callerNotes ((r.displayName.or r.name).getD a.name) r)

/-! ## The finished test -/

/-- How the names of test files end. -/
def testFileEnd : String := ".test.tsx"

/-- The name of the test file for a component. -/
def testFileName (display : String) : String :=
  Text.withoutBlanks display ++ testFileEnd

/-- A text, unless it is empty. -/
def unlessEmpty (s : Option String) : Option String :=
  s.filter (· != "")

/-- The test that the validation gave back, with what it left open filled in from the generated test
and the request. The notes of the validation stand over those of the generation, and the notes of
the caller over both. -/
def finished (validated generated : TestFile) (a : Analysis) (r : Request) (now : Time.Instant) :
    TestFile :=
  let display := r.displayName.getD a.name
  { validated with
    metadata := (generated.metadata.merge validated.metadata).merge (callerNotes display r)
    fileName := some (((unlessEmpty validated.fileName).or (unlessEmpty generated.fileName)).getD
      (testFileName display))
    relativePath := (unlessEmpty validated.relativePath).or generated.relativePath
    generatedAt := some (validated.generatedAt.getD now) }

end TestScribe.Gateway
