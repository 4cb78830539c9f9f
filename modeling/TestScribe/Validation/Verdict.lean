import TestScribe.Component.Wire
import TestScribe.Failure.Problem
import TestScribe.Generation.TestFile

/-!
# Verdicts on tests

A request to check a test, and what comes of it: the issues that were found, and the test itself.
-/

namespace TestScribe.Validation

open Wire Generation

/-! ## Requests -/

/-- The component that a test is for. -/
structure Subject where
  name : String
  complexity : Option Int

/-- A request to check a test. -/
structure Request where
  test : TestFile
  component : Option Subject

namespace Subject

/-- Read a component. -/
def read : Reader Subject :=
  record "ComponentRef" fun ms => mk
    <$> field (.single "name") fullText ms
    <*> field? (.single "complexity") integer ms

/-- A component as JSON. -/
def toJson (s : Subject) : Json :=
  .obj [("name", .str s.name),
    ("complexity", match s.complexity with
      | some n => .int n
      | none => .null)]

end Subject

/-- The key of a test. -/
def testKey : Key := ⟨"generatedTest", "generated_test"⟩

namespace Request

/-- Read a request. -/
def read : Reader Request :=
  record "ValidationRequest" fun ms => mk
    <$> field testKey TestFile.read ms
    <*> field? (.single "component") Subject.read ms

/-- A request as JSON. -/
def toJson (r : Request) : Json :=
  .obj [("generatedTest", r.test.toJson),
    ("component", match r.component with
      | some s => s.toJson
      | none => .null)]

/-- The failure for a body that cannot be read. -/
def refusal (issues : List Issue) : Failure :=
  .detailed .badRequest "Invalid validation payload." (issuesJson issues)

/-- The request in a body: a request, or a test alone. -/
def ofBody (body : Json) : Except Failure Request :=
  let request :=
    if (body.get? "generatedTest").isSome then read body
    else (TestFile.read body).map fun test => { test, component := none }
  request.toExcept.mapError refusal

end Request

/-! ## Verdicts -/

/-- The outcome of a check. -/
structure Verdict where
  valid : Bool
  issues : List String
  test : TestFile

namespace Verdict

/-- Read a verdict. -/
def read : Reader Verdict :=
  record "ValidationResult" fun ms => mk
    <$> field (.single "valid") truth ms
    <*> fieldOr (.single "issues") [] (list text) ms
    <*> field testKey TestFile.read ms

/-- A verdict as JSON. -/
def toJson (v : Verdict) : Json :=
  .obj [("valid", .bool v.valid), ("issues", Component.stringsJson v.issues),
    ("generatedTest", v.test.toJson)]

end Verdict

end TestScribe.Validation
