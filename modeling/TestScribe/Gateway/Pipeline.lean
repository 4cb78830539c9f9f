import TestScribe.Gateway.Assembly
import TestScribe.Gateway.Client

/-!
# Making a test

The gateway has the source of a request analyzed, a test generated for the component, and the test
validated. Each stage is given what the one before gave back; the first stage that fails ends the
work with its failure.
-/

namespace TestScribe.Gateway

open Service

/-- The part of the program that makes tests. -/
def pipelinePart : String := "orchestration.pipeline"

/-- How a component is called before it is analyzed. -/
def labelOf (r : Request) : String :=
  (r.displayName.or r.name).getD "component"

/-- Make a test for the source of a request. -/
def makeTest (s : Surroundings) (r : Request) (given : Option String)
    (options : Option Generation.Options) : Flow Client Validation.Verdict := do
  let id := s.idOr given
  Flow.note .info pipelinePart ("Generating test for component " ++ labelOf r)
    [("correlation_id", .str id), ("component", .str (labelOf r))]
  let a := enriched (← Client.analyze s r (some id)) r
  let t ← Client.generate s a (options.or r.options) (some id)
  let v ← Client.validate s t (some a) (some id)
  Flow.note .info pipelinePart ("Pipeline finished for " ++ a.name)
    [("correlation_id", .str id), ("component", .str a.name), ("issues", .int v.issues.length)]
  return { v with test := finished v.test t a r s.now }

end TestScribe.Gateway
