import TestScribe.Grammar.Program
import TestScribe.Journal.Flow
import TestScribe.Syntax.Fault
import TestScribe.Text.Digit
import TestScribe.Validation.Verdict

/-!
# Checking tests

A test must not be empty, must hold a block of tests, must name the testing library and must parse.
The checks do not depend on each other: all issues are reported.
-/

namespace TestScribe.Validation

open Generation

/-! ## Content -/

/-- What begins a block of tests. -/
def blockMarks : List String := ["describe(", "test(", "it("]

/-- The library that a test uses. -/
def libraryName : String := "@testing-library/react"

/-- The issue of an empty test. -/
def emptyIssue : String := "Generated test content is empty."

/-- The issue of a test without a block. -/
def blockIssue : String := "Test should include at least one describe/test/it block."

/-- The issue of a test that does not name the library. -/
def libraryIssue : String := "Test should import from @testing-library/react."

/-- An issue, if there is cause for it. -/
def issueIf (cause : Bool) (issue : String) : List String :=
  if cause then [issue] else []

/-- The issues that can be seen without parsing. -/
def contentIssues (content : String) : List String :=
  let body := Text.trim content.toList
  issueIf body.isEmpty emptyIssue ++
    issueIf (!blockMarks.any fun m => Text.contains m.toList body) blockIssue ++
    issueIf (!Text.contains libraryName.toList body) libraryIssue

/-! ## Structure -/

/-- How an issue of the structure begins. -/
def syntaxIssueStart : String := "Syntax error detected in generated test"

/-- What is left of a reversed text behind a number at its beginning. -/
def afterNumber? (r : List Char) : Option (List Char) :=
  match r with
  | c :: _ => if Text.isDecimalDigit c then some (r.dropWhile Text.isDecimalDigit) else none
  | [] => none

/-- What is left of a reversed text behind a place `(line:column)` at its beginning. -/
def afterPlace? : List Char → Option (List Char)
  | ')' :: r => do
    match ← afterNumber? r with
    | ':' :: r =>
      match ← afterNumber? r with
      | '(' :: r => return r
      | _ => none
    | _ => none
  | _ => none

/-- A text without a place at its end, on its last line or before a final line feed. -/
def withoutPlace (s : List Char) : List Char :=
  let r := s.reverse
  let body := match r with
    | '\n' :: q => q
    | q => q
  match afterPlace? body with
  | some rest => (rest.dropWhile Text.isBlank).reverse
  | none => s

/-- The issues for a description of a syntax error. -/
def syntaxIssues (message : Option String) : List String :=
  match message with
  | none => []
  | some m =>
    let words := Text.trim (withoutPlace m.toList)
    if words.isEmpty then [syntaxIssueStart ++ "."]
    else [syntaxIssueStart ++ ": " ++ String.ofList words]

/-- What says of each text how its first syntax error is described, if it has one. -/
abbrev Parser := String → Option String

/-- The parser of the library. It tells where there is an error, but not which. -/
def parser : Parser := fun content =>
  if (Grammar.parse? .tsx content).isSome then none else some Syntax.Fault.unlocated.message

/-! ## Verdicts -/

/-- All issues of a text. -/
def issues (parser : Parser) (content : String) : List String :=
  contentIssues content ++ syntaxIssues (parser content)

/-- The verdict on a test. -/
def verdict (parser : Parser) (test : TestFile) : Verdict :=
  let found := issues parser test.content
  { valid := found.isEmpty, issues := found, test }

/-- Check a test of the component of the given name with a parser. -/
def checkWith (parser : Parser) (test : TestFile) (component : Option String)
    (correlation : Json) : Journaled Verdict := do
  let v := verdict parser test
  let fields := [("correlation_id", correlation), ("component", .ofString? component),
    ("issues", .int v.issues.length)]
  if v.valid then
    Flow.note .info "validation.validator" "Generated test passed validation." fields
  else
    Flow.note .warning "validation.validator" "Generated test failed validation." fields
  return v

/-- Check a test of the component of the given name. -/
def check (test : TestFile) (component : Option String) (correlation : Json) :
    Journaled Verdict :=
  checkWith parser test component correlation

end TestScribe.Validation
