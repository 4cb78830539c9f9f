import TestScribe.Failure.Basic
import TestScribe.Wire.Issue

/-!
# Problems

What ends a computation early is either a failure, which callers know how to report, or a defect,
which the library does not expect.
-/

namespace TestScribe

/-- Something that went wrong unexpectedly. An answer that is `endless` is waited for without
end. -/
inductive Defect
  | wrongType
  | missingKey
  | missingAttribute
  | badIndex
  | badJson
  | overflow
  | crash
  | endless
  | unwritableHeader
  | badValue (text : String)
  | invalid (name : String) (issues : List Wire.Issue)

/-- What is said about a defect. -/
def Defect.message : Defect → String
  | badValue text => text
  | overflow => "int too large to convert to float"
  | badIndex => "deque index out of range"
  | invalid name issues => Wire.headline name issues
  | _ => ""

/-- What ends a computation early. -/
inductive Problem
  | failure (f : Failure)
  | defect (d : Defect)

end TestScribe
