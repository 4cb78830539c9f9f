import TestScribe.Json.Basic

/-!
# Records

A record is one entry of the log: how grave it is, which part of the program wrote it, a message,
and further values under fixed names.
-/

namespace TestScribe.Journal

/-- How grave a record is. -/
inductive Severity
  | debug
  | info
  | warning
  | error
  deriving DecidableEq

/-- The name of a severity. -/
def Severity.name : Severity → String
  | .debug => "DEBUG"
  | .info => "INFO"
  | .warning => "WARNING"
  | .error => "ERROR"

/-- An entry of the log. -/
structure Record where
  severity : Severity
  source : String
  message : String
  fields : Members

/-- The root of the names of all parts of the program. -/
def rootName : String := "rtlgen"

/-- The name of a part of the program. -/
def partName (part : String) : String :=
  rootName ++ "." ++ part

end TestScribe.Journal
