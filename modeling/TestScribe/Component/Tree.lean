import TestScribe.Grammar.Program
import TestScribe.Journal.Flow
import TestScribe.Syntax.Fault

/-!
# Trees of sources

A source is parsed in one of the dialects. A source with a syntax error has no tree.
-/

namespace TestScribe.Component

open Grammar

/-- The dialect of a name, or a complaint about the name. -/
def dialectNamed (name : String) : Except Defect Dialect :=
  match Dialect.ofName? name with
  | some d => .ok d
  | none => .error (.badValue ("Unsupported language: " ++ Text.quoted name ++
      ". Expected one of: " ++ ", ".intercalate (Dialect.all.map Dialect.name)))

/-- The tree of a source in a dialect. -/
def parsed (d : Dialect) (code : String) : Journaled Syntax.Node :=
  match parse? d code with
  | some root => pure root
  | none => do
    let fault := Syntax.Fault.unlocated.message
    Flow.note .debug "analysis.ast_engine" ("Rejected " ++ d.name ++ " source: " ++ fault) []
    Flow.fail (.detailed .unparsable "Failed to parse component code." (.str fault))

end TestScribe.Component
