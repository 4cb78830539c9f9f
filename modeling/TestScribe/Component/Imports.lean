import TestScribe.Component.Fact
import TestScribe.Syntax.Source
import TestScribe.Syntax.Walk

/-!
# Imports

One fact for each import statement that names a source.
-/

namespace TestScribe.Component

open Syntax

/-- The name that a specifier imports. -/
def importedName? (s : Source) (specifier : Node) : Option String := do
  if specifier.isNamed && specifier.kind == "import_specifier" then
    let name ← specifier.child? "name"
    if name.kind == "string" then some (s.unquoted name) else some (s.text name)
  else none

/-- The parts of the clauses of an import. -/
def importParts (statement : Node) : List Node :=
  (statement.namedChildren.filter fun n => n.kind == "import_clause").flatMap Node.parts

/-- The import at a node. Where a statement names several defaults or groups, the last one
counts. -/
def import? (s : Source) (n : Node) : Option ImportFact := do
  if n.kind == "import_statement" then
    let source ← n.child? "source"
    let parts := importParts n
    let groups := parts.filter fun p => p.kind == "namespace_import"
    let all := groups.getLast?.bind fun g =>
      (g.namedChildren.find? fun c => c.kind == "identifier").map s.text
    let names := (parts.filter fun p => p.kind == "named_imports").flatMap fun p =>
      p.children.filterMap (importedName? s)
    let default := (parts.filter fun p => p.kind == "identifier").getLast?.map s.text
    return { source := s.unquoted source, names := names.eraseDups, all, default }
  else none

/-- The imports of a source. -/
def imports (s : Source) (root : Node) : List ImportFact :=
  root.nodes.filterMap (import? s)

end TestScribe.Component
