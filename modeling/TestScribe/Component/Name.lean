import TestScribe.Component.Fact
import TestScribe.Syntax.Source
import TestScribe.Syntax.Walk

/-!
# The name and the form of a component

The name is the first of: what a default export resolves to, a top-level function, a top-level
class, a top-level variable bound to a function. All but the first must begin with a capital letter.
-/

namespace TestScribe.Component

open Syntax

/-- Whether a name is that of a component: it begins with a capital letter. -/
def isComponentName (name : String) : Bool :=
  name.toList.head?.any fun c => 'A' ≤ c && c ≤ 'Z'

/-! ## Kinds of nodes -/

/-- A function that is a value. -/
def isFunctionValue (n : Node) : Bool :=
  n.kind == "arrow_function" || n.kind == "function_expression" || n.kind == "function"

/-- A class that is declared. -/
def isClassDeclaration (n : Node) : Bool :=
  n.kind == "class_declaration" || n.kind == "abstract_class_declaration"

/-- A declaration of variables. -/
def isVariableDeclaration (n : Node) : Bool :=
  n.kind == "lexical_declaration" || n.kind == "variable_declaration"

/-- A text that is there and not empty. -/
def nonempty? (s : Option String) : Option String :=
  s.filter (· != "")

/-! ## Candidates -/

/-- The name that a default export resolves to: an identifier, the name of a function or a class, or
the first argument of a call. -/
def defaultName? (s : Source) (statement : Node) : Option String := do
  let target ← (statement.child? "declaration").or (statement.child? "value")
  if target.kind == "identifier" then some (s.text target)
  else if isClassDeclaration target || target.kind == "function_declaration" ||
      isFunctionValue target || target.kind == "class" then
    s.fieldText? target "name"
  else if target.kind == "call_expression" then
    let args ← target.child? "arguments"
    let first ← args.parts.head?
    if first.kind == "identifier" then some (s.text first)
    else if isFunctionValue first then s.fieldText? first "name"
    else none
  else none

/-- The names that the default exports resolve to. -/
def defaultNames (s : Source) (root : Node) : List String :=
  root.parts.filterMap fun n =>
    if n.kind == "export_statement" && n.hasChild "default" then nonempty? (defaultName? s n)
    else none

/-- The top-level statements, those that an export wraps taken out of it. -/
def topLevel (root : Node) : List Node :=
  root.parts.filterMap fun n =>
    if n.kind == "export_statement" then n.child? "declaration" else some n

/-- The names of top-level functions. -/
def functionNames (s : Source) (root : Node) : List String :=
  (topLevel root).filterMap fun n =>
    if n.kind == "function_declaration" then (s.fieldText? n "name").filter isComponentName
    else none

/-- The names of top-level classes. -/
def classNames (s : Source) (root : Node) : List String :=
  (topLevel root).filterMap fun n =>
    if isClassDeclaration n then (s.fieldText? n "name").filter isComponentName else none

/-- The name of a variable that is bound to a function. -/
def functionVariable? (s : Source) (declarator : Node) : Option String := do
  let n ← declarator.child? "name"
  let v ← declarator.child? "value"
  if declarator.kind == "variable_declarator" && n.kind == "identifier" && isFunctionValue v &&
      isComponentName (s.text n) then
    some (s.text n)
  else none

/-- The names of top-level variables that are bound to functions. -/
def variableNames (s : Source) (root : Node) : List String :=
  (topLevel root).flatMap fun n =>
    if isVariableDeclaration n then n.parts.filterMap (functionVariable? s) else []

/-! ## Name and form -/

/-- The name of the component in a source. -/
def name? (s : Source) (root : Node) : Option String :=
  (defaultNames s root ++ functionNames s root ++ classNames s root ++
    variableNames s root).head?

/-- The form of a component: a class if one of its name is declared anywhere. -/
def form (s : Source) (root : Node) (name : String) : Form :=
  if root.nodes.any fun n => isClassDeclaration n && s.fieldText? n "name" == some name then
    .classBased
  else .functional

end TestScribe.Component
