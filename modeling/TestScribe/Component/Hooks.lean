import TestScribe.Component.Fact
import TestScribe.Syntax.Source
import TestScribe.Syntax.Walk

/-!
# Hooks and state

Hook calls in document order, and the state variables that the calls of state hooks are taken apart
into.
-/

namespace TestScribe.Component

open Syntax

/-- The names of the hooks. -/
def hookNames : List String :=
  ["useState", "useReducer", "useEffect", "useLayoutEffect", "useMemo", "useCallback",
    "useContext", "useRef", "useImperativeHandle", "useTransition", "useDeferredValue"]

/-- The hooks whose second argument lists what they depend on. -/
def dependencyHooks : List String := ["useEffect", "useLayoutEffect", "useMemo", "useCallback"]

/-- The hooks that hold state. -/
def stateHooks : List String := ["useState", "useReducer"]

/-- The hook that a call of this function calls. -/
def hookName? (s : Source) (function : Node) : Option String :=
  let name :=
    if function.kind == "identifier" then some (s.text function)
    else if function.kind == "member_expression" then s.fieldText? function "property"
    else none
  name.filter hookNames.contains

/-- The hook that a node calls. -/
def hookCall? (s : Source) (n : Node) : Option String :=
  if n.kind == "call_expression" then (n.child? "function").bind (hookName? s) else none

/-- The arguments of a call. -/
def callArguments (call : Node) : List Node :=
  ((call.child? "arguments").map Node.parts).getD []

/-- The dependency list of a hook call. -/
def dependencies? (s : Source) (hook : String) (arguments : List Node) : Option (List String) := do
  if dependencyHooks.contains hook then
    let list ← arguments[1]?
    if list.kind == "array" then some (list.parts.map s.text) else none
  else none

/-- The variable that the first item of what a call gives is bound to, when the call is the value of
a declaration. -/
def stateName? (s : Source) (v : Visit) : Option String := do
  let declarator ← v.parent
  let isValue := v.node.field == some "value" && v.before.all fun n => n.field != some "value"
  if declarator.kind == "variable_declarator" && isValue then
    let pattern ← declarator.child? "name"
    if pattern.kind == "array_pattern" then
      let first ← (pattern.children.filter fun c => c.kind != "[" && !c.isComment).head?
      if first.kind == "identifier" then some (s.text first) else none
    else none
  else none

/-- The hook call at a node. -/
def hook? (s : Source) (v : Visit) : Option HookFact :=
  (hookCall? s v.node).map fun name =>
    { name, dependencies := dependencies? s name (callArguments v.node) }

/-- The state variable that the hook call at a node gives. -/
def state? (s : Source) (v : Visit) : Option StateFact := do
  let hook ← hookCall? s v.node
  if stateHooks.contains hook then
    let name ← (stateName? s v).filter (· != "")
    return { name, initial := (callArguments v.node).head?.map s.text }
  else none

/-- The hook calls of a source. -/
def hooks (s : Source) (root : Node) : List HookFact :=
  root.visits.filterMap (hook? s)

/-- The state variables of a source. -/
def state (s : Source) (root : Node) : List StateFact :=
  root.visits.filterMap (state? s)

end TestScribe.Component
