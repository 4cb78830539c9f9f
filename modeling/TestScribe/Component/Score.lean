import TestScribe.Component.Fact
import TestScribe.Text.Blank

/-!
# Complexity and advice

The complexity of a component counts its facts, hook calls and handlers twice and at most ten of its
imports. Advice for testing it is given for each kind of fact that calls for it, in a fixed order.
-/

namespace TestScribe.Component

/-- The number of imports beyond which further ones do not count. -/
def importLimit : Nat := 10

/-- The complexity of a component; the least is one. -/
def complexity (props : List PropFact) (hooks : List HookFact) (handlers : List HandlerFact)
    (imports : List ImportFact) : Nat :=
  max 1 (props.length + 2 * hooks.length + 2 * handlers.length + min imports.length importLimit)

/-- Whether a hook of one of some names is called. -/
def callsHook (hooks : List HookFact) (names : List String) : Bool :=
  hooks.any fun h => names.contains h.name

/-- Whether something is imported from a source that has `part` in its name. -/
def importsFrom (imports : List ImportFact) (part : String) : Bool :=
  imports.any fun i => Text.contains part.toList i.source.toList

/-- Each piece of advice and whether it applies. -/
def advice (hooks : List HookFact) (handlers : List HandlerFact) (testIds : List String)
    (imports : List ImportFact) : List (Bool × String) := [
  (!handlers.isEmpty, "Use fireEvent or userEvent to trigger component callbacks."),
  (callsHook hooks ["useEffect", "useLayoutEffect"],
    "Wrap asynchronous updates in waitFor or findBy queries."),
  (callsHook hooks ["useState", "useReducer"],
    "Leverage act utilities when asserting stateful updates."),
  (!testIds.isEmpty,
    "Prefer getByTestId or within queries for elements with data-testid attributes."),
  (importsFrom imports "react-router",
    "Wrap component with MemoryRouter when rendering in tests."),
  (importsFrom imports "react-redux",
    "Provide Redux store context (Provider) when rendering tests.")]

/-- The advice that applies. -/
def recommendations (hooks : List HookFact) (handlers : List HandlerFact) (testIds : List String)
    (imports : List ImportFact) : List String :=
  ((advice hooks handlers testIds imports).filter (·.1)).map (·.2)

end TestScribe.Component
