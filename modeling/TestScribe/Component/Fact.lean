/-!
# Facts about a component

What is known of a component once its source has been read: its props, state, hook calls, event
handlers, imports and test ids.
-/

namespace TestScribe.Component

/-- Whether a component is a function or a class. -/
inductive Form
  | functional
  | classBased
  deriving DecidableEq

/-- The name of a form. -/
def Form.name : Form → String
  | .functional => "functional"
  | .classBased => "class"

/-- A prop that a component takes. -/
structure PropFact where
  name : String
  type : Option String
  required : Bool
  default : Option String
  description : Option String
  deriving DecidableEq

/-- A state variable and the source of its initial value. -/
structure StateFact where
  name : String
  initial : Option String
  deriving DecidableEq

/-- A call of a hook and the entries of its dependency list, if it has one. -/
structure HookFact where
  name : String
  dependencies : Option (List String)
  deriving DecidableEq

/-- An event handler, and the element that carries it. -/
structure HandlerFact where
  name : String
  handler : String
  element : Option String
  deriving DecidableEq

/-- An import: its source, the names imported one by one, the name for all of them and the name of
the default. -/
structure ImportFact where
  source : String
  names : List String
  all : Option String
  default : Option String
  deriving DecidableEq

end TestScribe.Component
