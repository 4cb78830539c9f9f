import TestScribe.Component.Wire

/-!
# Options of a generation

What a caller may ask of the model: which one, how free it is, how much it may write, and examples
to follow.
-/

namespace TestScribe.Generation

open Wire

/-- What a caller asks of the model. -/
structure Options where
  model : Option String
  temperature : Option Float
  maxTokens : Option Int
  examples : Option (List String)

namespace Options

/-- Nothing is asked of the model. -/
def none : Options :=
  { model := .none, temperature := .none, maxTokens := .none, examples := .none }

/-- Read options. -/
def read : Reader Options :=
  record "GenerationOptions" fun ms => mk
    <$> field? (.single "model") text ms
    <*> field? (.single "temperature") number ms
    <*> field? ⟨"maxTokens", "max_tokens"⟩ (integerAbove 0) ms
    <*> field? (.single "examples") (list text) ms

/-- The options as members of an object, null where nothing is asked. -/
def members (o : Options) : Members :=
  [("model", .ofString? o.model),
    ("temperature", match o.temperature with
      | some x => .float x
      | .none => .null),
    ("maxTokens", match o.maxTokens with
      | some n => .int n
      | .none => .null),
    ("examples", Component.stringsJson? o.examples)]

/-- The options as JSON. -/
def toJson (o : Options) : Json :=
  .obj o.members

/-- Whether a value is null. -/
def isNull : Json → Bool
  | .null => true
  | _ => false

/-- The options as JSON, without what is not asked. -/
def toShortJson (o : Options) : Json :=
  .obj (o.members.filter fun m => !isNull m.2)

/-- The name of the model that is used, with one to fall back on. -/
def modelName (o : Options) (fallback : String) : String :=
  let name := Text.trimmed (o.model.getD "")
  if name == "" then fallback else name

end Options

end TestScribe.Generation
