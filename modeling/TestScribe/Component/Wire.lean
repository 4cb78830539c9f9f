import TestScribe.Component.Fact
import TestScribe.Wire.Scalar

/-!
# Facts on the wire

How each fact about a component is read from JSON and written as JSON.
-/

namespace TestScribe.Component

open Wire

/-- A list with each of its items only once, at its first place. -/
def distinct (xs : List String) : List String :=
  xs.eraseDups

/-- An optional list of strings as JSON. -/
def stringsJson? : Option (List String) → Json
  | some xs => .arr (xs.map .str)
  | none => .null

/-- A list of strings as JSON. -/
def stringsJson (xs : List String) : Json :=
  .arr (xs.map .str)

/-- The forms by name. -/
def Form.choices : List (String × Form) :=
  [Form.functional, Form.classBased].map fun f => (f.name, f)

/-! ## Props -/

namespace PropFact

/-- Read a prop. -/
def read : Reader PropFact :=
  record "PropDefinition" fun ms => mk
    <$> field (.single "name") text ms
    <*> field? (.single "type") text ms
    <*> field (.single "required") truth ms
    <*> field? ⟨"defaultValue", "default_value"⟩ text ms
    <*> field? (.single "description") text ms

/-- A prop as JSON. -/
def toJson (p : PropFact) : Json :=
  .obj [("name", .str p.name), ("type", .ofString? p.type), ("required", .bool p.required),
    ("defaultValue", .ofString? p.default), ("description", .ofString? p.description)]

end PropFact

/-! ## State and hooks -/

namespace StateFact

/-- Read a state variable. -/
def read : Reader StateFact :=
  record "StateUsage" fun ms => mk
    <$> field (.single "name") text ms
    <*> field? ⟨"initialValue", "initial_value"⟩ text ms

/-- A state variable as JSON. -/
def toJson (s : StateFact) : Json :=
  .obj [("name", .str s.name), ("initialValue", .ofString? s.initial)]

end StateFact

namespace HookFact

/-- Read a hook call. -/
def read : Reader HookFact :=
  record "HookUsage" fun ms => mk
    <$> field (.single "name") text ms
    <*> field? (.single "dependencies") (list text) ms

/-- A hook call as JSON. -/
def toJson (h : HookFact) : Json :=
  .obj [("name", .str h.name), ("dependencies", stringsJson? h.dependencies)]

end HookFact

/-! ## Handlers and imports -/

namespace HandlerFact

/-- Read an event handler. -/
def read : Reader HandlerFact :=
  record "EventHandler" fun ms => mk
    <$> field (.single "name") text ms
    <*> field (.single "handler") text ms
    <*> field? (.single "element") text ms

/-- An event handler as JSON. -/
def toJson (h : HandlerFact) : Json :=
  .obj [("name", .str h.name), ("handler", .str h.handler), ("element", .ofString? h.element)]

end HandlerFact

namespace ImportFact

/-- Read an import; a name that is imported twice counts once. -/
def read : Reader ImportFact :=
  record "ImportDefinition" fun ms => mk
    <$> field (.single "source") text ms
    <*> (fieldOr (.single "imported") [] (list text) ms).map distinct
    <*> field? (.single "namespace") text ms
    <*> field? ⟨"defaultImport", "default_import"⟩ text ms

/-- An import as JSON. -/
def toJson (i : ImportFact) : Json :=
  .obj [("source", .str i.source), ("imported", stringsJson i.names),
    ("namespace", .ofString? i.all), ("defaultImport", .ofString? i.default)]

end ImportFact

end TestScribe.Component
