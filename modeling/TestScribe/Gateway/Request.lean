import TestScribe.Component.Analyzer
import TestScribe.Generation.Request
import TestScribe.Text.Blank

/-!
# Requests to the gateway

The gateway is given the source of a component and makes a test for it.
-/

namespace TestScribe.Gateway

open Wire

/-- How much of a file the source is. -/
inductive Extent
  | full
  | selection
  deriving DecidableEq

namespace Extent

/-- The name of an extent. -/
def name : Extent → String
  | full => "full"
  | selection => "selection"

/-- The extents by name. -/
def choices : List (String × Extent) :=
  [full, selection].map fun e => (e.name, e)

end Extent

/-- A source to make a test for. -/
structure Request where
  code : String
  name : Option String
  filePath : Option String
  displayName : Option String
  instructions : Option String
  extent : Extent
  metadata : Option Members
  options : Option Generation.Options

namespace Request

/-- A text without blanks around it, if anything is left of it. -/
def substance (s : Option String) : Option String :=
  (s.map Text.trimmed).filter (· != "")

/-- Read a request. -/
def read : Reader Request :=
  record "ComponentRequest" fun ms => mk
    <$> field (.single "code") fullText ms
    <*> (field? (.single "name") text ms).map substance
    <*> field? ⟨"filePath", "file_path"⟩ text ms
    <*> (field? ⟨"displayName", "display_name"⟩ text ms).map substance
    <*> (field? (.single "instructions") text ms).map substance
    <*> fieldOr (.single "source") .full (choice Extent.choices) ms
    <*> field? (.single "metadata") object ms
    <*> field? (.single "options") Generation.Options.read ms

/-- A request as JSON. -/
def toJson (r : Request) : Json :=
  .obj [("code", .str r.code), ("name", .ofString? r.name), ("filePath", .ofString? r.filePath),
    ("displayName", .ofString? r.displayName), ("instructions", .ofString? r.instructions),
    ("source", .str r.extent.name), ("metadata", Component.Request.metadataJson r.metadata),
    ("options", Generation.Request.optionsJson? r.options)]

end Request

end TestScribe.Gateway
