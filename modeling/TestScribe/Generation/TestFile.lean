import TestScribe.Time.Instant

/-!
# Generated tests

A generated test is the text of a test file, how it came about, and where it is to be stored.
-/

namespace TestScribe.Generation

open Wire

/-- The text of a test file, how it came about, and where it is to be stored. -/
structure TestFile where
  content : String
  model : Option String
  prompt : String
  metadata : Members
  fileName : Option String
  relativePath : Option String
  generatedAt : Option Time.Instant

namespace TestFile

/-- Read a generated test. -/
def read : Reader TestFile :=
  record "GeneratedTest" fun ms => mk
    <$> field (.single "content") text ms
    <*> field? (.single "model") text ms
    <*> fieldOr (.single "prompt") "" text ms
    <*> fieldOr (.single "metadata") [] object ms
    <*> field? ⟨"fileName", "file_name"⟩ text ms
    <*> field? ⟨"relativePath", "relative_path"⟩ text ms
    <*> field? ⟨"generatedAt", "generated_at"⟩ Time.Instant.read ms

/-- An optional instant as JSON. -/
def instantJson? : Option Time.Instant → Json
  | some t => t.toJson
  | none => .null

/-- A generated test as JSON. -/
def toJson (t : TestFile) : Json :=
  .obj [("content", .str t.content), ("model", .ofString? t.model), ("prompt", .str t.prompt),
    ("metadata", .obj t.metadata), ("fileName", .ofString? t.fileName),
    ("relativePath", .ofString? t.relativePath), ("generatedAt", instantJson? t.generatedAt)]

end TestFile

end TestScribe.Generation
