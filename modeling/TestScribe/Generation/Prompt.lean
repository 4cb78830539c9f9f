import TestScribe.Component.Analysis
import TestScribe.Json.Plain
import TestScribe.Text.Blank

/-!
# Prompts

A prompt tells the model what is known about a component, section by section in a fixed order with
blank lines between them. A list that is empty is replaced by a sentence, so that prompts keep their
shape; only the sections with notes of the caller and with examples may be missing.
-/

namespace TestScribe.Generation

open Component

/-! ## Lists -/

/-- A line for each item, or a sentence if there is none. -/
def bullets (items : List String) (placeholder : String) : String :=
  if items.isEmpty then placeholder else "\n".intercalate (items.map ("- " ++ ·))

/-- A text that is there and not empty, between two others; nothing otherwise. -/
def around (before : String) (s : Option String) (after : String) : String :=
  match s with
  | some t => if t == "" then "" else before ++ t ++ after
  | none => ""

/-- A prop in words. -/
def propText (p : PropFact) : String :=
  p.name ++ around ": " p.type "" ++ " (required: " ++ (if p.required then "true" else "false") ++
    ")" ++ around " default=" p.default ""

/-- A state variable in words. -/
def stateText (s : StateFact) : String :=
  s.name ++ around " (initial: " s.initial ")"

/-- A hook call in words. -/
def hookText (h : HookFact) : String :=
  match h.dependencies with
  | some (d :: ds) => h.name ++ " (dependencies: " ++ ", ".intercalate (d :: ds) ++ ")"
  | _ => h.name

/-- An event handler in words. -/
def handlerText (h : HandlerFact) : String :=
  h.name ++ " handled by " ++ h.handler ++ around " on <" h.element ">"

/-- The names that an import brings in. -/
def bindings (i : ImportFact) : List String :=
  (i.default.toList ++ i.names ++ i.all.toList).filter (· != "")

/-- An import in words. -/
def importText (i : ImportFact) : String :=
  let names := ", ".intercalate (bindings i)
  i.source ++ " (" ++ (if names == "" then "side-effect import" else names) ++ ")"

/-! ## Sections -/

/-- How a prompt begins. -/
def header : String :=
  "System: You are an expert React Testing Library test generator. " ++
    "Respond with idiomatic tests that follow best practices."

/-- The component at a glance. -/
def overview (a : Analysis) : String :=
  "Component Overview:\n- Name: " ++ a.name ++ "\n- Type: " ++ a.form.name ++
    "\n- Complexity Score: " ++ toString a.complexity ++ "\n- Data Test IDs: " ++
    (if a.testIds.isEmpty then "none" else ", ".intercalate a.testIds)

/-- A section with a heading. -/
def headed (heading body : String) : String :=
  heading ++ ":\n" ++ body

/-- The six lists of a prompt. -/
def listSections (a : Analysis) : List String := [
  headed "Props" (bullets (a.props.map propText) "No explicit props detected."),
  headed "State" (bullets (a.state.map stateText) "No local state hooks detected."),
  headed "Hooks" (bullets (a.hooks.map hookText) "No hooks detected."),
  headed "Event Handlers"
    (bullets (a.handlers.map handlerText) "No explicit event handlers detected."),
  headed "Imported Dependencies"
    (bullets (a.imports.map importText) "No external dependencies detected."),
  headed "Testing Recommendations"
    (bullets a.recommendations "Follow standard React Testing Library best practices.")]

/-- The note on the name under which the component is shown, unless it is its own. -/
def displayNote (a : Analysis) : Option String :=
  match a.metadata.get? "displayName" with
  | some (.str s) => if s == "" || s == a.name then none else some ("Display name: " ++ s)
  | some v => if v.truthy then some ("Display name: " ++ v.plain) else none
  | none => none

/-- The note on a source that is part of a file. -/
def extentNote (a : Analysis) : Option String :=
  match a.metadata.get? "source" with
  | some (.str s) =>
    if s == "selection" then
      some "Source mode: selection (only part of the file was provided)"
    else none
  | _ => none

/-- The note on what the user asks for. -/
def instructionsNote (a : Analysis) : Option String :=
  match a.metadata.get? "instructions" with
  | some (.str s) =>
    let words := Text.trimmed s
    if words == "" then none else some ("User instructions: " ++ words)
  | _ => none

/-- What the caller notes about the component. -/
def contextNotes (a : Analysis) : List String :=
  (displayNote a).toList ++ (extentNote a).toList ++ (instructionsNote a).toList

/-- A section that is there only if it has something to say. -/
def contextSection (a : Analysis) : List String :=
  let notes := contextNotes a
  if notes.isEmpty then [] else [headed "Additional Context" (bullets notes "")]

/-- The section with examples. -/
def exampleSection (examples : List String) : List String :=
  if examples.isEmpty then [] else [headed "Few-shot Examples" ("\n---\n".intercalate examples)]

/-- What the model is to do. -/
def instructions : String :=
  headed "Instructions" ("\n".intercalate [
    "1. Write React Testing Library tests using TypeScript.",
    "2. Import only what is required for the tests.",
    "3. Cover critical user flows, props combinations, and event handlers.",
    "4. Use descriptive test names and prefer screen queries over destructuring.",
    "5. If hooks or async behavior exist, ensure proper usage of act/waitFor.",
    "6. Provide the final answer as a single test file content. Do not include explanations or " ++
      "additional prose."])

/-- How a prompt ends. -/
def closing : String := "Begin the test file now."

/-- The sections of a prompt in order. -/
def sections (a : Analysis) (examples : List String) : List String :=
  [header, overview a] ++ listSections a ++ contextSection a ++ exampleSection examples ++
    [instructions, closing]

/-- The prompt for a component. -/
def prompt (a : Analysis) (examples : List String) : String :=
  "\n\n".intercalate (sections a examples)

end TestScribe.Generation
