import TestScribe.Gateway.Assembly
import TestScribe.Proofs.Generation.EventGrammar
import TestScribe.Proofs.Json.Members

/-!
# What the stages say about a finished test

A stage that has set a field of the test decides it: the validation before the generation, and the
gateway only if neither has (`stageValue`).  This is how the finished test gets its file name.  Its
path is taken from the generation as it stands, so that an empty one is kept, and its time is not
taken from the generation at all (`finished_stageValues`).
-/

namespace TestScribe.Gateway

open Component Generation

/-! ## Names -/

/-- How the notes of a finished test call the component. -/
def finalName (a : Analysis) (r : Request) : String :=
  r.displayName.getD a.name

theorem names_callerNotes_nodup (display : String) (r : Request) :
    ((callerNotes display r).map (·.1)).Nodup := by
  unfold callerNotes
  cases r.instructions with
  | none => exact (by decide : ["displayName", "source"].Nodup)
  | some text => exact (by decide : ["displayName", "source", "instructions"].Nodup)

/-- Notes of the caller that are written over others say how the component is called. -/
theorem displayName_merge_callerNotes (ms : Members) (display : String) (r : Request) :
    (ms.merge (callerNotes display r)).get? "displayName" = some (.str display) := by
  rw [Members.get?_merge (names_callerNotes_nodup display r)]
  rfl

theorem displayName_finished (validated generated : TestFile) (a : Analysis) (r : Request)
    (now : Time.Instant) :
    (finished validated generated a r now).metadata.get? "displayName" =
      some (.str (finalName a r)) :=
  displayName_merge_callerNotes _ _ r

/-! ## Fields -/

/-- The value of a field that the validation, then the generation, and last the gateway decides. -/
def stageValue {α : Type} (validated generated derived : Option α) : Option α :=
  (validated.or generated).or derived

section StageValue

variable {α : Type} (validated generated : Option α) (derived : α)

theorem stageValue_some :
    stageValue validated generated (some derived) =
      some ((validated.or generated).getD derived) := by
  unfold stageValue
  cases validated.or generated <;> rfl

/-- Leaving out the generation makes no difference if it says nothing else than the gateway. -/
theorem getD_eq_stageValue_iff :
    some (validated.getD derived) = stageValue validated generated (some derived) ↔
      (validated = none → generated = none ∨ generated = some derived) := by
  cases validated with
  | some v => simp [stageValue]
  | none =>
    cases generated with
    | none => simp [stageValue]
    | some g =>
      simp [stageValue, eq_comm]

end StageValue

/-- A text that may be empty is taken as it stands only if nothing comes before it. -/
theorem or_eq_stageValue_iff (validated generated : Option String) :
    validated.or generated = stageValue validated (unlessEmpty generated) none ↔
      (validated = none → generated ≠ some "") := by
  cases validated with
  | some v => simp [stageValue]
  | none =>
    cases generated with
    | none => simp [stageValue, unlessEmpty]
    | some g => by_cases h : g = "" <;> simp [stageValue, unlessEmpty, Option.filter, h]

/-- The file name of a finished test is that of the last stage that has set one, else it is made of
the name in its notes.  The path is that of the last stage that has set one unless only the
generation has and its path is empty, and the time is that of the last stage that has set one unless
only the generation has. -/
theorem finished_stageValues (validated generated : TestFile) (a : Analysis) (r : Request)
    (now : Time.Instant) :
    let t := finished validated generated a r now
    t.metadata.get? "displayName" = some (.str (finalName a r)) ∧
    t.fileName = stageValue (unlessEmpty validated.fileName) (unlessEmpty generated.fileName)
      (some (Text.withoutBlanks (finalName a r) ++ ".test.tsx")) ∧
    (t.relativePath = stageValue (unlessEmpty validated.relativePath)
        (unlessEmpty generated.relativePath) none ↔
      (unlessEmpty validated.relativePath = none → generated.relativePath ≠ some "")) ∧
    (t.generatedAt = stageValue validated.generatedAt generated.generatedAt (some now) ↔
      (validated.generatedAt = none →
        generated.generatedAt = none ∨ generated.generatedAt = some now)) := by
  intro t
  refine ⟨displayName_finished validated generated a r now, ?_, ?_, ?_⟩
  · rw [stageValue_some]
    rfl
  · apply or_eq_stageValue_iff
  · apply getD_eq_stageValue_iff

/-! ## A time that gets lost -/

/-- A test that says nothing but what it tests. -/
def bareTest : TestFile :=
  { content := "c", model := none, prompt := "", metadata := [], fileName := none
    relativePath := none, generatedAt := none }

/-- The time at which a test was generated. -/
def someMay : Time.Instant :=
  { date := { year := 2023, month := 5, day := 6 }, hour := 7, minute := 8, second := 9, micro := 0
    offset := some 0 }

/-- The time at which a test was finished. -/
def someJanuary : Time.Instant :=
  { date := { year := 2024, month := 1, day := 2 }, hour := 3, minute := 4, second := 5, micro := 0
    offset := some 0 }

/-- The analysis of a component called `Card`. -/
def cardAnalysis : Analysis :=
  { Generation.greeting with name := "Card", complexity := 1 }

/-- A request that says nothing but what to test. -/
def bareRequest : Request :=
  { code := "x", name := none, filePath := none, displayName := none, instructions := none
    extent := .full, metadata := none, options := none }

/-- The generation has set the time, the validation has not, and the finished test has another. -/
theorem finished_loses_time :
    ¬ (finished bareTest { bareTest with generatedAt := some someMay } cardAnalysis bareRequest
          someJanuary).generatedAt =
      stageValue bareTest.generatedAt (some someMay) (some someJanuary) := by
  intro h
  have hyear := congrArg (Option.map fun t => t.date.year) h
  exact absurd hyear (by decide)

end TestScribe.Gateway
