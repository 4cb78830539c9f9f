import TestScribe.Proofs.Wire.Spellings
import TestScribe.Validation.Verdict

/-!
# Bodies in either spelling

A body is a request or a test alone, and its fields may stand under either of their names.  Both
readings take either spelling (`Request.read_alike`, `TestFile.read_alike`), but which of them a
body is given to depends on the one spelling `generatedTest` (`IsEnvelope`).  So a respelled body
gets the same ruling as long as it falls on the same side of that test, and on the other side only
if the two readings say the same of it (`respelled_ruling_iff`).
-/

namespace TestScribe.Generation

open Wire

/-! ## Tests -/

namespace TestFile

/-- The fields of a test. -/
def keys : List Key :=
  [.single "content", .single "model", .single "prompt", .single "metadata",
    ⟨"fileName", "file_name"⟩, ⟨"relativePath", "relative_path"⟩, ⟨"generatedAt", "generated_at"⟩]

/-- A test is read the same from the members of a respelled object, whichever other fields are
respelled too. -/
theorem fields_alike {all : List Key} {R : String → Json → Json → Prop} {ms ms' : Members}
    (h : Respelled all R ms ms') (hapart : Apart all) (hkeys : keys ⊆ all)
    (hvalue : ∀ k ∈ keys, ∀ name v v', k.Names name → R name v v' → v = v') :
    Checked.Alike (read (.obj ms)) (read (.obj ms')) := by
  have hthrough : ∀ {α : Type} (reader : Reader α) (k : Key), k ∈ keys →
      ReadsThrough R k reader := by
    intro α reader k hk name v v' hname hR
    rw [hvalue k hk name v v' hname hR]
    rfl
  have hfield : ∀ {α : Type} (reader : Reader α) (k : Key), k ∈ keys →
      Checked.Alike (field k reader ms) (field k reader ms') := fun reader k hk =>
    field_alike h hapart (hkeys hk) (hthrough reader k hk)
  have hfieldOr : ∀ {α : Type} (default : α) (reader : Reader α) (k : Key), k ∈ keys →
      Checked.Alike (fieldOr k default reader ms) (fieldOr k default reader ms') :=
    fun default reader k hk => fieldOr_alike h hapart (hkeys hk) (hthrough reader k hk)
  have hcontent := hfield text (.single "content") (by simp [keys])
  have hmodel := hfieldOr none (nullable text) (.single "model") (by simp [keys])
  have hprompt := hfieldOr "" text (.single "prompt") (by simp [keys])
  have hmetadata := hfieldOr [] object (.single "metadata") (by simp [keys])
  have hfileName := hfieldOr none (nullable text) ⟨"fileName", "file_name"⟩ (by simp [keys])
  have hpath := hfieldOr none (nullable text) ⟨"relativePath", "relative_path"⟩ (by simp [keys])
  have hinstant := hfieldOr none (nullable Time.Instant.read) ⟨"generatedAt", "generated_at"⟩
    (by simp [keys])
  exact ((((((hcontent.map TestFile.mk).seq hmodel).seq hprompt).seq hmetadata).seq hfileName).seq
    hpath).seq hinstant

/-- The same value, or two objects of which one is the other with fields of a test respelled. -/
abbrev RespelledTest : Json → Json → Prop :=
  RespelledValue keys fun _ => Eq

theorem read_alike {v v' : Json} (h : RespelledTest v v') : Checked.Alike (read v) (read v') := by
  cases h with
  | same => rfl
  | object h =>
    exact fields_alike h (by decide) (List.Subset.refl keys) fun _ _ _ _ _ _ heq => heq

end TestFile

end TestScribe.Generation

namespace TestScribe.Validation.Request

open Wire Generation TestFile

/-! ## Respelled bodies -/

/-- The fields of a request and those of a test. -/
def bodyKeys : List Key :=
  [testKey, .single "component"] ++ TestFile.keys

/-- What may change in the value under a name when a body is respelled: the test of a request is
respelled in turn. The fields of a component have one spelling each. -/
def RespelledUnder (name : String) (v v' : Json) : Prop :=
  if testKey.Names name then RespelledTest v v' else v = v'

/-- The same body, or two objects of which one is the other with fields of a request or of a test
respelled, at either depth. -/
abbrev RespelledBody : Json → Json → Prop :=
  RespelledValue bodyKeys RespelledUnder

theorem bodyKeys_apart : Apart bodyKeys := by
  decide

theorem eq_of_respelledUnder {k : Key} (hapart : ¬ testKey.Clashes k) {name : String} {v v' : Json}
    (hname : k.Names name) (h : RespelledUnder name v v') : v = v' := by
  have hnot : ¬ testKey.Names name := fun htest => hapart (Key.clashes_of_names htest hname)
  rwa [RespelledUnder, if_neg hnot] at h

/-- A request is read the same from a respelled body. -/
theorem read_alike {b b' : Json} (h : RespelledBody b b') : Checked.Alike (read b) (read b') :=
  record_alike h fun ms ms' h => by
    have htest : Checked.Alike (field testKey TestFile.read ms) (field testKey TestFile.read ms') :=
      field_alike h bodyKeys_apart (by simp [bodyKeys]) fun name v v' hname hR => by
        rw [RespelledUnder, if_pos hname] at hR
        exact TestFile.read_alike hR
    have hcomponent : Checked.Alike (field? (.single "component") Subject.read ms)
        (field? (.single "component") Subject.read ms') :=
      fieldOr_alike h bodyKeys_apart (by simp [bodyKeys]) fun name v v' hname hR => by
        rw [eq_of_respelledUnder (by decide) hname hR]
        rfl
    exact (htest.map Request.mk).seq hcomponent

/-- A test alone is read the same from a respelled body. -/
theorem bare_alike {b b' : Json} (h : RespelledBody b b') :
    Checked.Alike (TestFile.read b) (TestFile.read b') := by
  have hnot : ∀ k ∈ TestFile.keys, ¬ testKey.Clashes k := by decide
  cases h with
  | same => rfl
  | object h =>
    refine fields_alike h bodyKeys_apart (List.subset_append_right _ _) ?_
    exact fun k hk name v v' hname hR => eq_of_respelledUnder (hnot k hk) hname hR

/-! ## Rulings -/

/-- The test is under the spelling of its name that makes a body count as a request. -/
def IsEnvelope (b : Json) : Prop :=
  (b.get? "generatedTest").isSome

instance (b : Json) : Decidable (IsEnvelope b) :=
  inferInstanceAs (Decidable (_ = true))

/-- A body read as a test alone makes the request. -/
def ReadsBare (b : Json) (r : Request) : Prop :=
  TestFile.read b = .ok r.test ∧ r.component = none

/-- A body read as a request and the body read as a test alone make the same request, or neither
makes one. -/
def ReadsAlike (b : Json) : Prop :=
  ∀ r, read b = .ok r ↔ ReadsBare b r

/-- Two bodies are both accepted, with the same request, or both refused as bad requests. -/
def SameRuling (x y : Except Failure Request) : Prop :=
  (∃ r, x = .ok r ∧ y = .ok r) ∨
    ∃ f g, x = .error f ∧ f.cause = .badRequest ∧ y = .error g ∧ g.cause = .badRequest

theorem toExcept_mapError_eq_ok_iff {α β : Type} {g : List Issue → β} {x : Checked α} {a : α} :
    x.toExcept.mapError g = .ok a ↔ x = .ok a := by
  cases x <;> simp [Checked.toExcept, Except.mapError]

theorem ofBody_eq_ok_iff {b : Json} {r : Request} :
    ofBody b = .ok r ↔ if IsEnvelope b then read b = .ok r else ReadsBare b r := by
  unfold ofBody
  rw [toExcept_mapError_eq_ok_iff]
  by_cases henvelope : IsEnvelope b
  · rw [if_pos henvelope]
    exact iff_of_eq (congrArg (· = _) (if_pos henvelope))
  · rw [if_neg henvelope, ReadsBare]
    refine (iff_of_eq (congrArg (· = _) (if_neg henvelope))).trans ?_
    cases TestFile.read b with
    | ok test => cases r; simp [Checked.map, eq_comm]
    | bad issues => simp [Checked.map]

theorem cause_of_ofBody {b : Json} {f : Failure} (h : ofBody b = .error f) :
    f.cause = .badRequest := by
  unfold ofBody at h
  revert h
  generalize (if (b.get? "generatedTest").isSome then read b else _) = x
  intro h
  cases x with
  | ok r => cases h
  | bad issues =>
    cases h
    rfl

theorem sameRuling_iff {b b' : Json} :
    SameRuling (ofBody b) (ofBody b') ↔ ∀ r, ofBody b = .ok r ↔ ofBody b' = .ok r := by
  constructor
  · rintro (⟨r, hb, hb'⟩ | ⟨f, g, hb, -, hb', -⟩) r'
    · rw [hb, hb']
    · rw [hb, hb']
      exact iff_of_false nofun nofun
  · intro hall
    cases hb : ofBody b with
    | ok r => exact .inl ⟨r, rfl, (hall r).1 hb⟩
    | error f =>
      cases hb' : ofBody b' with
      | ok r => cases hb.symm.trans ((hall r).2 hb')
      | error g => exact .inr ⟨f, g, rfl, cause_of_ofBody hb, rfl, cause_of_ofBody hb'⟩

/-- A body and a respelled one get the same ruling just if both or neither have the test under
`generatedTest`, or the two readings agree on them anyway; and a body that can be read as a request
is accepted as that request just if it has the test under `generatedTest`, or is that request as a
test alone as well. -/
theorem respelled_ruling_iff (b : Json) :
    (∀ b', RespelledBody b b' →
      (SameRuling (ofBody b) (ofBody b') ↔ (IsEnvelope b ↔ IsEnvelope b') ∨ ReadsAlike b)) ∧
    (∀ r, read b = .ok r → (ofBody b = .ok r ↔ IsEnvelope b ∨ ReadsBare b r)) := by
  constructor
  · intro b' hrespelled
    have hread : ∀ r, read b = .ok r ↔ read b' = .ok r := (read_alike hrespelled).ok_iff
    have hbare : ∀ r, ReadsBare b r ↔ ReadsBare b' r := fun r =>
      and_congr_left' ((bare_alike hrespelled).ok_iff r.test)
    simp only [sameRuling_iff, ofBody_eq_ok_iff]
    by_cases henvelope : IsEnvelope b <;> by_cases henvelope' : IsEnvelope b'
    · simp [henvelope, henvelope', hread]
    · simp [henvelope, henvelope', hbare, ReadsAlike]
    · simp [henvelope, henvelope', hread, ReadsAlike, iff_comm]
    · simp [henvelope, henvelope', hbare]
  · intro r hr
    rw [ofBody_eq_ok_iff]
    by_cases henvelope : IsEnvelope b
    · simp [henvelope, hr]
    · simp [henvelope]

/-- A request in the one spelling, down to its test. -/
def camelRequest : Json :=
  .obj [("generatedTest", .obj [("content", .str "c"), ("fileName", .str "a.test.tsx")])]

/-- The request with the name of the file in the other spelling. -/
def snakeFile : Json :=
  .obj [("generatedTest", .obj [("content", .str "c"), ("file_name", .str "a.test.tsx")])]

/-- The request with the name of the test in the other spelling. -/
def snakeTest : Json :=
  .obj [("generated_test", .obj [("content", .str "c"), ("fileName", .str "a.test.tsx")])]

/-- What the three say. -/
def spelledRequest : Request where
  component := none
  test :=
    { content := "c"
      model := none
      prompt := ""
      metadata := []
      fileName := some "a.test.tsx"
      relativePath := none
      generatedAt := none }

theorem respelled_snakeFile : RespelledBody camelRequest snakeFile := by
  refine .object ⟨.cons ⟨.inl rfl, ?_⟩ .nil, by decide, by decide⟩
  rw [RespelledUnder, if_pos (by decide)]
  have hfile : SameField keys "fileName" "file_name" :=
    .inr ⟨⟨"fileName", "file_name"⟩, by simp [keys], by decide, by decide⟩
  exact .object ⟨.cons ⟨.inl rfl, rfl⟩ (.cons ⟨hfile, rfl⟩ .nil), by decide, by decide⟩

theorem respelled_snakeTest : RespelledBody camelRequest snakeTest := by
  have htest : SameField bodyKeys "generatedTest" "generated_test" :=
    .inr ⟨testKey, by simp [bodyKeys], by decide, by decide⟩
  refine .object ⟨.cons ⟨htest, ?_⟩ .nil, by decide, by decide⟩
  rw [RespelledUnder, if_pos (by decide)]
  exact .same _

/-- Respelling the name of the file within the test changes nothing. -/
theorem respelled_ruling_iff_snakeFile :
    RespelledBody camelRequest snakeFile ∧ read snakeFile = .ok spelledRequest ∧
      SameRuling (ofBody camelRequest) (ofBody snakeFile) ∧ ofBody snakeFile = .ok spelledRequest :=
  ⟨respelled_snakeFile, rfl,
    ((respelled_ruling_iff camelRequest).1 _ respelled_snakeFile).2 (.inl (by decide)),
    ((respelled_ruling_iff snakeFile).2 _ rfl).2 (.inl (by decide))⟩

/-- Respelling the name of the test itself has a request refused that could be read. -/
theorem snakeTest_refused :
    RespelledBody camelRequest snakeTest ∧ read snakeTest = .ok spelledRequest ∧
      ofBody camelRequest = .ok spelledRequest ∧
      ¬ SameRuling (ofBody camelRequest) (ofBody snakeTest) ∧
      ofBody snakeTest ≠ .ok spelledRequest := by
  have hrefused : ofBody snakeTest ≠ .ok spelledRequest := nofun
  refine ⟨respelled_snakeTest, rfl, rfl, fun h => ?_, hrefused⟩
  exact hrefused ((sameRuling_iff.1 h _).1 rfl)

end TestScribe.Validation.Request
