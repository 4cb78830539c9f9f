import TestScribe.Proofs.Gateway.DisplayNames
import TestScribe.Proofs.Json.Names
import TestScribe.Proofs.Wire.RoundTrip

/-!
# What the stages pass on

The notes of an analysis and of a test are open maps, of which the gateway writes a few names and
leaves the others alone.  The analysis that goes to the generation is the one that came from the
analysis, up to these notes (`passesOn_enriched`); the finished test is the one that came from the
validation, with the notes that the generation made beside its own (`finishes_finished`).  So it is
in every run that comes to a verdict (`stages_pass_on`).
-/

namespace TestScribe.Gateway

open Transport TestScribe.Flow Client Component Generation

/-! ## Notes of the gateway -/

/-- The names of the notes that the gateway writes for a request. -/
def callerNames (r : Request) : List String :=
  ["displayName", "source"] ++ if r.instructions.isSome then ["instructions"] else []

theorem names_callerNotes (display : String) (r : Request) :
    (callerNotes display r).map (·.1) = callerNames r := by
  unfold callerNotes callerNames
  cases r.instructions <;> rfl

theorem get?_callerNotes {r : Request} {key : String} (h : key ∉ callerNames r)
    (display : String) : (callerNotes display r).get? key = none := by
  rw [← names_callerNotes display r] at h
  exact Members.get?_eq_none_of_not_mem h

/-- Notes of the gateway that are written over others leave all others as they are. -/
theorem get?_merge_callerNotes {r : Request} {key : String} (h : key ∉ callerNames r)
    (display : String) (ms : Members) :
    (ms.merge (callerNotes display r)).get? key = ms.get? key := by
  rw [Members.get?_merge (names_callerNotes_nodup display r), get?_callerNotes h, Option.none_or]

/-! ## Analyses that are passed on -/

/-- The analysis `sent` is the analysis `received` in all but its notes, and in the notes under all
names but those of the gateway.  The names that were there keep their places, and those of the
gateway that were not follow. -/
structure PassesOn (r : Request) (received sent : Analysis) : Prop where
  fields : { sent with metadata := received.metadata } = received
  notes : ∀ key ∉ callerNames r, sent.metadata.get? key = received.metadata.get? key
  names : sent.metadata.map (·.1) = received.metadata.map (·.1) ++
    (callerNames r).filter fun key => key ∉ received.metadata.map (·.1)

theorem passesOn_enriched (a : Analysis) (r : Request) : PassesOn r a (enriched a r) where
  fields := rfl
  notes _ h := get?_merge_callerNotes h _ _
  names := by
    have hnames := Members.names_merge
      (names_callerNotes_nodup ((r.displayName.or r.name).getD a.name) r) a.metadata
    rwa [names_callerNotes] at hnames

/-- To attach notes one after another is to attach them all at once, those of one name where the
first of them was attached and with the value of the last. -/
theorem foldl_withMetadata (a : Analysis) (extras : List Members) :
    extras.foldl Analysis.withMetadata a = a.withMetadata (extras.foldl Members.merge []) := by
  suffices h : ∀ notes : Members, (notes.map (·.1)).Nodup →
      extras.foldl Analysis.withMetadata (a.withMetadata notes) =
        a.withMetadata (extras.foldl Members.merge notes) from h [] List.nodup_nil
  intro notes hnotes
  induction extras generalizing notes with
  | nil => rfl
  | cons extra extras ih =>
    have hstep : (a.withMetadata notes).withMetadata extra = a.withMetadata (notes.merge extra) :=
      congrArg (fun ms => { a with metadata := ms }) (Members.merge_merge hnotes a.metadata extra)
    rw [List.foldl_cons, hstep, ih _ (Members.nodup_merge hnotes extra)]
    rfl

/-! ## Finished tests -/

/-- The test `final` is the test `validated` in content, model and prompt.  Under all names but
those of the gateway its notes are those of `validated`, and else those of `generated`. -/
structure Finishes (r : Request) (validated generated final : TestFile) : Prop where
  content : final.content = validated.content
  model : final.model = validated.model
  prompt : final.prompt = validated.prompt
  notes : ∀ key ∉ callerNames r, final.metadata.get? key =
    (validated.metadata.get? key).or (generated.metadata.get? key)

/-- A test whose notes have different names is finished by the gateway. -/
theorem finishes_finished {validated : TestFile} (h : (validated.metadata.map (·.1)).Nodup)
    (generated : TestFile) (a : Analysis) (r : Request) (now : Time.Instant) :
    Finishes r validated generated (finished validated generated a r now) where
  content := rfl
  model := rfl
  prompt := rfl
  notes key hkey := by
    rw [← Members.get?_merge h generated.metadata key]
    exact get?_merge_callerNotes hkey _ _

/-! ## Names in the answers of the stages -/

section Names

open Json (HoldsOnce)
open Wire.Checked (seq_eq_ok_iff functorMap_eq_ok_iff under_eq_ok_iff)

theorem holdsOnce_of_bodyOf? {text : String} {v : Json} (h : bodyOf? text = some v) :
    HoldsOnce v := by
  unfold bodyOf? at h
  split at h
  · exact Json.holdsOnce_of_read? h
  · exact Json.holdsOnce_of_read? h

/-- The data of a reply is a part of a value that was read. -/
theorem holdsOnce_of_dataOf {p : Peer} {id data : Json} {reply : Reply}
    (h : dataOf p id reply = .ok data) : HoldsOnce data := by
  unfold dataOf at h
  split at h
  · cases h
  · next a =>
    split at h
    · cases h
    · cases h
    · unfold dataIn at h
      split at h
      · split at h <;> cases h
      · split at h
        · next hdata =>
          obtain rfl := Except.ok.inj h
          obtain ⟨v, hv, hdata⟩ := Option.bind_eq_some_iff.1 hdata
          exact (holdsOnce_of_bodyOf? hv).member hdata
        · cases h

/-- The value of a field is that of a member. -/
theorem holdsOnce_of_find? {k : Wire.Key} {ms : Members} {name : String} {v : Json}
    (hms : HoldsOnce (.obj ms)) (h : k.find? ms = some (name, v)) : HoldsOnce v := by
  unfold Wire.Key.find? at h
  split at h
  · next hwire =>
    obtain ⟨-, rfl⟩ := Prod.mk.inj (Option.some.inj h)
    exact hms.get? hwire
  · obtain ⟨w, hplain, heq⟩ := Option.map_eq_some_iff.1 h
    obtain ⟨-, rfl⟩ := Prod.mk.inj heq
    exact hms.get? hplain

/-- The notes of a test that is read are those of a member, or there are none. -/
theorem nodup_metadata_of_read {v : Json} {t : TestFile} (hv : HoldsOnce v)
    (h : TestFile.read v = .ok t) : (t.metadata.map (·.1)).Nodup := by
  obtain ⟨ms, rfl, hfields⟩ := Wire.record_eq_ok_iff.1 h
  simp only [seq_eq_ok_iff, functorMap_eq_ok_iff] at hfields
  obtain ⟨_, ⟨_, ⟨_, ⟨_, ⟨_, ⟨_, ⟨_, -, rfl⟩, _, -, rfl⟩, _, -, rfl⟩, notes, hnotes, rfl⟩, _, -,
    rfl⟩, _, -, rfl⟩, _, -, rfl⟩ := hfields
  unfold Wire.fieldOr at hnotes
  split at hnotes
  · next name w hfind =>
    have hw := holdsOnce_of_find? hv hfind
    cases w with
    | obj notes =>
      obtain rfl := Wire.Checked.ok.inj hnotes
      exact hw.nodup
    | _ => cases hnotes
  · obtain rfl := Wire.Checked.ok.inj hnotes
    exact List.nodup_nil

theorem nodup_metadata_of_verdict {v : Json} {w : Validation.Verdict} (hv : HoldsOnce v)
    (h : Validation.Verdict.read v = .ok w) : (w.test.metadata.map (·.1)).Nodup := by
  obtain ⟨ms, rfl, hfields⟩ := Wire.record_eq_ok_iff.1 h
  simp only [seq_eq_ok_iff, functorMap_eq_ok_iff] at hfields
  obtain ⟨_, ⟨_, ⟨_, -, rfl⟩, _, -, rfl⟩, test, htest, rfl⟩ := hfields
  unfold Wire.field at htest
  split at htest
  · next name u hfind =>
    exact nodup_metadata_of_read (holdsOnce_of_find? hv hfind) (under_eq_ok_iff.1 htest)
  · cases htest

/-- The notes of a test that was validated have different names. -/
theorem Course.nodup_metadata_of_validation {x : Course} {a : Analysis} {t : TestFile}
    {w : Validation.Verdict} (h : x.validation a t = .ok w) :
    (w.test.metadata.map (·.1)).Nodup := by
  obtain ⟨n, -, data, hanswer, hread⟩ := Stage.accepts_of_result _ _ _ _ _ _ h
  exact nodup_metadata_of_verdict (holdsOnce_of_dataOf hanswer) hread

end Names

/-! ## Runs -/

/-- The analysis in the body of a request for a test. -/
def analysisIn? (call : Call) : Option Json :=
  call.body.bind fun body => body.get? "analysis"

/-- The generation was asked, and each time for the analysis `e`. -/
structure AsksFor (sent : List Call) (e : Analysis) : Prop where
  asked : ∃ call ∈ sent, call.service = "llm-service"
  analysis : ∀ call ∈ sent, call.service = "llm-service" → analysisIn? call = some e.toJson

/-- In a run that comes to a verdict the generation is asked for an analysis that passes on the one
of the analysis stage, and the test of the verdict finishes that of the validation.  The notes that
are attached to any analysis one after another may as well be merged in that order and attached at
once. -/
theorem stages_pass_on (s : Service.Surroundings) (r : Request) (given : Option String)
    (options : Option Generation.Options) (scripts : Peer → Script) (c : Client) :
    (∀ v, (Flow.run (makeTest s r given options) (c.over scripts)).1 = .ok v →
      let x := courseOf s r given options scripts c
      ∃ a t w, x.analysis = .ok a ∧ x.generation a = .ok t ∧ x.validation a t = .ok w ∧
        (∃ e, PassesOn r a e ∧ AsksFor (Flow.sent (c.over scripts)
          (Flow.run (makeTest s r given options) (c.over scripts)).2) e) ∧
        Finishes r w.test t v.test) ∧
    ∀ (a : Analysis) (extras : List Members),
      extras.foldl Analysis.withMetadata a = a.withMetadata (extras.foldl Members.merge []) := by
  refine ⟨fun v hrun => ?_, foldl_withMetadata⟩
  intro x
  obtain ⟨houtcome, hsent⟩ := run_makeTest s r given options scripts c
  rw [houtcome, Course.verdict, Course.bind_eq_ok_iff] at hrun
  obtain ⟨a, ha, hrun⟩ := hrun
  obtain ⟨t, ht, hrun⟩ := Course.bind_eq_ok_iff.1 hrun
  obtain ⟨w, hw, hrun⟩ := Course.bind_eq_ok_iff.1 hrun
  obtain rfl := Except.ok.inj hrun
  have hcalls := Course.mem_calls_generation_iff (x := x) ha ht
  refine ⟨a, t, w, ha, ht, hw, ⟨enriched a r, passesOn_enriched a r, ?_⟩,
    finishes_finished (Course.nodup_metadata_of_validation hw) t (enriched a r) r s.now⟩
  rw [hsent.sent_eq]
  constructor
  case asked => exact ⟨_, (hcalls _).2 rfl⟩
  case analysis =>
    intro call hcall hservice
    rw [(hcalls call).1 ⟨hcall, hservice⟩]
    rfl

/-- Services of which each makes notes, some under the same names. -/
def notedServices : Peer → Script
  | .analysis =>
    answering ("\x7b\"data\":\x7b\"name\":\"Card\",\"type\":\"functional\"," ++
      "\"metadata\":\x7b\"team\":\"ui\",\"source\":\"file\",\"rank\":1\x7d\x7d\x7d")
  | .generation =>
    answering ("\x7b\"data\":\x7b\"content\":\"c\"," ++
      "\"metadata\":\x7b\"seed\":\"7\",\"team\":\"tests\"\x7d\x7d\x7d")
  | .validation =>
    answering ("\x7b\"data\":\x7b\"valid\":true,\"generatedTest\":" ++
      "\x7b\"content\":\"d\",\"metadata\":\x7b\"seed\":\"9\"\x7d\x7d\x7d\x7d")

/-- A request with instructions. -/
def instructing : Request :=
  { bareRequest with instructions := some "be brief" }

/-- A run over the services of `notedServices`. -/
def notedRun : Except Problem Validation.Verdict × Client :=
  Flow.run (makeTest someSurroundings instructing none none) (newClient.over notedServices)

/-- The names of the notes that go to the generation, and the content of the finished test with the
texts among its notes. -/
def notesIn (e : Except Problem Validation.Verdict × Client) :
    List (List String) × Option (String × List (String × Option String)) :=
  ((Flow.sent (newClient.over notedServices) e.2).filterMap fun call => do
      let notes ← (← analysisIn? call).get? "metadata"
      return (← notes.members?).map (·.1),
    e.1.toOption.map fun v => (v.test.content, v.test.metadata.map fun m => (m.1, m.2.string?)))

/-- Of the notes of the analysis only the source is written over, and of two notes on the seed the
later one is kept. -/
theorem stages_pass_on_noted :
    ∃ v, notedRun.1 = .ok v ∧
      (∃ (a : Analysis) (t : TestFile) (w : Validation.Verdict),
        (∃ e, PassesOn instructing a e ∧
          AsksFor (Flow.sent (newClient.over notedServices) notedRun.2) e) ∧
        Finishes instructing w.test t v.test) ∧
      notesIn notedRun =
        ([["team", "source", "rank", "displayName", "instructions"]],
          some ("d", [("seed", some "9"), ("team", some "tests"), ("displayName", some "Card"),
            ("source", some "full"), ("instructions", some "be brief")])) := by
  have hnotes : notesIn notedRun =
      ([["team", "source", "rank", "displayName", "instructions"]],
        some ("d", [("seed", some "9"), ("team", some "tests"), ("displayName", some "Card"),
          ("source", some "full"), ("instructions", some "be brief")])) := by
    decide +kernel
  have hok : notedRun.1.toOption.isSome = true := by
    decide +kernel
  rcases hrun : notedRun.1 with p | v
  · rw [hrun] at hok
    cases hok
  · obtain ⟨a, t, w, -, -, -, hasks, hfinishes⟩ :=
      (stages_pass_on someSurroundings instructing none none notedServices newClient).1 v hrun
    exact ⟨v, rfl, ⟨a, t, w, hasks, hfinishes⟩, hnotes⟩

end TestScribe.Gateway
