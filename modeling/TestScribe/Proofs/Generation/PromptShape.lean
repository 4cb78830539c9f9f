import TestScribe.Generation.Prompt
import TestScribe.Proofs.Json.Writing
import TestScribe.Proofs.Text.Blocks

/-!
# The shape of a prompt

What a prompt says of a component takes one line for each thing said, as long as what is known of
the component is written without line feeds: a text made of unbroken texts is unbroken, and so is
every line of a list.  No section has an empty line, so cutting a prompt at its empty lines gives
its sections back, each with its lines (`blocks_prompt`).
-/

namespace TestScribe

open Text

/-! ## What is written of a component -/

namespace Component

/-- The texts that are written of a prop. -/
def PropFact.texts (p : PropFact) : List String :=
  p.name :: (p.type.toList ++ p.default.toList)

/-- The texts that are written of a state variable. -/
def StateFact.texts (s : StateFact) : List String :=
  s.name :: s.initial.toList

/-- The texts that are written of a hook call. -/
def HookFact.texts (h : HookFact) : List String :=
  h.name :: h.dependencies.getD []

/-- The texts that are written of an event handler. -/
def HandlerFact.texts (h : HandlerFact) : List String :=
  h.name :: h.handler :: h.element.toList

/-- The texts that are written of an import. -/
def ImportFact.texts (i : ImportFact) : List String :=
  i.source :: (i.default.toList ++ i.names ++ i.all.toList)

/-- A component of which all that is written in a prompt is without line feeds, with the notes of
the caller. -/
structure Analysis.IsUnbroken (a : Analysis) : Prop where
  name : Unbroken a.name
  testIds : ∀ t ∈ a.testIds, Unbroken t
  props : ∀ p ∈ a.props, ∀ t ∈ p.texts, Unbroken t
  state : ∀ s ∈ a.state, ∀ t ∈ s.texts, Unbroken t
  hooks : ∀ h ∈ a.hooks, ∀ t ∈ h.texts, Unbroken t
  handlers : ∀ h ∈ a.handlers, ∀ t ∈ h.texts, Unbroken t
  imports : ∀ i ∈ a.imports, ∀ t ∈ i.texts, Unbroken t
  recommendations : ∀ t ∈ a.recommendations, Unbroken t
  notes : ∀ t ∈ Generation.contextNotes a, Unbroken t

end Component

namespace Generation

open Component

/-! ## One line for each thing said -/

theorem unbroken_around {before after : String} (hbefore : Unbroken before)
    (hafter : Unbroken after) {s : Option String} (h : ∀ t ∈ s.toList, Unbroken t) :
    Unbroken (around before s after) := by
  unfold around
  split
  · next t =>
    split
    · exact (by decide : Unbroken "")
    · simp [hbefore, hafter, h t (by simp)]
  · exact (by decide : Unbroken "")

theorem unbroken_propText {p : PropFact} (h : ∀ t ∈ p.texts, Unbroken t) :
    Unbroken (propText p) := by
  obtain ⟨hname, hrest⟩ := List.forall_mem_cons.1 h
  obtain ⟨htype, hdefault⟩ := List.forall_mem_append.1 hrest
  have htruth : Unbroken (if p.required then "true" else "false") := by
    split <;> decide
  simp only [propText, unbroken_append]
  exact ⟨⟨⟨⟨⟨hname, unbroken_around (by decide) (by decide) htype⟩, by decide⟩, htruth⟩,
    by decide⟩, unbroken_around (by decide) (by decide) hdefault⟩

theorem unbroken_stateText {s : StateFact} (h : ∀ t ∈ s.texts, Unbroken t) :
    Unbroken (stateText s) := by
  obtain ⟨hname, hinitial⟩ := List.forall_mem_cons.1 h
  exact unbroken_append.2 ⟨hname, unbroken_around (by decide) (by decide) hinitial⟩

theorem unbroken_hookText {h : HookFact} (htexts : ∀ t ∈ h.texts, Unbroken t) :
    Unbroken (hookText h) := by
  obtain ⟨hname, hdependencies⟩ := List.forall_mem_cons.1 htexts
  unfold hookText
  split
  · next d ds heq =>
    rw [heq] at hdependencies
    have hjoined := unbroken_intercalate (by decide : Unbroken ", ") hdependencies
    simp only [unbroken_append]
    exact ⟨⟨⟨hname, by decide⟩, hjoined⟩, by decide⟩
  · exact hname

theorem unbroken_handlerText {h : HandlerFact} (htexts : ∀ t ∈ h.texts, Unbroken t) :
    Unbroken (handlerText h) := by
  obtain ⟨hname, hrest⟩ := List.forall_mem_cons.1 htexts
  obtain ⟨hhandler, helement⟩ := List.forall_mem_cons.1 hrest
  simp only [handlerText, unbroken_append]
  exact ⟨⟨⟨hname, by decide⟩, hhandler⟩, unbroken_around (by decide) (by decide) helement⟩

theorem unbroken_importText {i : ImportFact} (h : ∀ t ∈ i.texts, Unbroken t) :
    Unbroken (importText i) := by
  obtain ⟨hsource, hnames⟩ := List.forall_mem_cons.1 h
  have hbindings : ∀ t ∈ bindings i, Unbroken t := fun t ht => hnames t (List.mem_of_mem_filter ht)
  have hjoined := unbroken_intercalate (by decide : Unbroken ", ") hbindings
  simp only [importText, unbroken_append]
  refine ⟨⟨⟨hsource, by decide⟩, ?_⟩, by decide⟩
  split
  · decide
  · exact hjoined

theorem unbroken_toString (n : Int) : Unbroken (toString n) := by
  intro hfeed
  have hprintable := Json.isPrintable_of_mem_toString n _ hfeed
  exact absurd hprintable (by decide)

/-! ## Sections -/

/-- The lines of a section with a list: its heading, and a line for each item or one that says that
there is none. -/
def listLines (heading : String) (items : List String) (placeholder : String) : List String :=
  (heading ++ ":") :: if items = [] then [placeholder] else items.map ("- " ++ ·)

theorem feedLines_headed {heading : String} (h : Unbroken heading) (body : String) :
    feedLines (headed heading body) = (heading ++ ":") :: feedLines body := by
  have hheaded : headed heading body = heading ++ ":" ++ "\n" ++ body := by
    have hbreak : ":\n" = ":" ++ "\n" := by decide
    simp only [headed, hbreak, String.append_assoc]
  rw [hheaded, feedLines_append_feed,
    feedLines_of_unbroken (unbroken_append.2 ⟨h, by decide⟩), List.singleton_append]

theorem feedLines_bullets {items : List String} (h : ∀ t ∈ items, Unbroken t)
    {placeholder : String} (hplaceholder : Unbroken placeholder) :
    feedLines (bullets items placeholder) =
      if items = [] then [placeholder] else items.map ("- " ++ ·) := by
  cases items with
  | nil => exact feedLines_of_unbroken hplaceholder
  | cons t ts =>
    have hlines : ∀ l ∈ (t :: ts).map ("- " ++ ·), Unbroken l :=
      List.forall_mem_map.2 fun u hu => unbroken_append.2 ⟨by decide, h u hu⟩
    have hsome : (t :: ts).map ("- " ++ ·) ≠ [] := List.cons_ne_nil _ _
    rw [bullets, if_neg (by simp), feedLines_intercalate hsome hlines,
      if_neg (List.cons_ne_nil t ts)]

theorem feedLines_list {heading : String} (hheading : Unbroken heading) {items : List String}
    (h : ∀ t ∈ items, Unbroken t) {placeholder : String} (hplaceholder : Unbroken placeholder) :
    feedLines (headed heading (bullets items placeholder)) =
      listLines heading items placeholder := by
  rw [feedLines_headed hheading, feedLines_bullets h hplaceholder, listLines]

theorem empty_ne_append {s : String} (h : s ≠ "") (t : String) : "" ≠ s ++ t :=
  fun heq => h (String.append_eq_empty_iff.1 heq.symm).1

theorem empty_not_mem_bullets (items : List String) : "" ∉ items.map ("- " ++ ·) := by
  intro hmem
  obtain ⟨t, -, ht⟩ := List.mem_map.1 hmem
  exact empty_ne_append (by decide) t ht.symm

theorem empty_not_mem_listLines (heading : String) (items : List String) {placeholder : String}
    (h : placeholder ≠ "") : "" ∉ listLines heading items placeholder := by
  have hheading : "" ≠ heading ++ ":" := fun heq =>
    absurd (String.append_eq_empty_iff.1 heq.symm).2 (by decide)
  refine List.not_mem_cons_of_ne_of_not_mem hheading ?_
  split
  · exact List.not_mem_cons_of_ne_of_not_mem h.symm List.not_mem_nil
  · exact empty_not_mem_bullets items

/-- An example that can stand in a prompt: it is not empty, it neither begins nor ends with a line
feed, and it holds no two in a row. -/
structure IsExample (e : String) : Prop where
  nonempty : e ≠ ""
  begins : ¬ ['\n'] <+: e.toList
  ends : ¬ ['\n'] <:+ e.toList
  apart : ¬ ['\n', '\n'] <:+: e.toList

theorem IsExample.empty_not_mem {e : String} (h : IsExample e) : "" ∉ feedLines e :=
  empty_not_mem_feedLines h.nonempty h.begins h.ends h.apart

/-- The lines of a prompt, section by section. -/
def promptLines (a : Analysis) (examples : List String) : List (List String) := [
  ["System: You are an expert React Testing Library test generator. " ++
    "Respond with idiomatic tests that follow best practices."],
  ["Component Overview:", "- Name: " ++ a.name, "- Type: " ++ a.form.name,
    "- Complexity Score: " ++ toString a.complexity,
    "- Data Test IDs: " ++ if a.testIds = [] then "none" else ", ".intercalate a.testIds],
  listLines "Props" (a.props.map propText) "No explicit props detected.",
  listLines "State" (a.state.map stateText) "No local state hooks detected.",
  listLines "Hooks" (a.hooks.map hookText) "No hooks detected.",
  listLines "Event Handlers" (a.handlers.map handlerText) "No explicit event handlers detected.",
  listLines "Imported Dependencies" (a.imports.map importText)
    "No external dependencies detected.",
  listLines "Testing Recommendations" a.recommendations
    "Follow standard React Testing Library best practices."] ++
  (if contextNotes a = [] then []
    else ["Additional Context:" :: (contextNotes a).map ("- " ++ ·)]) ++
  (if examples = [] then []
    else ["Few-shot Examples:" :: ["---"].intercalate (examples.map feedLines)]) ++ [
  ["Instructions:", "1. Write React Testing Library tests using TypeScript.",
    "2. Import only what is required for the tests.",
    "3. Cover critical user flows, props combinations, and event handlers.",
    "4. Use descriptive test names and prefer screen queries over destructuring.",
    "5. If hooks or async behavior exist, ensure proper usage of act/waitFor.",
    "6. Provide the final answer as a single test file content. Do not include explanations or " ++
      "additional prose."],
  ["Begin the test file now."]]

theorem feedLines_overview {a : Analysis} (h : a.IsUnbroken) :
    feedLines (overview a) =
      ["Component Overview:", "- Name: " ++ a.name, "- Type: " ++ a.form.name,
        "- Complexity Score: " ++ toString a.complexity,
        "- Data Test IDs: " ++ if a.testIds = [] then "none" else ", ".intercalate a.testIds] := by
  have hnone : (if a.testIds.isEmpty then "none" else ", ".intercalate a.testIds) =
      if a.testIds = [] then "none" else ", ".intercalate a.testIds := by
    cases a.testIds <;> rfl
  have hname : "Component Overview:\n- Name: " = "Component Overview:" ++ "\n" ++ "- Name: " := by
    decide
  have htype : "\n- Type: " = "\n" ++ "- Type: " := by decide
  have hscore : "\n- Complexity Score: " = "\n" ++ "- Complexity Score: " := by decide
  have hids : "\n- Data Test IDs: " = "\n" ++ "- Data Test IDs: " := by decide
  have hjoined : overview a = "\n".intercalate
      ["Component Overview:", "- Name: " ++ a.name, "- Type: " ++ a.form.name,
        "- Complexity Score: " ++ toString a.complexity,
        "- Data Test IDs: " ++ if a.testIds = [] then "none" else ", ".intercalate a.testIds] := by
    unfold overview
    rw [hnone, hname, htype, hscore, hids]
    rw [String.intercalate_cons_cons, String.intercalate_cons_cons, String.intercalate_cons_cons,
      String.intercalate_cons_cons, String.intercalate_singleton]
    simp only [String.append_assoc, -String.reduceAppend]
  have hform : Unbroken a.form.name := by
    cases a.form <;> decide
  have htestIds : Unbroken (if a.testIds = [] then "none" else ", ".intercalate a.testIds) := by
    split
    · decide
    · exact unbroken_intercalate (by decide) h.testIds
  rw [hjoined]
  refine feedLines_intercalate (List.cons_ne_nil _ _) ?_
  simp only [List.forall_mem_cons, unbroken_append]
  exact ⟨by decide, ⟨by decide, h.name⟩, ⟨by decide, hform⟩, ⟨by decide, unbroken_toString _⟩,
    ⟨by decide, htestIds⟩, List.forall_mem_nil _⟩

theorem feedLines_listSections {a : Analysis} (h : a.IsUnbroken) :
    (listSections a).map feedLines = [
      listLines "Props" (a.props.map propText) "No explicit props detected.",
      listLines "State" (a.state.map stateText) "No local state hooks detected.",
      listLines "Hooks" (a.hooks.map hookText) "No hooks detected.",
      listLines "Event Handlers" (a.handlers.map handlerText)
        "No explicit event handlers detected.",
      listLines "Imported Dependencies" (a.imports.map importText)
        "No external dependencies detected.",
      listLines "Testing Recommendations" a.recommendations
        "Follow standard React Testing Library best practices."] := by
  have hprops := List.forall_mem_map.2 fun p hp => unbroken_propText (h.props p hp)
  have hstate := List.forall_mem_map.2 fun s hs => unbroken_stateText (h.state s hs)
  have hhooks := List.forall_mem_map.2 fun c hc => unbroken_hookText (h.hooks c hc)
  have hhandlers := List.forall_mem_map.2 fun c hc => unbroken_handlerText (h.handlers c hc)
  have himports := List.forall_mem_map.2 fun i hi => unbroken_importText (h.imports i hi)
  simp only [listSections, List.map_cons, List.map_nil]
  rw [feedLines_list (by decide) hprops (unbroken_ofList (by decide)),
    feedLines_list (by decide) hstate (unbroken_ofList (by decide)),
    feedLines_list (by decide) hhooks (unbroken_ofList (by decide)),
    feedLines_list (by decide) hhandlers (unbroken_ofList (by decide)),
    feedLines_list (by decide) himports (unbroken_ofList (by decide)),
    feedLines_list (by decide) h.recommendations (unbroken_ofList (by decide))]

theorem feedLines_contextSection {a : Analysis} (h : a.IsUnbroken) :
    (contextSection a).map feedLines =
      if contextNotes a = [] then []
      else ["Additional Context:" :: (contextNotes a).map ("- " ++ ·)] := by
  rw [contextSection]
  simp only [List.isEmpty_iff]
  split
  · rfl
  · next hsome =>
    rw [List.map_singleton, feedLines_list (by decide) h.notes (by decide), listLines,
      if_neg hsome]
    rfl

theorem feedLines_exampleSection (examples : List String) :
    (exampleSection examples).map feedLines =
      if examples = [] then []
      else ["Few-shot Examples:" :: ["---"].intercalate (examples.map feedLines)] := by
  rw [exampleSection]
  simp only [List.isEmpty_iff]
  split
  · rfl
  · next hsome =>
    have hline : "\n---\n" = "\n" ++ "---" ++ "\n" := by decide
    rw [List.map_singleton, feedLines_headed (by decide), hline,
      feedLines_intercalate_line (by decide) hsome]
    rfl

theorem feedLines_instructions :
    feedLines instructions =
      ["Instructions:", "1. Write React Testing Library tests using TypeScript.",
        "2. Import only what is required for the tests.",
        "3. Cover critical user flows, props combinations, and event handlers.",
        "4. Use descriptive test names and prefer screen queries over destructuring.",
        "5. If hooks or async behavior exist, ensure proper usage of act/waitFor.",
        "6. Provide the final answer as a single test file content. Do not include explanations or "
          ++ "additional prose."] := by
  have hheading : "Instructions" ++ ":" = "Instructions:" := by decide
  rw [instructions, feedLines_headed (by decide), hheading]
  refine congrArg _ (feedLines_intercalate (List.cons_ne_nil _ _) ?_)
  simp only [List.forall_mem_cons, unbroken_append]
  exact ⟨unbroken_ofList (by decide), unbroken_ofList (by decide), unbroken_ofList (by decide),
    unbroken_ofList (by decide), unbroken_ofList (by decide),
    ⟨unbroken_ofList (by decide), unbroken_ofList (by decide)⟩,
    List.forall_mem_nil _⟩

/-- Every section has the lines that it should have. -/
theorem map_feedLines_sections {a : Analysis} (h : a.IsUnbroken) (examples : List String) :
    (sections a examples).map feedLines = promptLines a examples := by
  have hheader : feedLines header = [header] := feedLines_of_unbroken <|
    unbroken_append.2 ⟨unbroken_ofList (by decide), unbroken_ofList (by decide)⟩
  have hclosing : feedLines closing = [closing] :=
    feedLines_of_unbroken (unbroken_ofList (by decide))
  have hsections : (sections a examples).map feedLines =
      [feedLines header, feedLines (overview a)] ++ (listSections a).map feedLines ++
        (contextSection a).map feedLines ++ (exampleSection examples).map feedLines ++
        [feedLines instructions, feedLines closing] := by
    simp only [sections, List.map_append, List.map_cons, List.map_nil]
  rw [hsections, hheader, feedLines_overview h, feedLines_listSections h,
    feedLines_contextSection h, feedLines_exampleSection, feedLines_instructions, hclosing]
  rfl

/-! ## No line is empty -/

theorem empty_not_mem_overview (a : Analysis) (ids : String) :
    "" ∉ ["Component Overview:", "- Name: " ++ a.name, "- Type: " ++ a.form.name,
      "- Complexity Score: " ++ toString a.complexity, "- Data Test IDs: " ++ ids] := by
  simp only [List.mem_cons, not_or]
  exact ⟨by decide, empty_ne_append (by decide) _, empty_ne_append (by decide) _,
    empty_ne_append (by decide) _, empty_ne_append (by decide) _, List.not_mem_nil⟩

/-- By induction on the examples: a line of them all is a line of one of them or stands between
two. -/
theorem empty_not_mem_exampleLines {examples : List String} (h : ∀ e ∈ examples, IsExample e) :
    "" ∉ ["---"].intercalate (examples.map feedLines) := by
  induction examples with
  | nil => exact List.not_mem_nil
  | cons e es ih =>
    obtain ⟨he, hes⟩ := List.forall_mem_cons.1 h
    cases es with
    | nil => simpa using he.empty_not_mem
    | cons e' es =>
      rw [List.map_cons, List.map_cons, List.intercalate_cons_cons]
      simp only [List.mem_append, List.mem_singleton, not_or]
      exact ⟨⟨he.empty_not_mem, by decide⟩, ih hes⟩

theorem empty_not_mem_promptLines (a : Analysis) {examples : List String}
    (h : ∀ e ∈ examples, IsExample e) : ∀ ls ∈ promptLines a examples, "" ∉ ls := by
  have hcontext : ∀ ls ∈ (if contextNotes a = [] then []
      else ["Additional Context:" :: (contextNotes a).map ("- " ++ ·)]), "" ∉ ls := by
    split
    · exact List.forall_mem_nil _
    · rw [List.forall_mem_singleton]
      exact List.not_mem_cons_of_ne_of_not_mem (by decide) (empty_not_mem_bullets _)
  have hfewShot : ∀ ls ∈ (if examples = [] then []
      else ["Few-shot Examples:" :: ["---"].intercalate (examples.map feedLines)]), "" ∉ ls := by
    split
    · exact List.forall_mem_nil _
    · rw [List.forall_mem_singleton]
      exact List.not_mem_cons_of_ne_of_not_mem (by decide) (empty_not_mem_exampleLines h)
  simp only [promptLines, List.forall_mem_append, List.forall_mem_cons]
  refine ⟨⟨⟨⟨by decide, empty_not_mem_overview a _, ?_⟩, hcontext⟩, hfewShot⟩, by decide, by decide,
    List.forall_mem_nil _⟩
  exact ⟨empty_not_mem_listLines _ _ (by decide), empty_not_mem_listLines _ _ (by decide),
    empty_not_mem_listLines _ _ (by decide), empty_not_mem_listLines _ _ (by decide),
    empty_not_mem_listLines _ _ (by decide), empty_not_mem_listLines _ _ (by decide),
    List.forall_mem_nil _⟩

/-! ## Prompts -/

/-- Cut at its empty lines, a prompt is its sections, each of them with its lines. -/
theorem blocks_prompt {a : Analysis} {examples : List String} (h : a.IsUnbroken)
    (hexamples : ∀ e ∈ examples, IsExample e) :
    blocks (prompt a examples) = promptLines a examples := by
  have hlines := map_feedLines_sections h examples
  have hempty : ∀ s ∈ sections a examples, "" ∉ feedLines s := by
    intro s hs
    refine empty_not_mem_promptLines a hexamples _ ?_
    rw [← hlines]
    exact List.mem_map_of_mem hs
  have hsome : sections a examples ≠ [] := List.append_ne_nil_of_right_ne_nil _ (by simp)
  rw [prompt, blocks_intercalate hsome hempty, hlines]

/-- A component with a note of the caller, without handlers and recommendations.  What is said of a
prop in its description takes two lines, but no prompt shows it. -/
def shownCard : Analysis where
  name := "Card"
  form := .functional
  props := [⟨"title", some "string", true, none, some "one\ntwo"⟩,
    ⟨"size", none, false, some "3", none⟩]
  state := [⟨"open", some "false"⟩]
  hooks := [⟨"useEffect", some ["open", "size"]⟩]
  handlers := []
  imports := [⟨"./card.css", [], none, none⟩]
  testIds := ["card", "close"]
  complexity := 12
  recommendations := []
  metadata := [("instructions", .str " be brief\n")]

/-- Two examples, one of them of two lines. -/
def shownExamples : List String := ["first\nsecond", "third"]

/-- Twelve sections: without handlers and recommendations their two lists say so in one line. -/
theorem blocks_prompt_card :
    shownCard.IsUnbroken ∧ (∀ e ∈ shownExamples, IsExample e) ∧
    blocks (prompt shownCard shownExamples) = promptLines shownCard shownExamples ∧
    (promptLines shownCard shownExamples).map List.length = [1, 5, 3, 2, 2, 2, 2, 2, 2, 5, 7, 1] ∧
    (promptLines shownCard shownExamples)[8]? =
      some ["Additional Context:", "- User instructions: be brief"] := by
  have hunbroken : shownCard.IsUnbroken := by
    constructor <;> decide +kernel
  have hexamples : ∀ e ∈ shownExamples, IsExample e := by
    rw [shownExamples, List.forall_mem_cons, List.forall_mem_singleton]
    exact ⟨⟨by decide, by decide, by decide, by decide⟩,
      ⟨by decide, by decide, by decide, by decide⟩⟩
  exact ⟨hunbroken, hexamples, blocks_prompt hunbroken hexamples, by decide +kernel,
    by decide +kernel⟩

end Generation

end TestScribe
