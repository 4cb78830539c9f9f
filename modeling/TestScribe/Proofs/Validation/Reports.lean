import TestScribe.Proofs.Journal.FlowRules
import TestScribe.Proofs.Json.Numbers
import TestScribe.Proofs.Text.Lines
import TestScribe.Proofs.Text.Splitting
import TestScribe.Validation.Check

/-!
# What a check reports

The issues of a test are said of its text as it stands (`reports`), though the text is trimmed
before it is searched: no mark of a block and no name of the library holds a blank, so blanks around
a text change nothing (`contentIssues_eq`).  A syntax error is described by a text that begins and
ends with other characters than blanks (`isTight_describe`).  So what is cut off its message is the
place that was written behind the description, and no more (`withoutPlace_message`), whatever token
the description quotes.
-/

namespace TestScribe

open Text

/-! ## Texts without blanks at their ends -/

namespace Text

/-- A text that begins and ends with a character that is not blank. -/
def IsTight (s : List Char) : Prop :=
  ∃ a m b, s = a :: m ++ [b] ∧ isBlank a = false ∧ isBlank b = false

theorem IsTight.trim_eq {s : List Char} (h : IsTight s) : trim s = s := by
  obtain ⟨a, m, b, rfl, ha, hb⟩ := h
  have htrim := trim_surrounded (List.forall_mem_nil _) (List.forall_mem_nil _) ha hb m
  rwa [List.nil_append, List.append_nil] at htrim

theorem IsTight.cons_append {s : List Char} (h : IsTight s) {c : Char} (hc : isBlank c = false)
    (r : List Char) : IsTight (c :: r ++ s) := by
  obtain ⟨a, m, b, rfl, -, hb⟩ := h
  exact ⟨c, r ++ a :: m, b, by simp, hc, hb⟩

/-- A text in quotes stands between two of them. -/
theorem isTight_quoted (s : String) : IsTight (quoted s).toList := by
  have hquote : isBlank (quoteFor s.toList) = false := by
    unfold quoteFor
    split <;> decide
  exact ⟨_, _, _, String.toList_ofList, hquote, hquote⟩

/-- The digits of a number are decimal digits. -/
theorem isDecimalDigit_of_isDigit {c : Char} (h : c.isDigit = true) : isDecimalDigit c = true := by
  have hbounds := (Json.isDigit_iff c).1 h
  have hfirst : (0x30 ≤ c.toNat && c.toNat < 0x30 + 10) = true := by
    simp only [Bool.and_eq_true, decide_eq_true_eq]
    omega
  rw [isDecimalDigit, digitValue?, Option.isSome_map, List.find?_isSome]
  exact ⟨0x30, List.mem_cons_self, hfirst⟩

end Text

/-! ## Descriptions of syntax errors -/

namespace Syntax

theorem isTight_unknown : IsTight Fault.unknown.toList :=
  ⟨'U', "nexpected toke".toList, 'n', by decide, by decide, by decide⟩

/-- What is said of a faulty node ends with a quote, or with the end of the input. -/
theorem isTight_describe (s : Source) (n : Node) : IsTight (s.describe n).toList := by
  have hmissing : "Missing ".toList = 'M' :: "issing ".toList := by decide
  have hunknown : Fault.unknown.toList ++ " ".toList = 'U' :: "nexpected token ".toList := by decide
  unfold Source.describe
  split
  · rw [String.toList_append, hmissing]
    exact (isTight_quoted n.kind).cons_append (by decide) _
  · split
    · exact ⟨'U', "nexpected end of inpu".toList, 't', by decide, by decide, by decide⟩
    · rw [String.toList_append, String.toList_append, hunknown]
      exact (isTight_quoted _).cons_append (by decide) _

theorem isTight_of_fault? {s : Source} {root : Node} {f : Fault} (h : s.fault? root = some f) :
    IsTight f.description.toList := by
  rw [Source.fault?] at h
  split at h
  · obtain rfl := Option.some.inj h
    cases root.firstFault? with
    | none => exact isTight_unknown
    | some n => exact isTight_describe s n
  · cases h

theorem fault?_eq_none_iff {s : Source} {root : Node} :
    s.fault? root = none ↔ root.hasError = false := by
  rw [Source.fault?]
  cases root.hasError <;> simp

/-- The number of the line and of the column, as they stand behind a description. -/
def Fault.place (f : Fault) : List Char :=
  '(' :: Nat.toDigits 10 f.line ++ ':' :: Nat.toDigits 10 f.column ++ [')']

theorem Fault.toList_message (f : Fault) :
    f.message.toList = f.description.toList ++ ' ' :: f.place := by
  have hopen : " (".toList = [' ', '('] := by decide
  simp [Fault.message, Fault.place, hopen]

end Syntax

namespace Validation

open Syntax Generation

/-! ## The place behind a description -/

/-- A number is read back from its last digit up to the first character that is no digit. -/
theorem afterNumber?_toDigits (n : Nat) {c : Char} (hc : isDecimalDigit c = false)
    (r : List Char) : afterNumber? ((Nat.toDigits 10 n).reverse ++ c :: r) = some (c :: r) := by
  have hdigits : ∀ d ∈ (Nat.toDigits 10 n).reverse, isDecimalDigit d = true := fun d hd =>
    isDecimalDigit_of_isDigit ((Json.areDigits_toDigits n).digits d (List.mem_reverse.1 hd))
  have hdrop : ((Nat.toDigits 10 n).reverse ++ c :: r).dropWhile isDecimalDigit = c :: r := by
    rw [List.dropWhile_append_of_pos hdigits, List.dropWhile_cons_of_neg (by simp [hc])]
  cases hreverse : (Nat.toDigits 10 n).reverse with
  | nil => exact absurd (List.reverse_eq_nil_iff.1 hreverse) Nat.toDigits_ne_nil
  | cons d ds =>
    rw [hreverse] at hdigits hdrop
    rw [List.cons_append, afterNumber?, if_pos (hdigits d List.mem_cons_self), ← List.cons_append,
      hdrop]

theorem afterPlace?_place (f : Fault) (r : List Char) :
    afterPlace? (f.place.reverse ++ r) = some r := by
  have hplace : f.place.reverse ++ r = ')' :: ((Nat.toDigits 10 f.column).reverse ++
      ':' :: ((Nat.toDigits 10 f.line).reverse ++ '(' :: r)) := by
    simp [Fault.place]
  have hcolumn := afterNumber?_toDigits f.column (by decide)
    ((Nat.toDigits 10 f.line).reverse ++ '(' :: r) (c := ':')
  have hline := afterNumber?_toDigits f.line (by decide) r (c := '(')
  rw [hplace]
  simp [afterPlace?, hcolumn, hline]

/-- A text that ends with a place, not with a line feed, is cut before it. -/
theorem withoutPlace_of_place {s r rest : List Char} (hs : s.reverse = ')' :: r)
    (hplace : afterPlace? (')' :: r) = some rest) :
    withoutPlace s = (rest.dropWhile isBlank).reverse := by
  unfold withoutPlace
  dsimp only
  rw [hs]
  split
  · next cut hcut =>
    obtain rfl := Option.some.inj (hplace.symm.trans hcut)
    rfl
  · next hnone => cases hplace.symm.trans hnone

/-- The place that was written behind a description is cut off, and the description is left. -/
theorem withoutPlace_message {f : Fault} (h : IsTight f.description.toList) :
    withoutPlace f.message.toList = f.description.toList := by
  have hreverse : f.message.toList.reverse =
      f.place.reverse ++ ' ' :: f.description.toList.reverse := by
    rw [f.toList_message]
    simp
  have hblanks : (' ' :: f.description.toList.reverse).dropWhile isBlank =
      f.description.toList.reverse := by
    obtain ⟨a, m, b, hdescription, -, hb⟩ := h
    rw [List.dropWhile_cons_of_pos (by decide), hdescription, List.reverse_append]
    exact List.dropWhile_cons_of_neg (by simp [hb])
  have hplace := afterPlace?_place f (' ' :: f.description.toList.reverse)
  obtain ⟨r, hr⟩ : ∃ r, f.place.reverse = ')' :: r := ⟨_, by rw [Fault.place, List.reverse_concat]⟩
  rw [hr] at hreverse hplace
  rw [withoutPlace_of_place hreverse hplace, hblanks, List.reverse_reverse]

/-- A syntax error that is described is reported in the words of the description. -/
theorem syntaxIssues_message {f : Fault} (h : IsTight f.description.toList) :
    syntaxIssues (some f.message) = [syntaxIssueStart ++ ": " ++ f.description] := by
  have hne : f.description.toList.isEmpty = false := by
    obtain ⟨a, m, b, hdescription, -, -⟩ := h
    rw [hdescription]
    rfl
  simp [syntaxIssues, withoutPlace_message h, h.trim_eq, hne]

/-! ## What is said of a text -/

/-- A text in which a block of tests begins somewhere. -/
def HoldsBlock (content : String) : Prop :=
  ∃ m ∈ blockMarks, m.toList <:+: content.toList

/-- A text in which the library is named somewhere. -/
def NamesLibrary (content : String) : Prop :=
  libraryName.toList <:+: content.toList

instance (content : String) : Decidable (HoldsBlock content) :=
  inferInstanceAs (Decidable (∃ m ∈ blockMarks, m.toList <:+: content.toList))

instance (content : String) : Decidable (NamesLibrary content) :=
  inferInstanceAs (Decidable (libraryName.toList <:+: content.toList))

/-- What is to be reported of a text in which a parser finds the fault. -/
def reports (content : String) (fault : Option Fault) : List String :=
  (if allBlank content then [emptyIssue] else []) ++
    (if HoldsBlock content then [] else [blockIssue]) ++
    (if NamesLibrary content then [] else [libraryIssue]) ++
    match fault with
    | some f => [syntaxIssueStart ++ ": " ++ f.description]
    | none => []

theorem not_isBlank_of_mem_blockMark : ∀ m ∈ blockMarks, ∀ c ∈ m.toList, isBlank c = false := by
  decide

theorem not_isBlank_of_mem_libraryName : ∀ c ∈ libraryName.toList, isBlank c = false := by
  decide

section Content

variable (content : String)

theorem any_blockMarks_iff :
    (blockMarks.any fun m => contains m.toList (trim content.toList)) = true ↔
      HoldsBlock content := by
  simp only [List.any_eq_true, contains_iff]
  exact exists_congr fun m => and_congr_right fun hm =>
    infix_trim_iff (not_isBlank_of_mem_blockMark m hm) content.toList

theorem contains_libraryName_iff :
    contains libraryName.toList (trim content.toList) = true ↔ NamesLibrary content := by
  rw [contains_iff]
  exact infix_trim_iff not_isBlank_of_mem_libraryName content.toList

/-- What is seen in the trimmed text is what is to be said of the text itself. -/
theorem contentIssues_eq : contentIssues content = reports content none := by
  have hempty : (trim content.toList).isEmpty = true ↔ allBlank content = true :=
    List.isEmpty_iff.trans trim_eq_nil_iff
  have hblock : (!blockMarks.any fun m => contains m.toList (trim content.toList)) = true ↔
      ¬ HoldsBlock content := by
    rw [← any_blockMarks_iff, Bool.not_eq_true', Bool.not_eq_true]
  have hlibrary : (!contains libraryName.toList (trim content.toList)) = true ↔
      ¬ NamesLibrary content := by
    rw [← contains_libraryName_iff, Bool.not_eq_true', Bool.not_eq_true]
  simp only [contentIssues, issueIf, reports, hempty, hblock, hlibrary, ite_not, List.append_nil]

/-- A block is not made of blanks, so a text that holds one is not empty. -/
theorem allBlank_eq_false_of_holdsBlock {content : String} (h : HoldsBlock content) :
    allBlank content = false := by
  have hmarks : ∀ m ∈ blockMarks, m.toList ≠ [] := by decide
  obtain ⟨m, hm, hinfix⟩ := h
  obtain ⟨c, hc⟩ := List.exists_mem_of_ne_nil _ (hmarks m hm)
  rw [allBlank, List.all_eq_false]
  exact ⟨c, hinfix.subset hc, by simp [not_isBlank_of_mem_blockMark m hm c hc]⟩

/-- Nothing is to be reported of a text with a block, the name of the library, and no fault. -/
theorem reports_eq_nil_iff (fault : Option Fault) :
    reports content fault = [] ↔
      HoldsBlock content ∧ NamesLibrary content ∧ fault = none := by
  constructor
  · intro h
    simp only [reports, List.append_eq_nil_iff] at h
    obtain ⟨⟨⟨-, hblock⟩, hlibrary⟩, hfault⟩ := h
    refine ⟨by_contra fun hno => ?_, by_contra fun hno => ?_, ?_⟩
    · simp [hno] at hblock
    · simp [hno] at hlibrary
    · cases fault with
      | none => rfl
      | some f => cases hfault
  · rintro ⟨hblock, hlibrary, rfl⟩
    simp [reports, hblock, hlibrary, allBlank_eq_false_of_holdsBlock hblock]

end Content

/-- Blanks around a text hide nothing and add nothing. -/
theorem contentIssues_surrounded {g g' : String} (hg : allBlank g = true)
    (hg' : allBlank g' = true) (content : String) :
    contentIssues (g ++ content ++ g') = contentIssues content := by
  have hinfix : ∀ part : String, (∀ c ∈ part.toList, isBlank c = false) →
      (part.toList <:+: (g ++ content ++ g').toList ↔ part.toList <:+: content.toList) := by
    intro part hpart
    rw [String.toList_append, String.toList_append]
    exact infix_blanks_iff hpart (List.all_eq_true.1 hg) (List.all_eq_true.1 hg') content.toList
  have hblank : allBlank (g ++ content ++ g') = allBlank content := by
    rw [allBlank] at hg hg'
    simp [allBlank, hg, hg']
  have hblock : HoldsBlock (g ++ content ++ g') ↔ HoldsBlock content :=
    exists_congr fun m => and_congr_right fun hm => hinfix m (not_isBlank_of_mem_blockMark m hm)
  have hlibrary : NamesLibrary (g ++ content ++ g') ↔ NamesLibrary content :=
    hinfix libraryName not_isBlank_of_mem_libraryName
  rw [contentIssues_eq, contentIssues_eq]
  simp only [reports, hblank, hblock, hlibrary]

/-! ## Checks -/

/-- A verdict tells what is to be reported of a test in which a parser finds the fault. -/
structure Tells (v : Verdict) (t : TestFile) (fault : Option Fault) : Prop where
  test : v.test = t
  issues : v.issues = reports t.content fault
  valid : v.valid = true ↔ HoldsBlock t.content ∧ NamesLibrary t.content ∧ fault = none

/-- The issues are what is to be reported, if the parser gives the message of a fault that is
described without blanks at the ends. -/
theorem tells_verdict {parser : Parser} {test : TestFile} {fault : Option Fault}
    (hparser : parser test.content = fault.map Fault.message)
    (htight : ∀ f, fault = some f → IsTight f.description.toList) :
    Tells (verdict parser test) test fault := by
  have hissues : issues parser test.content = reports test.content fault := by
    rw [issues, contentIssues_eq, hparser]
    cases fault with
    | none => exact List.append_nil _
    | some f =>
      rw [Option.map_some, syntaxIssues_message (htight f rfl)]
      simp [reports]
  refine ⟨rfl, hissues, ?_⟩
  rw [← reports_eq_nil_iff, ← hissues]
  exact List.isEmpty_iff

theorem run_checkWith (parser : Parser) (test : TestFile) (component : Option String)
    (correlation : Json) (journal : Events) :
    (Flow.run (checkWith parser test component correlation) journal).1 =
      .ok (verdict parser test) := by
  unfold checkWith
  dsimp only
  split <;> rfl

/-- Checks that come to a verdict on every test, and tell of it what holds of its text and the fault
that is found there. -/
def TellFaults (checks : TestFile → Option String → Json → Journaled Verdict)
    (fault? : String → Option Fault) : Prop :=
  ∀ test component correlation journal, ∃ v,
    (Flow.run (checks test component correlation) journal).1 = .ok v ∧
      Tells v test (fault? test.content)

theorem tellFaults_checkWith {parser : Parser} {fault? : String → Option Fault}
    (hparser : ∀ content, parser content = (fault? content).map Fault.message)
    (htight : ∀ content f, fault? content = some f → IsTight f.description.toList) :
    TellFaults (checkWith parser) fault? := by
  intro test component correlation journal
  exact ⟨verdict parser test, run_checkWith parser test component correlation journal,
    tells_verdict (hparser test.content) (htight test.content)⟩

/-- The fault that the parser of the library finds, of which it knows no more than that it is
there. -/
def ownFault? (content : String) : Option Fault :=
  if (Grammar.parse? .tsx content).isSome then none else some .unlocated

theorem tellFaults_check : TellFaults check ownFault? := by
  refine tellFaults_checkWith (fun content => ?_) fun content f h => ?_
  · unfold parser ownFault?
    split <;> rfl
  · unfold ownFault? at h
    split at h
    · cases h
    · obtain rfl := Option.some.inj h
      exact isTight_unknown

/-- The first fault of the tree that is made of a text. -/
def treeFault? (tree : String → Node) (content : String) : Option Fault :=
  (Source.ofText content).fault? (tree content)

/-- A parser that makes a tree of each text, and describes its first fault. -/
def treeParser (tree : String → Node) : Parser := fun content =>
  (treeFault? tree content).map Fault.message

/-- Every check comes to a verdict that tells what holds of the text of the test and nothing else,
with the library's own parser and with any that makes trees.  Blanks around a text change nothing of
what is seen without parsing.  A tree has a fault if it is marked as erroneous; of the message its
place is cut off, and the issue says what stood before it. -/
theorem check_reports_faults :
    TellFaults check ownFault? ∧
    (∀ tree, TellFaults (checkWith (treeParser tree)) (treeFault? tree)) ∧
    (∀ g content g', allBlank g = true → allBlank g' = true →
      contentIssues (g ++ content ++ g') = contentIssues content) ∧
    ∀ (s : Source) (root : Node), (s.fault? root = none ↔ root.hasError = false) ∧
      ∀ f, s.fault? root = some f →
        withoutPlace f.message.toList = f.description.toList ∧
        syntaxIssues (some f.message) = [syntaxIssueStart ++ ": " ++ f.description] := by
  refine ⟨tellFaults_check, fun tree => ?_,
    fun g content g' hg hg' => contentIssues_surrounded hg hg' content,
    fun s root => ⟨fault?_eq_none_iff, fun f hf => ?_⟩⟩
  · exact tellFaults_checkWith (fun _ => rfl) fun _ _ hf => isTight_of_fault? hf
  · have htight := isTight_of_fault? hf
    exact ⟨withoutPlace_message htight, syntaxIssues_message htight⟩

/-- A node that is an error and covers what looks like a place. -/
def lookalike : Node :=
  .mk "ERROR" true none false true
    { start := 0, stop := 5, startPoint := ⟨2, 4⟩, endPoint := ⟨2, 9⟩ } []

/-- A token that looks like a place stays in the description, and only the place behind it goes. -/
theorem check_reports_faults_lookalike :
    allBlank "\n\t" = true ∧ allBlank " " = true ∧
    (Source.ofText "(1:2)").fault? lookalike = some ⟨"Unexpected token '(1:2)'", 3, 4⟩ ∧
    contentIssues ("\n\t" ++ "it(" ++ " ") = contentIssues "it(" ∧
    syntaxIssues (some "Unexpected token '(1:2)' (3:4)") =
      ["Syntax error detected in generated test: Unexpected token '(1:2)'"] := by
  have hfault : (Source.ofText "(1:2)").fault? lookalike =
      some ⟨"Unexpected token '(1:2)'", 3, 4⟩ := by
    decide +kernel
  obtain ⟨-, -, hblanks, hfaults⟩ := check_reports_faults
  refine ⟨by decide, by decide, hfault, hblanks "\n\t" "it(" " " (by decide) (by decide), ?_⟩
  exact ((hfaults _ _).2 _ hfault).2

end Validation

end TestScribe
