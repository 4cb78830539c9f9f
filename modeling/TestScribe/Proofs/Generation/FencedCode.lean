import Mathlib.Data.List.Forall2
import TestScribe.Generation.CodeBlock
import TestScribe.Proofs.Text.Splitting

/-!
# The code in an answer

Code that stands between two fences behind the name of a language is found (`fenced?_eq_some`), and
an answer without such code is cut at the first import that begins a line (`fromImport?_law`).  Both
together say what is taken for the code in an answer (`codeBlock_recovers`).
-/

namespace TestScribe.Generation

open Text

/-! ## Letters in any case -/

/-- A character is a small letter in one of its cases. -/
def IsCaseOf (c letter : Char) : Prop :=
  c.toLower = letter ∨ (letter = 'i' ∧ (c.toNat = 0x130 ∨ c.toNat = 0x131)) ∨
    (letter = 's' ∧ c.toNat = 0x17F)

theorem sameLetter_iff {c letter : Char} : sameLetter c letter = true ↔ IsCaseOf c letter := by
  simp [sameLetter, IsCaseOf, or_assoc]

/-- A letter from `a` to `z`. -/
def IsSmall (letter : Char) : Prop :=
  97 ≤ letter.toNat ∧ letter.toNat ≤ 122

instance (letter : Char) : Decidable (IsSmall letter) :=
  inferInstanceAs (Decidable (_ ∧ _))

section Letters

variable {c letter letter' : Char}

theorem toNat_toLower (c : Char) :
    c.toLower.toNat = c.toNat ∨
      65 ≤ c.toNat ∧ c.toNat ≤ 90 ∧ c.toLower.toNat = c.toNat + 32 := by
  unfold Char.toLower
  split
  · next hcapital =>
    obtain ⟨hlow, hhigh⟩ := hcapital
    have hlow : 65 ≤ c.val.toNat := UInt32.le_iff_toNat_le.1 hlow
    have hhigh : c.val.toNat ≤ 90 := UInt32.le_iff_toNat_le.1 hhigh
    refine .inr ⟨hlow, hhigh, ?_⟩
    show (c.val + 32).toNat = c.val.toNat + 32
    rw [UInt32.toNat_add]
    refine Nat.mod_eq_of_lt ?_
    show c.val.toNat + 32 < 4294967296
    omega
  · exact .inl rfl

/-- The code points of the cases of a letter. -/
theorem toNat_of_isCaseOf (h : IsCaseOf c letter) :
    letter.toNat = c.toNat ∨ (65 ≤ c.toNat ∧ c.toNat ≤ 90 ∧ letter.toNat = c.toNat + 32) ∨
      (letter.toNat = 105 ∧ (c.toNat = 0x130 ∨ c.toNat = 0x131)) ∨
      (letter.toNat = 115 ∧ c.toNat = 0x17F) := by
  rcases h with rfl | ⟨rfl, hi⟩ | ⟨rfl, hs⟩
  · rcases toNat_toLower c with hsame | hcapital
    · exact .inl hsame
    · exact .inr (.inl hcapital)
  · exact .inr (.inr (.inl ⟨rfl, hi⟩))
  · exact .inr (.inr (.inr ⟨rfl, hs⟩))

/-- The cases of different letters are different. -/
theorem eq_of_isCaseOf (h : IsCaseOf c letter) (h' : IsCaseOf c letter') (hsmall : IsSmall letter)
    (hsmall' : IsSmall letter') : letter = letter' := by
  have hcode := toNat_of_isCaseOf h
  have hcode' := toNat_of_isCaseOf h'
  unfold IsSmall at hsmall hsmall'
  exact Char.toNat_inj.1 (by omega)

/-- A character that is blank or a fence is no letter. -/
def IsOutside (c : Char) : Prop :=
  isBlank c = true ∨ c ∈ fence

theorem not_isCaseOf_of_isOutside (h : IsOutside c) (hsmall : IsSmall letter) :
    ¬ IsCaseOf c letter := by
  intro hcase
  have hcode := toNat_of_isCaseOf hcase
  unfold IsSmall at hsmall
  rcases h with hblank | hfence
  · simp [isBlank] at hblank
    omega
  · have hfence : c = Char.ofNat 0x60 := List.eq_of_mem_replicate hfence
    subst hfence
    change letter.toNat = 96 ∨ (65 ≤ 96 ∧ 96 ≤ 90 ∧ _) ∨ (_ ∧ (96 = 0x130 ∨ 96 = 0x131)) ∨
      (_ ∧ 96 = 0x17F) at hcode
    omega

end Letters

/-! ## Names of languages -/

/-- The name of a language in any case, or no name. -/
def IsLanguage (t : List Char) : Prop :=
  ∃ word, (word = [] ∨
      word ∈ ["typescript", "tsx", "javascript", "jsx", "ts", "js"].map String.toList) ∧
    List.Forall₂ IsCaseOf t word

section Languages

variable {t word rest : List Char}

theorem afterWord?_append (h : List.Forall₂ IsCaseOf t word) (rest : List Char) :
    afterWord? word (t ++ rest) = some rest := by
  induction h with
  | nil => rfl
  | cons hcase _ ih =>
    rw [List.cons_append, afterWord?, if_pos (sameLetter_iff.2 hcase), ih]

/-- Behind a name that ends before something that is no letter, only beginnings of the name are
found. -/
theorem isPrefix_of_afterWord? (h : List.Forall₂ IsCaseOf t word)
    (hrest : ∀ c ∈ rest.head?, IsOutside c) {l r : List Char} (hl : ∀ a ∈ l, IsSmall a)
    (hword : ∀ a ∈ word, IsSmall a) (hafter : afterWord? l (t ++ rest) = some r) : l <+: word := by
  induction h generalizing l with
  | nil =>
    cases l with
    | nil => exact List.nil_prefix
    | cons a l =>
      cases rest with
      | nil => cases hafter
      | cons c rest =>
        rw [List.nil_append, afterWord?] at hafter
        split at hafter
        · next hsame =>
          exact absurd (sameLetter_iff.1 hsame)
            (not_isCaseOf_of_isOutside (hrest c rfl) (hl a List.mem_cons_self))
        · cases hafter
  | @cons c b t word hcase _ ih =>
    cases l with
    | nil => exact List.nil_prefix
    | cons a l =>
      rw [List.cons_append, afterWord?] at hafter
      split at hafter
      · next hsame =>
        obtain rfl := eq_of_isCaseOf (sameLetter_iff.1 hsame) hcase (hl a List.mem_cons_self)
          (hword b List.mem_cons_self)
        rw [List.cons_prefix_cons]
        exact ⟨rfl, ih (fun a ha => hl a (List.mem_cons_of_mem _ ha))
          (fun a ha => hword a (List.mem_cons_of_mem _ ha)) hafter⟩
      · cases hafter

theorem isSmall_of_mem_languages : ∀ word ∈ languages, ∀ a ∈ word, IsSmall a := by
  have hall : languages.all (fun word => word.all fun a => decide (IsSmall a)) = true := by decide
  intro word hword a ha
  exact of_decide_eq_true (List.all_eq_true.1 (List.all_eq_true.1 hall word hword) a ha)

/-- Longer names stand before their beginnings. -/
theorem find?_languages :
    ∀ word ∈ languages, languages.find? (fun l => l.isPrefixOf word) = some word := by
  decide

/-- A name is passed over as a whole. -/
theorem afterLanguage_append (h : IsLanguage t) (hrest : ∀ c ∈ rest.head?, IsOutside c) :
    afterLanguage (t ++ rest) = rest := by
  obtain ⟨word, hword, hcases⟩ := h
  unfold afterLanguage
  rcases hword with rfl | hword
  · obtain rfl := List.forall₂_nil_right_iff.1 hcases
    have hnone : languages.findSome? (fun l => afterWord? l ([] ++ rest)) = none := by
      refine List.findSome?_eq_none_iff.2 fun l hl => ?_
      cases hafter : afterWord? l ([] ++ rest) with
      | none => rfl
      | some r =>
        have hprefix := isPrefix_of_afterWord? .nil hrest (isSmall_of_mem_languages l hl)
          (fun a ha => absurd ha List.not_mem_nil) hafter
        rw [List.prefix_nil.1 hprefix] at hl
        exact absurd hl (by decide)
    rw [hnone]
    rfl
  · have hsome : languages.findSome? (fun l => afterWord? l (t ++ rest)) = some rest := by
      obtain ⟨-, earlier, later, heq, hearlier⟩ :=
        List.find?_eq_some_iff_append.1 (find?_languages word hword)
      refine List.findSome?_eq_some_iff.2
        ⟨earlier, word, later, heq, afterWord?_append hcases rest, fun l hl => ?_⟩
      cases hafter : afterWord? l (t ++ rest) with
      | none => rfl
      | some r =>
        have hmem : l ∈ languages := heq ▸ List.mem_append_left _ hl
        have hprefix := isPrefix_of_afterWord? hcases hrest (isSmall_of_mem_languages l hmem)
          (isSmall_of_mem_languages word hword) hafter
        have hnot := hearlier l hl
        rw [List.isPrefixOf_iff_prefix.2 hprefix] at hnot
        cases hnot
    rw [hsome]
    rfl

end Languages

/-! ## Blocks -/

/-- The first place of a fence is behind `before`. -/
abbrev OpensBehind (before : List Char) : Prop :=
  ComesFirst fence before

theorem opensBehind_of_isBlank {w : List Char} (h : w.all isBlank = true) : OpensBehind w := by
  refine comesFirst_of_not_mem fun hmem => ?_
  exact absurd (List.all_eq_true.1 h _ hmem) (by decide)

theorem isOutside_head {w rest : List Char} (h : w.all isBlank = true) :
    ∀ c ∈ (w ++ fence ++ rest).head?, IsOutside c := by
  intro c hc
  cases w with
  | nil =>
    obtain rfl := Option.some.inj hc
    exact .inr (by decide)
  | cons b w =>
    obtain rfl := Option.some.inj hc
    exact .inl (List.all_eq_true.1 h _ List.mem_cons_self)

section Lines

variable {h w rest : List Char}

theorem afterLine_append (hblank : ∀ c ∈ h, isBlank c = true ∧ c ≠ '\n') (rest : List Char) :
    afterLine (h ++ '\n' :: rest) = rest := by
  unfold afterLine
  rw [List.dropWhile_append_of_pos fun c hc => by simpa using hblank c hc]
  rfl

/-- Behind the blanks of a line, a line feed is left out. -/
theorem afterLine_eq (s : List Char) :
    s.dropWhile (fun c => isBlank c && c != '\n') = afterLine s ∨
      s.dropWhile (fun c => isBlank c && c != '\n') = '\n' :: afterLine s := by
  unfold afterLine
  split
  · next r heq => exact .inr heq
  · exact .inl rfl

theorem afterLine_suffix (s : List Char) : afterLine s <:+ s := by
  rcases afterLine_eq s with hsame | hfeed
  · rw [← hsame]
    exact List.dropWhile_suffix _
  · refine (List.suffix_cons '\n' _).trans ?_
    rw [← hfeed]
    exact List.dropWhile_suffix _

theorem dropWhile_append_fence (w rest : List Char) :
    (w ++ fence ++ rest).dropWhile (fun c => isBlank c && c != '\n') =
      w.dropWhile (fun c => isBlank c && c != '\n') ++ fence ++ rest := by
  have hfence : (fence ++ rest).dropWhile (fun c => isBlank c && c != '\n') = fence ++ rest :=
    List.dropWhile_cons_of_neg (by decide)
  rw [List.append_assoc, List.dropWhile_append, hfence]
  split
  · next hempty =>
    rw [List.isEmpty_iff.1 hempty]
    rfl
  · exact (List.append_assoc _ _ _).symm

/-- Of blanks before a fence blanks are left. -/
theorem exists_afterLine (hblank : w.all isBlank = true) (rest : List Char) :
    ∃ w', w'.all isBlank = true ∧ afterLine (w ++ fence ++ rest) = w' ++ fence ++ rest := by
  have hleft : (w.dropWhile fun c => isBlank c && c != '\n').all isBlank = true :=
    List.all_eq_true.2 fun c hc =>
      List.all_eq_true.1 hblank c ((List.dropWhile_suffix _).subset hc)
  have heq := afterLine_eq (w ++ fence ++ rest)
  rw [dropWhile_append_fence] at heq
  rcases heq with hsame | hfeed
  · exact ⟨_, hleft, hsame.symm⟩
  · cases hw : w.dropWhile fun c => isBlank c && c != '\n' with
    | nil =>
      rw [hw] at hfeed
      cases hfeed
    | cons c r =>
      rw [hw] at hfeed hleft
      exact ⟨r, (Bool.and_eq_true_iff.1 hleft).2, (List.cons.inj hfeed).2.symm⟩

end Lines

theorem afterWord?_suffix {word s r : List Char} (h : afterWord? word s = some r) : r <:+ s := by
  induction word generalizing s with
  | nil =>
    obtain rfl := Option.some.inj h
    exact List.suffix_refl _
  | cons a word ih =>
    cases s with
    | nil => cases h
    | cons c s =>
      rw [afterWord?] at h
      split at h
      · exact (ih h).trans (List.suffix_cons c s)
      · cases h

theorem afterLanguage_suffix (s : List Char) : afterLanguage s <:+ s := by
  unfold afterLanguage
  cases hfind : languages.findSome? fun l => afterWord? l s with
  | none => exact List.suffix_refl _
  | some r =>
    obtain ⟨_, l, _, _, hafter, _⟩ := List.findSome?_eq_some_iff.1 hfind
    exact afterWord?_suffix hafter

section Fenced

variable {p t h b w r : List Char}

/-- What stands between the first two fences behind the name of a language is found. -/
theorem fenced?_eq_some (hp : OpensBehind p) (ht : IsLanguage t)
    (hh : ∀ c ∈ h, isBlank c = true ∧ c ≠ '\n') (hb : OpensBehind b) (r : List Char) :
    fenced? (p ++ fence ++ t ++ h ++ ['\n'] ++ b ++ fence ++ r) = some b := by
  have hhead : ∀ c ∈ (h ++ '\n' :: (b ++ fence ++ r)).head?, IsOutside c := by
    intro c hc
    cases h with
    | nil =>
      obtain rfl := Option.some.inj hc
      exact .inl (by decide)
    | cons a h =>
      obtain rfl := Option.some.inj hc
      exact .inl (hh _ List.mem_cons_self).1
  have hinner : p ++ fence ++ t ++ h ++ ['\n'] ++ b ++ fence ++ r =
      p ++ fence ++ (t ++ (h ++ '\n' :: (b ++ fence ++ r))) := by
    simp only [List.append_assoc, List.cons_append, List.nil_append]
  unfold fenced?
  rw [hinner, splitFirst?_append hp]
  show (splitFirst? fence (afterLine (afterLanguage _)) >>= fun x => some x.1) = some b
  rw [afterLanguage_append ht hhead, afterLine_append hh, splitFirst?_append hb]
  rfl

/-- Where nothing but the name of a language and blanks stands between the first two fences, blanks
are found. -/
theorem exists_fenced?_eq_some (hp : OpensBehind p) (ht : IsLanguage t)
    (hw : w.all isBlank = true) (r : List Char) :
    ∃ w', w'.all isBlank = true ∧
      fenced? (p ++ fence ++ t ++ w ++ fence ++ r) = some w' := by
  obtain ⟨w', hw', hafter⟩ := exists_afterLine hw r
  have hinner : p ++ fence ++ t ++ w ++ fence ++ r = p ++ fence ++ (t ++ (w ++ fence ++ r)) := by
    simp only [List.append_assoc]
  refine ⟨w', hw', ?_⟩
  unfold fenced?
  rw [hinner, splitFirst?_append hp]
  show (splitFirst? fence (afterLine (afterLanguage _)) >>= fun x => some x.1) = some w'
  rw [afterLanguage_append ht (isOutside_head hw), hafter,
    splitFirst?_append (opensBehind_of_isBlank hw')]
  rfl

/-- Nothing is found unless there are two fences. -/
theorem exists_fences {s body : List Char} (h : fenced? s = some body) :
    ∃ p m r, s = p ++ fence ++ m ++ fence ++ r := by
  obtain ⟨⟨p, inner⟩, hopen, h⟩ := Option.bind_eq_some_iff.1 h
  obtain ⟨⟨b, r⟩, hclose, -⟩ := Option.bind_eq_some_iff.1 h
  obtain ⟨u, hu⟩ := (afterLine_suffix _).trans (afterLanguage_suffix inner)
  rw [(splitFirst?_eq_some_iff.1 hclose).1] at hu
  refine ⟨p, u ++ b, r, ?_⟩
  rw [(splitFirst?_eq_some_iff.1 hopen).1, ← hu]
  simp only [List.append_assoc]

end Fenced

/-! ## Imports -/

/-- An import: its word, and a blank behind it. -/
def BeginsImport (s : List Char) : Prop :=
  ∃ c rest, s = "import".toList ++ c :: rest ∧ isBlank c = true

/-- A line begins behind a text, blanks aside: it ends in blanks behind a line feed, or holds
nothing but blanks. -/
def BeginsLine (seen : List Char) : Prop :=
  ∃ q w, seen = q ++ w ∧ w.all isBlank = true ∧ (q = [] ∨ ∃ q', q = q' ++ ['\n'])

/-- The text `s` has an import at the beginning of a line, which starts with `rest`. -/
structure ImportsFrom (s seen rest : List Char) : Prop where
  text : s = seen ++ rest
  line : BeginsLine seen
  word : BeginsImport rest

theorem beginsLine_nil : BeginsLine [] := ⟨[], [], rfl, rfl, .inl rfl⟩

theorem beginsLine_snoc_iff {seen : List Char} {c : Char} :
    BeginsLine (seen ++ [c]) ↔ c = '\n' ∨ BeginsLine seen ∧ isBlank c = true := by
  constructor
  · rintro ⟨q, w, heq, hw, hq⟩
    rcases List.eq_nil_or_concat w with rfl | ⟨w, d, rfl⟩
    · rw [List.append_nil] at heq
      subst heq
      rcases hq with hnil | ⟨q', hq'⟩
      · exact absurd hnil (by simp)
      · exact .inl (List.append_inj_right' hq' rfl |> List.cons.inj).1
    · rw [List.concat_eq_append, ← List.append_assoc] at heq
      obtain ⟨rfl, hlast⟩ := List.append_inj' heq rfl
      obtain rfl := (List.cons.inj hlast).1
      rw [List.concat_eq_append, List.all_append, Bool.and_eq_true_iff] at hw
      exact .inr ⟨⟨q, w, rfl, hw.1, hq⟩, (Bool.and_eq_true_iff.1 hw.2).1⟩
  · rintro (rfl | ⟨⟨q, w, rfl, hw, hq⟩, hc⟩)
    · exact ⟨seen ++ ['\n'], [], (List.append_nil _).symm, rfl, .inr ⟨seen, rfl⟩⟩
    · refine ⟨q, w ++ [c], List.append_assoc _ _ _, ?_, hq⟩
      rw [List.all_append, hw]
      simpa using hc

theorem beginsImport_iff {s : List Char} :
    (importWord.isPrefixOf s && (s.drop importWord.length).head?.any isBlank) = true ↔
      BeginsImport s := by
  rw [Bool.and_eq_true_iff, List.isPrefixOf_iff_prefix]
  constructor
  · rintro ⟨⟨r, rfl⟩, hblank⟩
    rw [List.drop_left] at hblank
    cases r with
    | nil => cases hblank
    | cons c r => exact ⟨c, r, rfl, hblank⟩
  · rintro ⟨c, r, rfl, hblank⟩
    exact ⟨List.prefix_append _ _, hblank⟩

/-- Where no import starts, each one starts behind the next character. -/
theorem ImportsFrom.exists_cons {seen more s rest : List Char} {c : Char}
    (h : ImportsFrom (seen ++ c :: s) (seen ++ more) rest)
    (hnone : BeginsLine seen → ¬ BeginsImport (c :: s)) : ∃ more', more = c :: more' := by
  have htext := h.text
  rw [List.append_assoc, List.append_cancel_left_eq] at htext
  cases more with
  | nil =>
    have hline := h.line
    rw [List.append_nil] at hline
    exact absurd (htext ▸ h.word) (hnone hline)
  | cons d more =>
    obtain rfl := (List.cons.inj htext).1
    exact ⟨more, rfl⟩

/-- What is found from a place on is the first import at the beginning of a line.  By induction on
the text, from any place at which it is known whether a line begins there. -/
theorem fromImport?_law {seen s : List Char} {fresh : Bool}
    (hfresh : fresh = true ↔ BeginsLine seen) :
    (∀ rest, fromImport? fresh s = some rest → ∃ more, ImportsFrom (seen ++ s) (seen ++ more) rest ∧
      ∀ more' rest', ImportsFrom (seen ++ s) (seen ++ more') rest' → more.length ≤ more'.length) ∧
    (fromImport? fresh s = none → ∀ more rest, ¬ ImportsFrom (seen ++ s) (seen ++ more) rest) := by
  induction s generalizing seen fresh with
  | nil =>
    constructor
    · intro rest hrest
      cases hrest
    · intro _ more rest himports
      obtain ⟨c, r, hrest, -⟩ := himports.word
      have hlength := congrArg List.length himports.text
      simp [hrest] at hlength
  | cons c s ih =>
    have hnext : (c == '\n' || (fresh && isBlank c)) = true ↔ BeginsLine (seen ++ [c]) := by
      rw [beginsLine_snoc_iff, Bool.or_eq_true_iff, beq_iff_eq, Bool.and_eq_true_iff, hfresh]
    obtain ⟨hfound, hnone⟩ := ih hnext
    have happend : seen ++ [c] ++ s = seen ++ c :: s := List.append_assoc _ _ _
    rw [happend] at hfound hnone
    have hstep : fromImport? fresh (c :: s) =
        if (fresh && (importWord.isPrefixOf (c :: s) &&
            ((c :: s).drop importWord.length).head?.any isBlank)) = true then some (c :: s)
        else fromImport? (c == '\n' || (fresh && isBlank c)) s := by
      rw [fromImport?, Bool.and_assoc]
    rw [hstep]
    split
    · next hhere =>
      obtain ⟨hline, hword⟩ := Bool.and_eq_true_iff.1 hhere
      refine ⟨fun rest hrest => ?_, fun h => nomatch h⟩
      obtain rfl := Option.some.inj hrest
      refine ⟨[], ⟨?_, ?_, beginsImport_iff.1 hword⟩, fun _ _ _ => Nat.zero_le _⟩
      · rw [List.append_nil]
      · rw [List.append_nil]
        exact hfresh.1 hline
    · next hhere =>
      have hlater : ∀ more rest, ImportsFrom (seen ++ c :: s) (seen ++ more) rest →
          ∃ more', more = c :: more' := fun _ _ himports =>
        himports.exists_cons fun hline hword =>
          hhere (Bool.and_eq_true_iff.2 ⟨hfresh.2 hline, beginsImport_iff.2 hword⟩)
      refine ⟨fun rest hrest => ?_, fun hrest more rest himports => ?_⟩
      · obtain ⟨more, himports, hfirst⟩ := hfound rest hrest
        rw [List.append_assoc] at himports
        refine ⟨c :: more, himports, fun more' rest' himports' => ?_⟩
        obtain ⟨more'', rfl⟩ := hlater more' rest' himports'
        refine Nat.succ_le_succ (hfirst more'' rest' ?_)
        rwa [List.append_assoc]
      · obtain ⟨more', rfl⟩ := hlater more rest himports
        refine hnone hrest more' rest ?_
        rwa [List.append_assoc]

/-! ## Answers -/

/-- There are two fences in a text. -/
def HasFences (s : List Char) : Prop :=
  ∃ p m r, s = p ++ fence ++ m ++ fence ++ r

/-- Nothing but the name of a language and blanks stands between the first two fences. -/
def HasEmptyBlock (s : List Char) : Prop :=
  ∃ p t w r, s = p ++ fence ++ t ++ w ++ fence ++ r ∧ OpensBehind p ∧ IsLanguage t ∧
    w.all isBlank = true

/-- The code of a text without fences: what begins with the first import at the beginning of a line,
or else the whole text. -/
def IsUnfencedCode (s code : List Char) : Prop :=
  (∃ seen rest, ImportsFrom s seen rest ∧
      (∀ seen' rest', ImportsFrom s seen' rest' → seen.length ≤ seen'.length) ∧
      code = trim rest) ∨
    (∀ seen rest, ¬ ImportsFrom s seen rest) ∧ code = trim s

section Answers

variable {s b : List Char}

theorem codeChars_of_fenced (hfenced : fenced? s = some b) (hb : b.all isBlank = false) :
    codeChars s = trim b := by
  unfold codeChars
  rw [hfenced]
  cases htrim : trim b with
  | nil =>
    rw [trim_eq_nil_iff, hb] at htrim
    cases htrim
  | cons c r => simp [htrim]

theorem codeChars_of_unfenced (h : ∀ b, fenced? s = some b → b.all isBlank = true) :
    codeChars s = trim ((fromImport? true s).getD s) := by
  unfold codeChars
  cases hfenced : fenced? s with
  | none => rfl
  | some b =>
    rw [Option.map_some, trim_eq_nil_iff.2 (h b hfenced)]

theorem isUnfencedCode_codeChars (h : ∀ b, fenced? s = some b → b.all isBlank = true) :
    IsUnfencedCode s (codeChars s) := by
  have hfresh : true = true ↔ BeginsLine [] := iff_of_true rfl beginsLine_nil
  obtain ⟨hfound, hnone⟩ := fromImport?_law (s := s) hfresh
  rw [codeChars_of_unfenced h]
  cases hfrom : fromImport? true s with
  | none => exact .inr ⟨fun seen rest => hnone hfrom seen rest, rfl⟩
  | some rest =>
    obtain ⟨seen, himports, hfirst⟩ := hfound rest hfrom
    exact .inl ⟨seen, rest, himports, hfirst, rfl⟩

end Answers

/-- The code that stands between the first two fences, behind the name of a language and a line
feed, is recovered.  Where there are no two fences, or nothing but blanks between them, the code is
what begins with the first import at the beginning of a line, or else the whole answer. -/
theorem codeBlock_recovers :
    (∀ p t h b r : List Char, OpensBehind p → IsLanguage t →
      (∀ c ∈ h, isBlank c = true ∧ c ≠ '\n') → OpensBehind b → b.all isBlank = false →
      (codeBlock (String.ofList (p ++ fence ++ t ++ h ++ ['\n'] ++ b ++ fence ++ r))).toList =
        trim b ∧ ¬ fence <:+: trim b) ∧
    ∀ answer : String, ¬ HasFences answer.toList ∨ HasEmptyBlock answer.toList →
      IsUnfencedCode answer.toList (codeBlock answer).toList := by
  refine ⟨fun p t h b r hp ht hh hb hblank => ⟨?_, fun hpart => ?_⟩, fun answer hanswer => ?_⟩
  · rw [codeBlock, String.toList_ofList, String.toList_ofList]
    exact codeChars_of_fenced (fenced?_eq_some hp ht hh hb r) hblank
  · exact hb.not_infix (by decide) (hpart.trans (isInfix_trim b))
  · rw [codeBlock, String.toList_ofList]
    refine isUnfencedCode_codeChars fun b hb => ?_
    rcases hanswer with hnone | ⟨p, t, w, r, heq, hp, ht, hw⟩
    · exact absurd (exists_fences hb) hnone
    · obtain ⟨w', hw', hfenced⟩ := exists_fenced?_eq_some hp ht hw r
      rw [heq, hfenced] at hb
      obtain rfl := Option.some.inj hb
      exact hw'

/-- Single quotes of the kind that fences are made of do not end a block. -/
def quotedBody : List Char :=
  "import x from '".toList ++ [Char.ofNat 0x60] ++ "y';\n".toList

/-- A block in capital letters, and an empty block before an import. -/
theorem codeBlock_recovers_capitals :
    OpensBehind "Here:\n".toList ∧ IsLanguage "TSX".toList ∧ OpensBehind quotedBody ∧
    (codeBlock (String.ofList ("Here:\n".toList ++ fence ++ "TSX".toList ++ " ".toList ++ ['\n'] ++
      quotedBody ++ fence ++ "Enjoy!".toList))).toList = trim quotedBody ∧
    HasEmptyBlock (fence ++ ['\n'] ++ fence ++ "\n import a;".toList) ∧
    IsUnfencedCode (fence ++ ['\n'] ++ fence ++ "\n import a;".toList) "import a;".toList := by
  obtain ⟨hfenced, hunfenced⟩ := codeBlock_recovers
  have hopen : OpensBehind "Here:\n".toList := by decide
  have hlanguage : IsLanguage "TSX".toList :=
    ⟨"tsx".toList, .inr (by decide), .cons (.inl rfl) (.cons (.inl rfl) (.cons (.inl rfl) .nil))⟩
  have hbody : OpensBehind quotedBody := by decide
  have hempty : HasEmptyBlock (fence ++ ['\n'] ++ fence ++ "\n import a;".toList) :=
    ⟨[], [], ['\n'], "\n import a;".toList, rfl, by decide, ⟨[], .inl rfl, .nil⟩, rfl⟩
  have hblank : ∀ c ∈ " ".toList, isBlank c = true ∧ c ≠ '\n' := by
    intro c hc
    obtain rfl : c = ' ' := by simpa using hc
    decide
  refine ⟨hopen, hlanguage, hbody, ?_, hempty, ?_⟩
  · exact (hfenced _ _ _ _ _ hopen hlanguage hblank hbody (by decide)).1
  · have hcode := hunfenced (String.ofList (fence ++ ['\n'] ++ fence ++ "\n import a;".toList))
    rw [String.toList_ofList] at hcode
    exact hcode (.inr hempty)

end TestScribe.Generation
