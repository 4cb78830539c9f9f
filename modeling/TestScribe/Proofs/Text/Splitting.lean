import Mathlib.Data.List.DropRight
import TestScribe.Text.Blank

/-!
# Splitting and trimming

A text is split at the first place where a part stands (`splitFirst?_append`), and what is left of
it without the blanks at its ends is a part of it that is empty only if the text is blank
(`isInfix_trim`, `trim_eq_nil_iff`).  A part without blanks is found in a text if and only if it is
found in what is left of it (`infix_trim_iff`).
-/

namespace TestScribe.Text

/-! ## The first place of a part -/

/-- The part stands behind `before` and at no place before that. -/
def ComesFirst (part before : List Char) : Prop :=
  ∀ q r, before ++ part = q ++ part ++ r → r = []

section ComesFirst

variable {part before : List Char}

theorem ComesFirst.of_cons {c : Char} (h : ComesFirst part (c :: before)) :
    ComesFirst part before := fun q r heq => h (c :: q) r (congrArg (c :: ·) heq)

/-- The part cannot begin before the character that still stands in front of it. -/
theorem ComesFirst.not_isPrefixOf {c : Char} (h : ComesFirst part (c :: before))
    (after : List Char) : part.isPrefixOf (c :: (before ++ part ++ after)) = false := by
  rw [Bool.eq_false_iff, ne_eq, List.isPrefixOf_iff_prefix]
  intro hprefix
  have hwithin : part <+: c :: before ++ part :=
    List.prefix_of_prefix_length_le hprefix ⟨after, rfl⟩ (by simp; omega)
  obtain ⟨r, hr⟩ := hwithin
  obtain rfl := h [] r hr.symm
  have hlength := congrArg List.length hr
  simp only [List.append_nil, List.length_append, List.length_cons] at hlength
  omega

/-- What stands before the first place of a part does not hold it. -/
theorem ComesFirst.not_infix (h : ComesFirst part before) (hpart : part ≠ []) :
    ¬ part <:+: before := by
  rintro ⟨q, r, rfl⟩
  have hnil := h q (r ++ part) (by simp)
  exact hpart (List.append_eq_nil_iff.1 hnil).2

theorem isPrefixOf_append (part after : List Char) : part.isPrefixOf (part ++ after) = true :=
  List.isPrefixOf_iff_prefix.2 (List.prefix_append _ _)

/-- A text is split at the first place of a part. -/
theorem splitFirst?_append (h : ComesFirst part before) (after : List Char) :
    splitFirst? part (before ++ part ++ after) = some (before, after) := by
  induction before with
  | nil =>
    cases heq : part ++ after with
    | nil =>
      obtain ⟨rfl, rfl⟩ := List.append_eq_nil_iff.1 heq
      rfl
    | cons c r =>
      have hprefix := isPrefixOf_append part after
      rw [heq] at hprefix
      rw [List.nil_append, heq, splitFirst?, if_pos hprefix, ← heq, List.drop_left]
  | cons c before ih =>
    rw [List.cons_append, List.cons_append, splitFirst?,
      if_neg (Bool.eq_false_iff.1 (h.not_isPrefixOf after)), ih h.of_cons]
    rfl

/-- By induction on the text: the part stands at its beginning, or behind its first character. -/
theorem eq_append_of_splitFirst? {s after : List Char}
    (h : splitFirst? part s = some (before, after)) :
    s = before ++ part ++ after ∧ ComesFirst part before := by
  have hempty : ComesFirst part [] := fun q r heq => by
    have hlength := congrArg List.length heq
    simp only [List.nil_append, List.length_append] at hlength
    exact List.eq_nil_of_length_eq_zero (by omega)
  induction s generalizing before with
  | nil =>
    rw [splitFirst?] at h
    split at h
    · next hpart =>
      obtain ⟨rfl, rfl⟩ := Prod.mk.inj (Option.some.inj h)
      rw [List.isEmpty_iff.1 hpart] at hempty ⊢
      exact ⟨rfl, hempty⟩
    · cases h
  | cons c s ih =>
    rw [splitFirst?] at h
    split at h
    · next hprefix =>
      obtain ⟨rfl, rfl⟩ := Prod.mk.inj (Option.some.inj h)
      obtain ⟨r, hr⟩ := List.isPrefixOf_iff_prefix.1 hprefix
      rw [← hr, List.drop_left, List.nil_append]
      exact ⟨rfl, hempty⟩
    · next hprefix =>
      obtain ⟨⟨x, y⟩, hrest, heq⟩ := Option.map_eq_some_iff.1 h
      obtain ⟨rfl, rfl⟩ := Prod.mk.inj heq
      obtain ⟨rfl, hfirst⟩ := ih hrest
      refine ⟨rfl, fun q r hq => ?_⟩
      cases q with
      | nil =>
        refine absurd (List.isPrefixOf_iff_prefix.2 ⟨r ++ y, ?_⟩) hprefix
        rw [← List.append_assoc]
        exact congrArg (· ++ y) hq.symm
      | cons _ q => exact hfirst q r (List.cons.inj hq).2

theorem splitFirst?_eq_some_iff {s after : List Char} :
    splitFirst? part s = some (before, after) ↔
      s = before ++ part ++ after ∧ ComesFirst part before := by
  constructor
  · exact eq_append_of_splitFirst?
  · rintro ⟨rfl, hfirst⟩
    exact splitFirst?_append hfirst after

instance (part before : List Char) : Decidable (ComesFirst part before) :=
  decidable_of_iff (splitFirst? part (before ++ part) = some (before, [])) <| by
    rw [splitFirst?_eq_some_iff, List.append_nil]
    exact and_iff_right rfl

/-- A single character that does not stand before the part comes first at its beginning. -/
theorem comesFirst_of_not_mem {c : Char} {part : List Char} (h : c ∉ before) :
    ComesFirst (c :: part) before := by
  intro q r heq
  induction before generalizing q with
  | nil =>
    have hlength := congrArg List.length heq
    simp only [List.nil_append, List.length_append] at hlength
    exact List.eq_nil_of_length_eq_zero (by omega)
  | cons b before ih =>
    obtain ⟨hne, hrest⟩ := not_or.1 (mt List.mem_cons.2 h)
    cases q with
    | nil => exact absurd (List.cons.inj heq).1.symm hne
    | cons _ q => exact ih hrest q (List.cons.inj heq).2

end ComesFirst

/-! ## Trims -/

theorem isInfix_trim (s : List Char) : trim s <:+: s :=
  (List.rdropWhile_prefix _ _).isInfix.trans (List.dropWhile_suffix _).isInfix

theorem trim_eq_nil_iff {s : List Char} : trim s = [] ↔ s.all isBlank = true := by
  have hend : ∀ t : List Char, trimEnd t = [] ↔ ∀ c ∈ t, isBlank c = true :=
    fun t => List.rdropWhile_eq_nil_iff
  have hstart : trimStart s = [] ↔ ∀ c ∈ s, isBlank c = true := List.dropWhile_eq_nil_iff
  rw [trim, hend, List.all_eq_true, ← hstart]
  constructor
  · intro h
    -- what is left begins with a character that is not blank
    have hhead := List.head?_dropWhile_not isBlank s
    cases htrim : trimStart s with
    | nil => rfl
    | cons c r =>
      rw [trimStart] at htrim
      rw [htrim] at hhead
      rw [trimStart, htrim] at h
      change isBlank c = false at hhead
      rw [h c List.mem_cons_self] at hhead
      cases hhead
  · intro h
    rw [h]
    exact fun c hc => absurd hc List.not_mem_nil

/-- The blanks at the end are what is trimmed off there. -/
theorem trimEnd_append_blanks (s : List Char) :
    trimEnd s ++ (s.reverse.takeWhile isBlank).reverse = s := by
  rw [trimEnd, ← List.reverse_append, List.takeWhile_append_dropWhile, List.reverse_reverse]

/-- A text is what is left of it between the blanks at its ends. -/
theorem exists_blanks_around (s : List Char) :
    ∃ g g', (∀ c ∈ g, isBlank c = true) ∧ (∀ c ∈ g', isBlank c = true) ∧ s = g ++ trim s ++ g' := by
  refine ⟨s.takeWhile isBlank, ((trimStart s).reverse.takeWhile isBlank).reverse, ?_, ?_, ?_⟩
  · exact List.all_eq_true.1 List.all_takeWhile
  · exact fun c hc => List.all_eq_true.1 List.all_takeWhile c (List.mem_reverse.1 hc)
  · rw [List.append_assoc, trim, trimEnd_append_blanks]
    exact List.takeWhile_append_dropWhile.symm

/-! ## Texts that hold a part -/

theorem contains_iff {part s : List Char} : contains part s = true ↔ part <:+: s := by
  induction s with
  | nil => rw [contains, List.isEmpty_iff, List.infix_nil]
  | cons c s ih =>
    rw [contains, Bool.or_eq_true, List.isPrefixOf_iff_prefix, ih, List.infix_cons_iff]

section Surrounded

variable {part g g' : List Char}

/-- Characters that are not in a part cannot help to make it up. -/
theorem infix_append_iff (hg : ∀ c ∈ g, c ∉ part) (s : List Char) :
    part <:+: g ++ s ↔ part <:+: s := by
  induction g with
  | nil => rfl
  | cons c g ih =>
    obtain ⟨hc, hg⟩ := List.forall_mem_cons.1 hg
    rw [List.cons_append, List.infix_cons_iff, ih hg]
    refine or_iff_right_of_imp fun hprefix => ?_
    rcases List.prefix_cons_iff.1 hprefix with rfl | ⟨t, rfl, -⟩
    · exact List.nil_infix
    · exact absurd List.mem_cons_self hc

theorem infix_surrounded_iff (hg : ∀ c ∈ g, c ∉ part) (hg' : ∀ c ∈ g', c ∉ part)
    (s : List Char) : part <:+: g ++ s ++ g' ↔ part <:+: s := by
  have hbehind : part <:+: s ++ g' ↔ part <:+: s := by
    rw [← List.reverse_infix, List.reverse_append, infix_append_iff, List.reverse_infix]
    exact fun c hc => mt List.mem_reverse.1 (hg' c (List.mem_reverse.1 hc))
  rw [List.append_assoc, infix_append_iff hg, hbehind]

/-- A part without blanks is found in a text wherever blanks are put around it. -/
theorem infix_blanks_iff (hpart : ∀ c ∈ part, isBlank c = false) (hg : ∀ c ∈ g, isBlank c = true)
    (hg' : ∀ c ∈ g', isBlank c = true) (s : List Char) : part <:+: g ++ s ++ g' ↔ part <:+: s := by
  have hapart : ∀ c, isBlank c = true → c ∉ part := by
    intro c hc hmem
    rw [hpart c hmem] at hc
    cases hc
  exact infix_surrounded_iff (fun c hc => hapart c (hg c hc)) (fun c hc => hapart c (hg' c hc)) s

theorem infix_trim_iff (hpart : ∀ c ∈ part, isBlank c = false) (s : List Char) :
    part <:+: trim s ↔ part <:+: s := by
  obtain ⟨g, g', hg, hg', hs⟩ := exists_blanks_around s
  have haround := infix_blanks_iff hpart hg hg' (trim s)
  rw [← hs] at haround
  exact haround.symm

end Surrounded

end TestScribe.Text
