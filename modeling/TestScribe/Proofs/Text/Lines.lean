import TestScribe.Proofs.Text.Splitting
import TestScribe.Text.Lines

/-!
# Lines and blanks

A text without a line boundary is a line of its own, whatever stands behind its end
(`lines_append`), and the blanks around a text that begins and ends with other characters are
trimmed off it (`trim_surrounded`).  Where nothing is made of the blanks around a line, what is made
of the lines of a text does not change with the blanks around the text (`madeOf_blanks`).
-/

namespace TestScribe.Text

/-! ## Lines -/

/-- A text that holds no line boundary. -/
def IsOneLine (s : List Char) : Prop :=
  ∀ c ∈ s, isLineBoundary c = false

instance (s : List Char) : Decidable (IsOneLine s) :=
  List.decidableBAll (fun c => isLineBoundary c = false) s

/-- A text that is more than one line has a first boundary. -/
theorem exists_first_boundary {s : List Char} (h : ¬ IsOneLine s) :
    ∃ before b after, s = before ++ b :: after ∧ IsOneLine before ∧ isLineBoundary b = true := by
  cases hfind : s.find? isLineBoundary with
  | none => exact absurd (fun c hc => by simpa using List.find?_eq_none.1 hfind c hc) h
  | some b =>
    obtain ⟨hboundary, before, after, hs, hbefore⟩ := List.find?_eq_some_iff_append.1 hfind
    exact ⟨before, b, after, hs, fun c hc => by simpa using hbefore c hc, hboundary⟩

theorem lines_cons_of_nil {c : Char} (h : isLineBoundary c = false) {s : List Char}
    (hs : lines s = []) : lines (c :: s) = [[c]] := by
  have hreturn : ∀ r, c = '\r' → s = '\n' :: r → False := by
    rintro r rfl -
    cases h
  rw [lines.eq_3 _ _ hreturn, h, hs]
  rfl

theorem lines_cons {c : Char} (h : isLineBoundary c = false) {s l : List Char}
    {ls : List (List Char)} (hs : lines s = l :: ls) : lines (c :: s) = (c :: l) :: ls := by
  have hreturn : ∀ r, c = '\r' → s = '\n' :: r → False := by
    rintro r rfl -
    cases h
  rw [lines.eq_3 _ _ hreturn, h, hs]
  rfl

/-- Behind a boundary the next line begins; a carriage return may take a line feed with it. -/
theorem lines_of_boundary {b : Char} (h : isLineBoundary b = true) (s : List Char) :
    lines (b :: s) = [] :: lines s ∨ ∃ r, s = '\n' :: r ∧ lines (b :: s) = [] :: lines r := by
  by_cases hpair : ∃ r, b = '\r' ∧ s = '\n' :: r
  · obtain ⟨r, rfl, rfl⟩ := hpair
    exact .inr ⟨r, rfl, rfl⟩
  · rw [lines.eq_3 _ _ fun r hb hs => hpair ⟨r, hb, hs⟩, if_pos h]
    exact .inl rfl

/-- By induction on the line. -/
theorem lines_append {s : List Char} (h : IsOneLine s) {b : Char} (hb : isLineBoundary b = true)
    (r : List Char) : lines (s ++ b :: r) = s :: (lines (b :: r)).tail := by
  induction s with
  | nil =>
    rcases lines_of_boundary hb r with hlines | ⟨r', rfl, hlines⟩
    · rw [List.nil_append, hlines, List.tail_cons]
    · rw [List.nil_append, hlines, List.tail_cons]
  | cons c s ih =>
    obtain ⟨hc, hs⟩ := List.forall_mem_cons.1 h
    exact lines_cons hc (ih hs)

/-! ## Blanks -/

theorem trimStart_cons {c : Char} (h : isBlank c = true) (s : List Char) :
    trimStart (c :: s) = trimStart s :=
  List.dropWhile_cons_of_pos h

theorem trim_cons {c : Char} (h : isBlank c = true) (s : List Char) : trim (c :: s) = trim s := by
  rw [trim, trimStart_cons h, trim]

/-- The blanks around a text are trimmed off it. -/
theorem trim_surrounded {g g' : List Char} (hg : ∀ c ∈ g, isBlank c = true)
    (hg' : ∀ c ∈ g', isBlank c = true) {a b : Char} (ha : isBlank a = false)
    (hb : isBlank b = false) (s : List Char) :
    trim (g ++ (a :: s ++ [b] ++ g')) = a :: s ++ [b] := by
  have hstart : trimStart (g ++ (a :: s ++ [b] ++ g')) = a :: s ++ [b] ++ g' := by
    rw [trimStart, List.dropWhile_append_of_pos hg]
    exact List.dropWhile_cons_of_neg (by simp [ha])
  have hreverse : (a :: s ++ [b] ++ g').reverse = g'.reverse ++ b :: (a :: s).reverse := by
    simp
  rw [trim, hstart, trimEnd, hreverse,
    List.dropWhile_append_of_pos fun c hc => hg' c (List.mem_reverse.1 hc),
    List.dropWhile_cons_of_neg (by simp [hb]), List.reverse_cons, List.reverse_reverse]

/-- A text that does not begin with a blank keeps its beginning. -/
theorem exists_trim_cons {a : Char} (ha : isBlank a = false) (s : List Char) :
    ∃ s' g, trim (a :: s) = a :: s' ∧ a :: s = a :: s' ++ g := by
  have hstart : trimStart (a :: s) = a :: s := List.dropWhile_cons_of_neg (by simp [ha])
  have hsplit := (trimEnd_append_blanks (a :: s)).symm
  cases hend : trimEnd (a :: s) with
  | nil =>
    -- then all of the text is blank
    rw [hend, List.nil_append] at hsplit
    have hmem : a ∈ (a :: s).reverse.takeWhile isBlank := by
      rw [← List.mem_reverse, ← hsplit]
      exact List.mem_cons_self
    rw [List.all_eq_true.1 List.all_takeWhile a hmem] at ha
    cases ha
  | cons c s' =>
    rw [hend, List.cons_append] at hsplit
    obtain ⟨rfl, hs⟩ := List.cons.inj hsplit
    exact ⟨s', _, by rw [trim, hstart, hend], congrArg (a :: ·) hs⟩

/-! ## What is made of lines -/

/-- What is made of the lines of a text. -/
def madeOf {α : Type} (f : List Char → Option α) (s : List Char) : List α :=
  (lines s).filterMap f

/-- Nothing is made of an empty line, nor of the blanks around a line. -/
structure IgnoresBlanks {α : Type} (f : List Char → Option α) : Prop where
  nil : f [] = none
  trim : ∀ {l l'}, trim l = trim l' → f l = f l'

section MadeOf

variable {α : Type} {f : List Char → Option α} (hf : IgnoresBlanks f)
include hf

theorem madeOf_feed (r : List Char) : madeOf f ('\n' :: r) = madeOf f r := by
  have hlines : lines ('\n' :: r) = [] :: lines r := rfl
  rw [madeOf, hlines, List.filterMap_cons_none hf.nil, madeOf]

theorem madeOf_blank {c : Char} (h : isBlank c = true) (s : List Char) :
    madeOf f (c :: s) = madeOf f s := by
  cases hboundary : isLineBoundary c with
  | true =>
    rcases lines_of_boundary hboundary s with hlines | ⟨r, rfl, hlines⟩
    · rw [madeOf, hlines, List.filterMap_cons_none hf.nil, madeOf]
    · rw [madeOf_feed hf, madeOf, hlines, List.filterMap_cons_none hf.nil, madeOf]
  | false =>
    unfold madeOf
    cases hs : lines s with
    | nil =>
      rw [lines_cons_of_nil hboundary hs, List.filterMap_cons, hf.trim (trim_cons h []), hf.nil]
    | cons l ls =>
      rw [lines_cons hboundary hs, List.filterMap_cons, List.filterMap_cons,
        hf.trim (trim_cons h l)]

theorem madeOf_blanks {g : List Char} (h : ∀ c ∈ g, isBlank c = true) (s : List Char) :
    madeOf f (g ++ s) = madeOf f s := by
  induction g with
  | nil => rfl
  | cons c g ih =>
    obtain ⟨hc, hg⟩ := List.forall_mem_cons.1 h
    exact (madeOf_blank hf hc _).trans (ih hg)

/-- A line in front of a text adds what is made of it. -/
theorem madeOf_append {s : List Char} (h : IsOneLine s) {b : Char} (hb : isLineBoundary b = true)
    (r : List Char) : madeOf f (s ++ b :: r) = (f s).toList ++ madeOf f r := by
  have hrest : (lines (b :: r)).tail.filterMap f = madeOf f r := by
    rcases lines_of_boundary hb r with hlines | ⟨r', rfl, hlines⟩
    · rw [hlines]
      rfl
    · rw [madeOf_feed hf, hlines]
      rfl
  rw [← hrest, madeOf, lines_append h hb, List.filterMap_cons]
  cases f s <;> rfl

end MadeOf

end TestScribe.Text
