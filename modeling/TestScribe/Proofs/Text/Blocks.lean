import Mathlib.Data.List.Infix

/-!
# Blocks of a text

A text is cut into lines at its line feeds alone, and into blocks at the lines that are empty.
Texts without empty lines that are joined with a blank line between each two are its blocks again
(`blocks_intercalate`).
-/

namespace TestScribe.Text

/-! ## Texts on one line -/

/-- A text without a line feed. -/
def Unbroken (s : String) : Prop :=
  '\n' ∉ s.toList

instance (s : String) : Decidable (Unbroken s) :=
  inferInstanceAs (Decidable ('\n' ∉ s.toList))

/-- For a text that is given by its characters these need not be found out first. -/
theorem unbroken_ofList {cs : List Char} (h : '\n' ∉ cs) : Unbroken (String.ofList cs) := by
  rwa [Unbroken, String.toList_ofList]

@[simp] theorem unbroken_append {s t : String} : Unbroken (s ++ t) ↔ Unbroken s ∧ Unbroken t := by
  simp [Unbroken]

/-- By induction on the texts that are joined. -/
theorem unbroken_intercalate {sep : String} (hsep : Unbroken sep) {ts : List String}
    (h : ∀ t ∈ ts, Unbroken t) : Unbroken (sep.intercalate ts) := by
  induction ts with
  | nil => exact (by decide : Unbroken "")
  | cons t ts ih =>
    obtain ⟨ht, hts⟩ := List.forall_mem_cons.1 h
    cases ts with
    | nil => rwa [String.intercalate_singleton]
    | cons u ts =>
      rw [String.intercalate_cons_cons, unbroken_append, unbroken_append]
      exact ⟨⟨ht, hsep⟩, ih hts⟩

/-! ## Lines -/

/-- The pieces of a text between its line feeds. -/
def feedLines (s : String) : List String :=
  (s.toList.splitOn '\n').map String.ofList

theorem feedLines_of_unbroken {s : String} (h : Unbroken s) : feedLines s = [s] := by
  rw [feedLines, List.splitOn_eq_singleton h, List.map_singleton, String.ofList_toList]

theorem feedLines_append_feed (s t : String) :
    feedLines (s ++ "\n" ++ t) = feedLines s ++ feedLines t := by
  have hfeed : (s ++ "\n" ++ t).toList = s.toList ++ '\n' :: t.toList := by simp
  rw [feedLines, hfeed, List.splitOn_append_cons_self, List.map_append, feedLines, feedLines]

/-- Texts that are joined by a line have that line between their own. -/
theorem feedLines_intercalate_line {line : String} (hline : Unbroken line) {ss : List String}
    (hss : ss ≠ []) :
    feedLines (("\n" ++ line ++ "\n").intercalate ss) = [line].intercalate (ss.map feedLines) := by
  induction ss with
  | nil => exact absurd rfl hss
  | cons s ss ih =>
    cases ss with
    | nil => rw [String.intercalate_singleton, List.map_singleton, List.intercalate_singleton]
    | cons t ss =>
      have hjoin : s ++ ("\n" ++ line ++ "\n") ++
          ("\n" ++ line ++ "\n").intercalate (t :: ss) =
            s ++ "\n" ++ (line ++ "\n" ++ ("\n" ++ line ++ "\n").intercalate (t :: ss)) := by
        simp only [String.append_assoc]
      rw [String.intercalate_cons_cons, hjoin, feedLines_append_feed, feedLines_append_feed,
        feedLines_of_unbroken hline, ih (List.cons_ne_nil _ _), ← List.append_assoc]
      exact List.intercalate_cons_cons.symm

/-- Lines that are joined by line feeds are its lines again. -/
theorem feedLines_intercalate {ls : List String} (hls : ls ≠ []) (h : ∀ l ∈ ls, Unbroken l) :
    feedLines ("\n".intercalate ls) = ls := by
  have hjoin : ("\n".intercalate ls).toList = ['\n'].intercalate (ls.map String.toList) :=
    String.toList_intercalate
  have hfeeds : ∀ cs ∈ ls.map String.toList, '\n' ∉ cs := List.forall_mem_map.2 h
  rw [feedLines, hjoin, List.splitOn_intercalate '\n' hfeeds (mt List.map_eq_nil_iff.1 hls)]
  simp [Function.comp_def]

/-! ## Empty lines -/

/-- An empty line that is not the first one stands at the end, or between two line feeds. -/
theorem feed_of_nil_mem_tail {s : List Char} (h : [] ∈ (s.splitOn '\n').tail) :
    ['\n'] <:+ s ∨ ['\n', '\n'] <:+: s := by
  induction s with
  | nil => exact absurd h List.not_mem_nil
  | cons c s ih =>
    have hlater : [] ∈ (s.splitOn '\n').tail → ['\n'] <:+ c :: s ∨ ['\n', '\n'] <:+: c :: s :=
      fun htail => (ih htail).imp (·.trans (List.suffix_cons c s))
        (·.trans (List.suffix_cons c s).isInfix)
    obtain ⟨l, ls, hs⟩ := List.exists_cons_of_ne_nil (List.splitOn_ne_nil '\n' s)
    rw [List.splitOn_cons_eq_if_modifyHead, hs] at h
    rw [hs] at hlater
    split at h
    · next hc =>
      obtain rfl := beq_iff_eq.1 hc
      rcases List.mem_cons.1 h with rfl | hls
      · -- the line behind the line feed is empty
        cases s with
        | nil => exact .inl (List.suffix_refl _)
        | cons d s =>
          rw [List.splitOn_cons_eq_if_modifyHead] at hs
          split at hs
          · next hd =>
            obtain rfl := beq_iff_eq.1 hd
            exact .inr (List.prefix_append ['\n', '\n'] s).isInfix
          · obtain ⟨l, ls, hs'⟩ := List.exists_cons_of_ne_nil (List.splitOn_ne_nil '\n' s)
            rw [hs'] at hs
            cases hs
      · exact hlater hls
    · exact hlater h

/-- A text that does not begin or end with a line feed and holds no two in a row has no empty
line, unless it is empty. -/
theorem empty_not_mem_feedLines {s : String} (hne : s ≠ "") (hhead : ¬ ['\n'] <+: s.toList)
    (hlast : ¬ ['\n'] <:+ s.toList) (hapart : ¬ ['\n', '\n'] <:+: s.toList) :
    "" ∉ feedLines s := by
  intro hmem
  obtain ⟨l, hl, hempty⟩ := List.mem_map.1 hmem
  obtain rfl : l = [] := by simpa using hempty
  cases hs : s.toList with
  | nil => exact hne (String.toList_eq_nil_iff.1 hs)
  | cons c r =>
    rw [hs, List.splitOn_cons_eq_if_modifyHead] at hl
    split at hl
    · next hc =>
      rw [hs, beq_iff_eq.1 hc] at hhead
      exact hhead (List.prefix_append ['\n'] r)
    · next hc =>
      have htail : [] ∈ (s.toList.splitOn '\n').tail := by
        obtain ⟨l, ls, hr⟩ := List.exists_cons_of_ne_nil (List.splitOn_ne_nil '\n' r)
        rw [hr] at hl
        rw [hs, List.splitOn_cons_eq_if_modifyHead, if_neg hc, hr]
        simpa using hl
      exact (feed_of_nil_mem_tail htail).elim hlast hapart

/-! ## Blocks -/

/-- The blocks of a text, each with its lines: the empty lines part them. -/
def blocks (s : String) : List (List String) :=
  (feedLines s).splitOn ""

/-- Texts without empty lines are the blocks of what they are joined to with blank lines. -/
theorem blocks_intercalate {ss : List String} (hss : ss ≠ []) (h : ∀ s ∈ ss, "" ∉ feedLines s) :
    blocks ("\n\n".intercalate ss) = ss.map feedLines := by
  have hblank : "\n\n" = "\n" ++ "" ++ "\n" := by decide
  have hlines : ∀ ls ∈ ss.map feedLines, "" ∉ ls := List.forall_mem_map.2 h
  rw [blocks, hblank, feedLines_intercalate_line (by decide) hss]
  exact List.splitOn_intercalate "" hlines (mt List.map_eq_nil_iff.1 hss)

end TestScribe.Text
