import TestScribe.Proofs.Json.Grammar
import TestScribe.Proofs.Json.Members

/-!
# Values that are written

A value whose numbers are integers is written as the grammar says, in every proper layout
(`spells_chars`), so it is what is read in its text (`read?_render`).  On one line it takes no other
characters than those of printable ASCII (`isPrintable_of_mem_chars`).
-/

namespace TestScribe.Json

/-- A value in which all numbers are integers, and objects hold each name once. -/
inductive IsIntegral : Json → Prop
  | null : IsIntegral .null
  | bool (b : Bool) : IsIntegral (.bool b)
  | int (n : Int) : IsIntegral (.int n)
  | str (t : String) : IsIntegral (.str t)
  | arr {vs : List Json} : (∀ v ∈ vs, IsIntegral v) → IsIntegral (.arr vs)
  | obj {ms : Members} :
    (ms.map (·.1)).Nodup → (∀ m ∈ ms, IsIntegral m.2) → IsIntegral (.obj ms)

/-! ## Layouts -/

/-- A layout with the separators of the grammar. -/
structure Layout.IsProper (l : Layout) : Prop where
  itemEnd : ∃ g, IsGap g ∧ l.itemEnd = ',' :: g
  nameEnd : ∃ g, IsGap g ∧ l.nameEnd = ':' :: g

/-- A layout on one line, with separators of printable characters. -/
structure Layout.IsOneLine (l : Layout) : Prop where
  indent : l.indent = none
  itemEnd : ∀ c ∈ l.itemEnd, IsPrintable c
  nameEnd : ∀ c ∈ l.nameEnd, IsPrintable c

theorem isProper_spaced : Layout.spaced.IsProper :=
  ⟨⟨[' '], by decide, rfl⟩, ⟨[' '], by decide, rfl⟩⟩

theorem isOneLine_spaced : Layout.spaced.IsOneLine :=
  ⟨rfl, by decide, by decide⟩

theorem IsGap.append {g g' : List Char} (h : IsGap g) (h' : IsGap g') : IsGap (g ++ g') := by
  intro c hc
  rcases List.mem_append.1 hc with hc | hc
  · exact h c hc
  · exact h' c hc

theorem isGap_break (l : Layout) (level : Nat) : IsGap (l.break level) := by
  unfold Layout.break
  cases l.indent with
  | none => exact isGap_nil
  | some n =>
    intro c hc
    rcases List.mem_cons.1 hc with rfl | hc
    · decide
    · rw [List.eq_of_mem_replicate hc]
      decide

/-! ## The grammar of what is written -/

section Spells

variable {l : Layout} (hl : l.IsProper)

include hl

/-- By induction on the further elements, each behind a comma. -/
theorem spells_items {level : Nat} {v : Json} {vs : List Json}
    (h : ∀ w ∈ v :: vs, Spells (.value w) (chars l level w)) {g g' : List Char} (hg : IsGap g)
    (hg' : IsGap g') :
    Spells (.elements (v :: vs)) (g ++ (chars l level v ++ itemChars l level vs) ++ g') := by
  obtain ⟨gap, hgap, hend⟩ := hl.itemEnd
  induction vs generalizing v g with
  | nil =>
    have helement := Spells.element hg (h v List.mem_cons_self) hg'
    rw [itemChars, List.append_nil, List.append_assoc]
    exact .lastElement helement
  | cons w vs ih =>
    have helement := Spells.element hg (h v List.mem_cons_self) isGap_nil
    have hrest :=
      ih (fun x hx => h x (List.mem_cons_of_mem _ hx)) (hgap.append (isGap_break l level))
    have hspells := Spells.moreElements helement hrest
    simpa [itemChars, hend] using hspells

/-- By induction on the further members, each behind a comma. -/
theorem spells_members {level : Nat} {k : String} {v : Json} {ms : Members}
    (h : ∀ m ∈ (k, v) :: ms, Spells (.value m.2) (chars l level m.2)) {g g' : List Char}
    (hg : IsGap g) (hg' : IsGap g') :
    Spells (.members ((k, v) :: ms))
      (g ++ (stringChars k ++ l.nameEnd ++ chars l level v ++ memberChars l level ms) ++ g') := by
  obtain ⟨gap, hgap, hend⟩ := hl.itemEnd
  obtain ⟨nameGap, hnameGap, hnameEnd⟩ := hl.nameEnd
  induction ms generalizing k v g with
  | nil =>
    have helement := Spells.element hnameGap (h _ List.mem_cons_self) hg'
    have hmember := Spells.member hg (spellsText_stringChars k) isGap_nil helement
    simpa [memberChars, hnameEnd] using Spells.lastMember hmember
  | cons m ms ih =>
    have helement := Spells.element hnameGap (h _ List.mem_cons_self) isGap_nil
    have hmember := Spells.member hg (spellsText_stringChars k) isGap_nil helement
    have hrest :=
      ih (fun x hx => h x (List.mem_cons_of_mem _ hx)) (hgap.append (isGap_break l level))
    have hspells := Spells.moreMembers hmember hrest
    simpa [memberChars, hend, hnameEnd] using hspells

/-- By induction on the value. -/
theorem spells_chars {v : Json} (h : IsIntegral v) (level : Nat) :
    Spells (.value v) (chars l level v) := by
  induction h generalizing level with
  | null => exact .null
  | bool b => cases b with
    | true => exact .true
    | false => exact .false
  | int n => exact .number (spellsNumber_int n)
  | str t => exact .text (spellsText_stringChars t)
  | @arr vs _ ih =>
    cases vs with
    | nil => exact .noElements isGap_nil
    | cons v vs =>
      have helements :=
        spells_items hl (fun w hw => ih w hw (level + 1)) (isGap_break l (level + 1))
        (isGap_break l level)
      simpa [chars] using Spells.array helements
  | @obj ms hnames _ ih =>
    cases ms with
    | nil => exact .noMembers isGap_nil
    | cons m ms =>
      have hmembers := spells_members hl (fun w hw => ih w hw (level + 1))
        (isGap_break l (level + 1)) (isGap_break l level)
      have hobject := Spells.object hmembers
      rw [Members.ofList_of_nodup hnames] at hobject
      simpa [chars] using hobject

/-- A value is what is read in its text. -/
theorem read?_render {v : Json} (h : IsIntegral v) : read? (render l v) = some v :=
  read?_of_spells (element_of_value (spells_chars hl h 0))

end Spells

/-! ## The characters that are written -/

theorem isPrintable_of_mem_toString (n : Int) : ∀ c ∈ (toString n).toList, IsPrintable c := by
  obtain ⟨negative, m, -, htext⟩ := exists_toDigits n
  intro c hc
  rw [htext] at hc
  rcases List.mem_append.1 hc with hsign | hdigit
  · cases negative with
    | true =>
      rw [List.mem_singleton.1 hsign]
      decide
    | false => exact absurd hsign List.not_mem_nil
  · have := (isDigit_iff c).1 ((areDigits_toDigits m).digits c hdigit)
    exact ⟨by omega, by omega⟩

section OneLine

variable {l : Layout} (hl : l.IsOneLine)

include hl

theorem break_eq_nil (level : Nat) : l.break level = [] := by
  unfold Layout.break
  rw [hl.indent]

theorem isPrintable_of_mem_itemChars {level : Nat} {vs : List Json}
    (h : ∀ v ∈ vs, ∀ c ∈ chars l level v, IsPrintable c) :
    ∀ c ∈ itemChars l level vs, IsPrintable c := by
  induction vs with
  | nil => exact fun c hc => absurd hc List.not_mem_nil
  | cons v vs ih =>
    obtain ⟨hv, hvs⟩ := List.forall_mem_cons.1 h
    simp only [itemChars, break_eq_nil hl, List.append_nil, List.forall_mem_append]
    exact ⟨⟨hl.itemEnd, hv⟩, ih hvs⟩

theorem isPrintable_of_mem_memberChars {level : Nat} {ms : Members}
    (h : ∀ m ∈ ms, ∀ c ∈ chars l level m.2, IsPrintable c) :
    ∀ c ∈ memberChars l level ms, IsPrintable c := by
  induction ms with
  | nil => exact fun c hc => absurd hc List.not_mem_nil
  | cons m ms ih =>
    obtain ⟨hm, hms⟩ := List.forall_mem_cons.1 h
    simp only [memberChars, break_eq_nil hl, List.append_nil, List.forall_mem_append]
    exact ⟨⟨⟨⟨hl.itemEnd, isPrintable_of_mem_stringChars m.1⟩, hl.nameEnd⟩, hm⟩, ih hms⟩

/-- By induction on the value. -/
theorem isPrintable_of_mem_chars {v : Json} (h : IsIntegral v) (level : Nat) :
    ∀ c ∈ chars l level v, IsPrintable c := by
  induction h generalizing level with
  | null => exact (by decide : ∀ c ∈ "null".toList, IsPrintable c)
  | bool b => cases b with
    | true => exact (by decide : ∀ c ∈ "true".toList, IsPrintable c)
    | false => exact (by decide : ∀ c ∈ "false".toList, IsPrintable c)
  | int n => exact isPrintable_of_mem_toString n
  | str t => exact isPrintable_of_mem_stringChars t
  | @arr vs _ ih =>
    cases vs with
    | nil => exact (by decide : ∀ c ∈ ['[', ']'], IsPrintable c)
    | cons v vs =>
      have hfirst := ih v List.mem_cons_self (level + 1)
      have hitems := isPrintable_of_mem_itemChars hl fun w hw =>
        ih w (List.mem_cons_of_mem v hw) (level + 1)
      simp only [chars, break_eq_nil hl, List.append_nil, List.forall_mem_append,
        List.forall_mem_cons]
      exact ⟨⟨⟨by decide, by simp⟩, hfirst, hitems⟩, by decide, by simp⟩
  | @obj ms hnames _ ih =>
    cases ms with
    | nil => exact (by decide : ∀ c ∈ ['\x7b', '\x7d'], IsPrintable c)
    | cons m ms =>
      have hfirst := ih m List.mem_cons_self (level + 1)
      have hmembers := isPrintable_of_mem_memberChars hl fun w hw =>
        ih w (List.mem_cons_of_mem m hw) (level + 1)
      simp only [chars, break_eq_nil hl, List.append_nil, List.forall_mem_append,
        List.forall_mem_cons]
      exact ⟨⟨⟨by decide, by simp⟩, ⟨⟨isPrintable_of_mem_stringChars m.1, hl.nameEnd⟩, hfirst⟩,
        hmembers⟩, by decide, by simp⟩

end OneLine

end TestScribe.Json
