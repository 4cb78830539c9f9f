import Mathlib.Data.List.Basic
import Mathlib.Data.List.Induction
import Mathlib.Data.Nat.Digits.Defs
import TestScribe.Json.Reader

/-!
# Numbers in JSON

The grammar of numbers (`SpellsNumber`): a sign, the digits of an integer, and what may follow them.
A number is read where it stands, if what comes behind it cannot be a part of it
(`readNumber_append`), and nothing else is read as one (`spells_of_readNumber`).  Integers are
written as the grammar says (`spellsNumber_int`).
-/

namespace TestScribe.Json

/-! ## Steps of a reader -/

/-- What two steps came to is what the second made of the first. -/
theorem bind_eq_ok {ε α β : Type} {x : Except ε α} {f : α → Except ε β} {b : β}
    (h : x >>= f = .ok b) : ∃ a, x = .ok a ∧ f a = .ok b := by
  cases x with
  | ok a => exact ⟨a, rfl, h⟩
  | error e => cases h

/-! ## Digits -/

/-- What holds of all characters of a text is decided along the text, not over all characters. -/
instance (priority := high) decidableForallMem (s : List Char) (p : Char → Prop)
    [DecidablePred p] : Decidable (∀ c ∈ s, p c) :=
  List.decidableBAll p s

/-- The number that digits stand for in the decimal system. -/
abbrev ofDigits (ds : List Char) : Nat :=
  Nat.ofDigitChars 10 ds 0

theorem digitsValue_eq_ofDigits (ds : List Char) : digitsValue ds = ofDigits ds :=
  List.foldl_ext _ _ _ fun n c _ => by rw [Nat.mul_comm]; rfl

theorem digitsValue_zeros (k : Nat) (ds : List Char) :
    digitsValue (List.replicate k '0' ++ ds) = digitsValue ds := by
  induction k with
  | zero => rfl
  | succ k ih => exact ih

theorem isDigit_iff (c : Char) : isDigit c = true ↔ 48 ≤ c.toNat ∧ c.toNat ≤ 57 := by
  simp only [isDigit, Bool.and_eq_true, decide_eq_true_eq]
  rfl

theorem digitsValue_append_singleton (ds : List Char) (c : Char) :
    digitsValue (ds ++ [c]) = digitsValue ds * 10 + (c.toNat - 48) := by
  simp [digitsValue]

/-- By induction on the digits, the last one first. -/
theorem digitsValue_lt (ds : List Char) (h : ∀ c ∈ ds, isDigit c = true) :
    digitsValue ds < 10 ^ ds.length := by
  induction ds using List.reverseRecOn with
  | nil => exact Nat.one_pos
  | append_singleton ds c ih =>
    have hinit := ih fun e he => h e (List.mem_append_left _ he)
    have hc := (isDigit_iff c).1 (h c (List.mem_append_right _ (List.mem_singleton_self c)))
    rw [digitsValue_append_singleton, List.length_append, List.length_singleton, Nat.pow_succ]
    omega

/-- Digits, at least one. -/
structure AreDigits (ds : List Char) : Prop where
  ne_nil : ds ≠ []
  digits : ∀ c ∈ ds, c.isDigit = true

theorem AreDigits.exists_cons {ds : List Char} (h : AreDigits ds) :
    ∃ c r, ds = c :: r ∧ isDigit c = true := by
  obtain ⟨c, r, rfl⟩ := List.exists_cons_of_ne_nil h.ne_nil
  exact ⟨c, r, rfl, h.digits c List.mem_cons_self⟩

/-- Digits of an integer: no zero stands in front of others. -/
structure IsWhole (ds : List Char) : Prop extends AreDigits ds where
  lead : ∀ r, ds = '0' :: r → r = []

theorem areDigits_toDigits (n : Nat) : AreDigits (Nat.toDigits 10 n) := by
  constructor
  · exact Nat.toDigits_ne_nil
  · exact fun c hc => Nat.isDigit_of_mem_toDigits (by decide) (by decide) hc

theorem ofDigits_toDigits (n : Nat) : ofDigits (Nat.toDigits 10 n) = n :=
  Nat.ofDigitChars_ten_toDigits

/-- If a zero stood in front, the digits behind it would do. -/
theorem isWhole_toDigits (n : Nat) : IsWhole (Nat.toDigits 10 n) := by
  refine ⟨areDigits_toDigits n, fun r hr => ?_⟩
  by_contra hne
  have hdigits : ∀ c ∈ r, isDigit c = true := fun c hc =>
    (areDigits_toDigits n).digits c (hr ▸ List.mem_cons_of_mem _ hc)
  have hvalue : digitsValue r = n := by
    rw [← digitsValue_zeros 1, digitsValue_eq_ofDigits]
    exact (congrArg ofDigits hr.symm).trans (ofDigits_toDigits n)
  have hlt := hvalue ▸ digitsValue_lt r hdigits
  have hle := (Nat.length_toDigits_le_iff (by decide) (List.length_pos_iff.2 hne)).2 hlt
  rw [hr, List.length_cons] at hle
  omega

/-! ## The grammar -/

/-- The digits behind the point of a number, and how they stand there. -/
inductive SpellsFraction : List Char → List Char → Prop
  | none : SpellsFraction [] []
  | some {ds : List Char} : AreDigits ds → SpellsFraction ds ('.' :: ds)

/-- The mark of an exponent. -/
abbrev IsMark (c : Char) : Prop :=
  c = 'e' ∨ c = 'E'

/-- The exponent of a number, and how it stands behind it. -/
inductive SpellsExponent : Option Int → List Char → Prop
  | none : SpellsExponent none []
  | bare {mark : Char} {ds : List Char} :
    IsMark mark → AreDigits ds → SpellsExponent (some (ofDigits ds)) (mark :: ds)
  | plus {mark : Char} {ds : List Char} :
    IsMark mark → AreDigits ds → SpellsExponent (some (ofDigits ds)) (mark :: '+' :: ds)
  | minus {mark : Char} {ds : List Char} :
    IsMark mark → AreDigits ds → SpellsExponent (some (-ofDigits ds)) (mark :: '-' :: ds)

/-- A number: an integer if there is neither a fraction nor an exponent. -/
def numberOf (negative : Bool) (whole fraction : List Char) (exponent : Option Int) : Json :=
  if fraction = [] ∧ exponent = none then
    .int (if negative then -(ofDigits whole : Int) else ofDigits whole)
  else
    .float (Decimal.toFloat negative (ofDigits (whole ++ fraction))
      (exponent.getD 0 - fraction.length))

/-- The sign of a number. -/
def signOf (negative : Bool) : List Char :=
  if negative then ['-'] else []

/-- How a number stands in a text. -/
inductive SpellsNumber : Json → List Char → Prop
  | intro {negative : Bool} {whole fraction f e : List Char} {exponent : Option Int} :
    IsWhole whole → SpellsFraction fraction f → SpellsExponent exponent e →
    SpellsNumber (numberOf negative whole fraction exponent)
      (signOf negative ++ (whole ++ (f ++ e)))

theorem SpellsNumber.ne_obj {v : Json} {s : List Char} (h : SpellsNumber v s) (ms : Members) :
    v ≠ .obj ms := by
  cases h
  unfold numberOf
  split <;> exact Json.noConfusion

/-- An integer is written with its sign and the digits of its absolute value. -/
theorem exists_toDigits (n : Int) : ∃ (negative : Bool) (m : Nat),
    n = (if negative then -(m : Int) else m) ∧
      (toString n).toList = signOf negative ++ Nat.toDigits 10 m := by
  cases n with
  | ofNat m => exact ⟨false, m, rfl, Nat.toList_repr⟩
  | negSucc m =>
    refine ⟨true, m + 1, rfl, ?_⟩
    show ("-" ++ Nat.repr (m + 1)).toList = _
    rw [String.toList_append, Nat.toList_repr]
    rfl

/-- An integer stands in a text as it is written. -/
theorem spellsNumber_int (n : Int) : SpellsNumber (.int n) (toString n).toList := by
  obtain ⟨negative, m, hn, htext⟩ := exists_toDigits n
  have h : SpellsNumber (numberOf negative (Nat.toDigits 10 m) [] none) _ :=
    .intro (isWhole_toDigits m) .none .none
  simp only [numberOf, ofDigits_toDigits, and_self, if_true, List.append_nil] at h
  rw [htext, hn]
  exact h

/-! ## Reading -/

/-- What stands at the front of a text, if anything does, cannot go on with digits. -/
def NoDigit (s : List Char) : Prop :=
  ∀ c r, s = c :: r → isDigit c = false

/-- What stands at the front of a text, if anything does, cannot be a part of a number. -/
def EndsNumber (s : List Char) : Prop :=
  ∀ c r, s = c :: r → isDigit c = false ∧ c ≠ '.' ∧ ¬ IsMark c

theorem EndsNumber.noDigit {s : List Char} (h : EndsNumber s) : NoDigit s :=
  fun c r hs => (h c r hs).1

theorem noDigit_cons {c : Char} (h : isDigit c = false) (r : List Char) : NoDigit (c :: r) := by
  intro d r' heq
  rwa [← (List.cons.inj heq).1]

theorem takeWhile_noDigit {s : List Char} (h : NoDigit s) :
    s.takeWhile isDigit = [] ∧ s.dropWhile isDigit = s := by
  cases s with
  | nil => exact ⟨rfl, rfl⟩
  | cons c r =>
    have hc := Bool.eq_false_iff.1 (h c r rfl)
    exact ⟨List.takeWhile_cons_of_neg hc, List.dropWhile_cons_of_neg hc⟩

section Append

variable {ds rest : List Char}

theorem takeWhile_digits (h : ∀ c ∈ ds, isDigit c = true) (hrest : NoDigit rest) :
    (ds ++ rest).takeWhile isDigit = ds := by
  rw [List.takeWhile_append_of_pos h, (takeWhile_noDigit hrest).1, List.append_nil]

theorem dropWhile_digits (h : ∀ c ∈ ds, isDigit c = true) (hrest : NoDigit rest) :
    (ds ++ rest).dropWhile isDigit = rest := by
  rw [List.dropWhile_append_of_pos h, (takeWhile_noDigit hrest).2]

theorem readWhole_append (h : IsWhole ds) (hrest : NoDigit rest) :
    readWhole (ds ++ rest) = some (ds, rest) := by
  obtain ⟨c, r, rfl, hc⟩ := h.exists_cons
  by_cases hzero : c = '0'
  · subst hzero
    obtain rfl := h.lead r rfl
    rfl
  · have hr : ∀ d ∈ r, isDigit d = true := fun d hd => h.digits d (List.mem_cons_of_mem _ hd)
    rw [List.cons_append, readWhole.eq_2 _ _ (fun h => hzero h), if_pos hc,
      takeWhile_digits hr hrest, dropWhile_digits hr hrest]

theorem readFraction_append {fraction f : List Char} (h : SpellsFraction fraction f)
    (hrest : NoDigit rest) (hpoint : ∀ r, rest ≠ '.' :: r) :
    readFraction (f ++ rest) = (fraction, rest) := by
  cases h with
  | none =>
    exact readFraction.eq_2 rest fun c r heq => hpoint (c :: r) heq
  | some hds =>
    obtain ⟨c, r, rfl, hc⟩ := hds.exists_cons
    have hr : ∀ d ∈ r, isDigit d = true := fun d hd => hds.digits d (List.mem_cons_of_mem _ hd)
    rw [List.cons_append, List.cons_append, readFraction, if_pos hc, takeWhile_digits hr hrest,
      dropWhile_digits hr hrest]

theorem readExponentDigits_append (negative : Bool) (h : AreDigits ds) (hrest : NoDigit rest) :
    readExponentDigits negative (ds ++ rest) =
      some (if negative then -(ofDigits ds : Int) else ofDigits ds, rest) := by
  unfold readExponentDigits
  rw [takeWhile_digits h.digits hrest, dropWhile_digits h.digits hrest]
  obtain ⟨c, r, rfl, -⟩ := h.exists_cons
  rw [← digitsValue_eq_ofDigits]

theorem readExponent_append {exponent : Option Int} {e : List Char}
    (h : SpellsExponent exponent e) (hrest : EndsNumber rest) :
    readExponent (e ++ rest) = exponent.map fun x => (x, rest) := by
  cases h with
  | none =>
    cases rest with
    | nil => rfl
    | cons c r => exact if_neg (hrest c r rfl).2.2
  | bare hmark hds =>
    have hread := readExponentDigits_append false hds hrest.noDigit
    -- a digit is no sign
    obtain ⟨c, r, rfl, hc⟩ := hds.exists_cons
    rw [List.cons_append, readExponent, if_pos hmark]
    · exact hread
    · rintro digits ⟨⟩
      cases hc
    · rintro digits ⟨⟩
      cases hc
  | plus hmark hds =>
    exact (if_pos hmark).trans (readExponentDigits_append false hds hrest.noDigit)
  | minus hmark hds =>
    exact (if_pos hmark).trans (readExponentDigits_append true hds hrest.noDigit)

theorem noDigit_fraction {fraction f : List Char} (h : SpellsFraction fraction f)
    (hrest : NoDigit rest) : NoDigit (f ++ rest) := by
  cases h with
  | none => exact hrest
  | some hds => exact noDigit_cons rfl _

/-- An exponent begins with its mark, which is neither a digit nor a point. -/
theorem exponent_ahead {exponent : Option Int} {e : List Char} (h : SpellsExponent exponent e)
    (hrest : EndsNumber rest) : NoDigit (e ++ rest) ∧ ∀ r, e ++ rest ≠ '.' :: r := by
  have hmarked : ∀ {mark : Char} (hmark : IsMark mark) (r : List Char),
      NoDigit (mark :: r) ∧ ∀ r', mark :: r ≠ '.' :: r' := by
    intro mark hmark r
    rcases hmark with rfl | rfl
    · exact ⟨noDigit_cons rfl r, fun r' heq => absurd (List.cons.inj heq).1 (by decide)⟩
    · exact ⟨noDigit_cons rfl r, fun r' heq => absurd (List.cons.inj heq).1 (by decide)⟩
  cases h with
  | none => exact ⟨hrest.noDigit, fun r heq => (hrest '.' r heq).2.1 rfl⟩
  | bare hmark _ => exact hmarked hmark _
  | plus hmark _ => exact hmarked hmark _
  | minus hmark _ => exact hmarked hmark _

/-- A number is read where it stands. -/
theorem readNumber_append (negative : Bool) {whole fraction f e : List Char}
    {exponent : Option Int} (hwhole : IsWhole whole) (hfraction : SpellsFraction fraction f)
    (hexponent : SpellsExponent exponent e) (hrest : EndsNumber rest) :
    readNumber negative (whole ++ (f ++ (e ++ rest))) =
      some (numberOf negative whole fraction exponent, rest) := by
  obtain ⟨hdigit, hpoint⟩ := exponent_ahead hexponent hrest
  unfold readNumber
  simp only [readWhole_append hwhole (noDigit_fraction hfraction hdigit), Option.bind_eq_bind,
    Option.bind_some, readFraction_append hfraction hdigit hpoint,
    readExponent_append hexponent hrest, digitsValue_eq_ofDigits]
  cases exponent with
  | some x => simp [numberOf]
  | none =>
    cases hexponent
    by_cases hf : fraction = [] <;> simp [numberOf, hf]

end Append

/-! ## What is read is a number -/

theorem mem_takeWhile_isDigit (s : List Char) : ∀ c ∈ s.takeWhile isDigit, c.isDigit = true :=
  List.all_eq_true.1 List.all_takeWhile

theorem isWhole_of_readWhole {s ds rest : List Char} (h : readWhole s = some (ds, rest)) :
    IsWhole ds ∧ s = ds ++ rest := by
  unfold readWhole at h
  split at h
  · cases h
    exact ⟨⟨⟨by decide, by decide⟩, fun r hr => (List.cons.inj hr).2.symm⟩, rfl⟩
  · next c r hzero =>
    split at h
    · next hc =>
      cases h
      refine ⟨⟨⟨List.cons_ne_nil _ _, List.forall_mem_cons.2 ⟨hc, mem_takeWhile_isDigit r⟩⟩,
        fun r' hr' => absurd (List.cons.inj hr').1 hzero⟩, ?_⟩
      rw [List.cons_append, List.takeWhile_append_dropWhile]
    · cases h
  · cases h

theorem spells_of_readFraction {s fraction rest : List Char}
    (h : readFraction s = (fraction, rest)) : ∃ f, SpellsFraction fraction f ∧ s = f ++ rest := by
  unfold readFraction at h
  split at h
  · next c r =>
    split at h
    · next hc =>
      cases h
      have hdigits : ∀ d ∈ c :: r.takeWhile isDigit, isDigit d = true :=
        List.forall_mem_cons.2 ⟨hc, mem_takeWhile_isDigit r⟩
      refine ⟨_, .some ⟨List.cons_ne_nil _ _, hdigits⟩, ?_⟩
      rw [List.cons_append, List.cons_append, List.takeWhile_append_dropWhile]
    · cases h
      exact ⟨[], .none, rfl⟩
  · cases h
    exact ⟨[], .none, rfl⟩

theorem areDigits_of_readExponentDigits {negative : Bool} {s rest : List Char} {x : Int}
    (h : readExponentDigits negative s = some (x, rest)) :
    ∃ ds, AreDigits ds ∧ s = ds ++ rest ∧
      x = if negative then -(ofDigits ds : Int) else ofDigits ds := by
  unfold readExponentDigits at h
  split at h
  · cases h
  · next hne =>
    cases h
    refine ⟨s.takeWhile isDigit, ⟨hne, mem_takeWhile_isDigit s⟩, ?_, ?_⟩
    · exact List.takeWhile_append_dropWhile.symm
    · rw [digitsValue_eq_ofDigits]

theorem spells_of_readExponent {s rest : List Char} {x : Int}
    (h : readExponent s = some (x, rest)) :
    ∃ e, SpellsExponent (some x) e ∧ s = e ++ rest := by
  unfold readExponent at h
  split at h
  · next mark r =>
    split at h
    · next hmark =>
      split at h
      · obtain ⟨ds, hds, rfl, rfl⟩ := areDigits_of_readExponentDigits h
        exact ⟨_, .plus hmark hds, rfl⟩
      · obtain ⟨ds, hds, rfl, rfl⟩ := areDigits_of_readExponentDigits h
        exact ⟨_, .minus hmark hds, rfl⟩
      · obtain ⟨ds, hds, rfl, rfl⟩ := areDigits_of_readExponentDigits h
        exact ⟨_, .bare hmark hds, rfl⟩
    · cases h
  · cases h

theorem spells_of_readNumber {negative : Bool} {s rest : List Char} {v : Json}
    (h : readNumber negative s = some (v, rest)) :
    ∃ t, SpellsNumber v (signOf negative ++ t) ∧ s = t ++ rest := by
  obtain ⟨⟨whole, r⟩, hread, hnumber⟩ := Option.bind_eq_some_iff.1 h
  obtain ⟨hwhole, rfl⟩ := isWhole_of_readWhole hread
  clear h hread
  rcases hpart : readFraction r with ⟨fraction, r'⟩
  dsimp only at hnumber
  rw [hpart] at hnumber
  obtain ⟨f, hfraction, rfl⟩ := spells_of_readFraction hpart
  split at hnumber
  · next x after hmarked =>
    obtain ⟨e, hexponent, rfl⟩ := spells_of_readExponent hmarked
    cases hnumber
    have hspells : SpellsNumber (numberOf negative whole fraction (some x)) _ :=
      .intro hwhole hfraction hexponent
    refine ⟨whole ++ (f ++ e), ?_, by simp⟩
    simpa [numberOf, digitsValue_eq_ofDigits] using hspells
  · have hspells : SpellsNumber (numberOf negative whole fraction none) _ :=
      .intro hwhole hfraction .none
    rw [List.append_nil] at hspells
    split at hnumber
    · next hinteger =>
      have hnil : fraction = [] := List.isEmpty_iff.1 hinteger
      cases hnumber
      refine ⟨whole ++ f, ?_, by simp⟩
      simpa [numberOf, digitsValue_eq_ofDigits, hnil] using hspells
    · next hfloat =>
      cases hnumber
      have hne : fraction ≠ [] := fun hnil => hfloat (List.isEmpty_iff.2 hnil)
      refine ⟨whole ++ f, ?_, by simp⟩
      simpa [numberOf, digitsValue_eq_ofDigits, hne] using hspells
end TestScribe.Json
