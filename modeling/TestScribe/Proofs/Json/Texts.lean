import TestScribe.Json.Printer
import TestScribe.Json.Reader

/-!
# Texts in JSON

The grammar of texts (`SpellsText`): between two quotes, each character stands for itself, or it is
escaped by a letter or by its code units.  A text is read where it stands (`readText_append`), and
it is written in printable ASCII, in a way that is read back (`spellsText_stringChars`).
-/

namespace TestScribe.Json

/-! ## The grammar -/

/-- The escapes by a letter, each with its character. -/
def letterEscapes : List (Char × Char) :=
  [('"', '"'), ('\\', '\\'), ('/', '/'), ('b', Char.ofNat 0x08), ('f', Char.ofNat 0x0C),
    ('n', '\n'), ('r', '\r'), ('t', '\t')]

/-- The hexadecimal digits, each with its value. -/
def hexTable : List (Char × Nat) :=
  "0123456789abcdef".toList.zipIdx ++ "ABCDEF".toList.zipIdx 10

/-- A code unit, and how it stands in an escape. -/
inductive SpellsUnit : Nat → List Char → Prop
  | intro {a b c d : Char} {i j k l : Nat} :
    (a, i) ∈ hexTable → (b, j) ∈ hexTable → (c, k) ∈ hexTable → (d, l) ∈ hexTable →
    SpellsUnit (i * 0x1000 + j * 0x100 + k * 0x10 + l) [a, b, c, d]

/-- A character, and how it stands between quotes. -/
inductive SpellsChar : Char → List Char → Prop
  | plain {c : Char} : 0x20 ≤ c.toNat → c ≠ '"' → c ≠ '\\' → SpellsChar c [c]
  | letter {e c : Char} : (e, c) ∈ letterEscapes → SpellsChar c ['\\', e]
  | unit {c : Char} {u : List Char} : SpellsUnit c.toNat u → SpellsChar c ('\\' :: 'u' :: u)
  | pair {c : Char} {i j : Nat} {u u' : List Char} :
    i < 0x400 → j < 0x400 → c.toNat = 0x10000 + i * 0x400 + j →
    SpellsUnit (0xD800 + i) u → SpellsUnit (0xDC00 + j) u' →
    SpellsChar c ('\\' :: 'u' :: u ++ '\\' :: 'u' :: u')

/-- Characters, and how they stand between quotes. -/
inductive SpellsChars : List Char → List Char → Prop
  | nil : SpellsChars [] []
  | cons {c : Char} {cs s s' : List Char} :
    SpellsChar c s → SpellsChars cs s' → SpellsChars (c :: cs) (s ++ s')

/-- A text, and how it stands with its quotes. -/
inductive SpellsText : String → List Char → Prop
  | intro {t : String} {s : List Char} : SpellsChars t.toList s → SpellsText t ('"' :: s ++ ['"'])

/-- Characters that need no escape stand for themselves. -/
theorem spellsChars_plain {cs : List Char}
    (h : ∀ c ∈ cs, 0x20 ≤ c.toNat ∧ c ≠ '"' ∧ c ≠ '\\') : SpellsChars cs cs := by
  induction cs with
  | nil => exact .nil
  | cons c cs ih =>
    obtain ⟨⟨hlow, hquote, hbackslash⟩, hcs⟩ := List.forall_mem_cons.1 h
    exact .cons (.plain hlow hquote hbackslash) (ih hcs)

/-! ## Reading -/

theorem shortEscape?_of_mem : ∀ p ∈ letterEscapes, shortEscape? p.1 = some p.2 ∧ p.1 ≠ 'u' := by
  decide

theorem hexValue?_of_mem : ∀ p ∈ hexTable, hexValue? p.1 = some p.2 := by
  decide

theorem SpellsUnit.exists_four {n : Nat} {u : List Char} (h : SpellsUnit n u) :
    ∃ a b c d, u = [a, b, c, d] ∧ hexUnit? [a, b, c, d] = some n := by
  cases h with
  | @intro a b c d i j k l ha hb hc hd =>
    refine ⟨a, b, c, d, rfl, ?_⟩
    simp only [hexUnit?, hexValue?_of_mem _ ha, hexValue?_of_mem _ hb, hexValue?_of_mem _ hc,
      hexValue?_of_mem _ hd]
    rfl

/-- A character is no surrogate. -/
theorem not_surrogate (c : Char) : ¬ (0xD800 ≤ c.toNat ∧ c.toNat < 0xE000) := by
  have hvalid : c.toNat < 0xD800 ∨ 0xDFFF < c.toNat ∧ c.toNat < 0x110000 := c.valid
  omega

theorem unitChar_toNat (c : Char) : unitChar c.toNat = c :=
  (if_neg (not_surrogate c)).trans (Char.ofNat_toNat c)

section Escapes

variable {a b c d x : Char} {r : List Char} {high : Nat}

/-- An escaped code unit stands for itself unless it is the first of a pair. -/
theorem readString_unit (hunit : hexUnit? [a, b, c, d] = some high)
    (hsingle : ∀ second, x :: r = '\\' :: 'u' :: second →
      ¬ (0xD800 ≤ high ∧ high < 0xDC00 ∧ (!(second.drop 4).isEmpty) = true) ∨
        ∃ low, hexUnit? (second.take 4) = some low ∧ ¬ (0xDC00 ≤ low ∧ low < 0xE000))
    (whole n : Nat) (read : List Char) :
    readString whole (n + 1) read ('\\' :: 'u' :: a :: b :: c :: d :: x :: r) =
      readString whole n (unitChar high :: read) (x :: r) := by
  rw [readString.eq_5]
  simp only [List.drop_succ_cons, List.drop_zero, List.isEmpty_cons, Bool.false_eq_true, if_false,
    List.take_succ_cons, List.take_zero, hunit]
  split
  · next second heq =>
    rcases hsingle second heq with hhigh | ⟨low, hlow, hnot⟩
    · exact if_neg hhigh
    · simp only [hlow, if_neg hnot, ite_self]
  · rfl

/-- Two escaped surrogates stand for one character. -/
theorem readString_pair {a' b' c' d' : Char} {low : Nat} (hunit : hexUnit? [a, b, c, d] = some high)
    (hunit' : hexUnit? [a', b', c', d'] = some low) (hhigh : 0xD800 ≤ high ∧ high < 0xDC00)
    (hlow : 0xDC00 ≤ low ∧ low < 0xE000) (whole n : Nat) (read : List Char) :
    readString whole (n + 1) read ('\\' :: 'u' :: a :: b :: c :: d :: '\\' :: 'u' :: a' :: b' ::
        c' :: d' :: x :: r) =
      readString whole n (Char.ofNat (joinSurrogates high low) :: read) (x :: r) := by
  rw [readString.eq_5]
  simp only [List.drop_succ_cons, List.drop_zero, List.isEmpty_cons, Bool.false_eq_true, if_false,
    List.take_succ_cons, List.take_zero, hunit, hunit', Bool.not_false, and_true, if_pos hhigh,
    if_pos hlow]

end Escapes

theorem readString_letter {e d : Char} (he : e ≠ 'u') (hd : shortEscape? e = some d) (whole n : Nat)
    (read rest : List Char) :
    readString whole (n + 1) read ('\\' :: e :: rest) = readString whole n (d :: read) rest := by
  rw [readString.eq_6 _ _ _ _ _ he, hd]

theorem readString_plain {c : Char} (hcontrol : ¬ c.toNat < 0x20) (hquote : c ≠ '"')
    (hescape : c ≠ '\\') (whole n : Nat) (read rest : List Char) :
    readString whole (n + 1) read (c :: rest) = readString whole n (c :: read) rest := by
  rw [readString.eq_7 _ _ _ _ _ hquote (fun hc _ => hescape hc) (fun _ hc _ => hescape hc)
    (fun _ _ hc _ => hescape hc), if_neg hcontrol]

/-- A character is read where it stands, if the text does not break off behind it. -/
theorem readString_append {c : Char} {s : List Char} (h : SpellsChar c s) (whole n : Nat)
    (read : List Char) {rest : List Char} (hrest : rest ≠ []) :
    readString whole (n + 1) read (s ++ rest) = readString whole n (c :: read) rest := by
  obtain ⟨x, r, rfl⟩ := List.exists_cons_of_ne_nil hrest
  cases h with
  | plain hcontrol hquote hescape =>
    exact readString_plain (Nat.not_lt.2 hcontrol) hquote hescape whole n read (x :: r)
  | letter hmem =>
    obtain ⟨hletter, hne⟩ := shortEscape?_of_mem _ hmem
    exact readString_letter hne hletter whole n read (x :: r)
  | unit hu =>
    obtain ⟨a, b, c', d, rfl, hunit⟩ := hu.exists_four
    have hread := readString_unit (x := x) (r := r) hunit
      (fun second _ => .inl (by have := not_surrogate c; omega)) whole n read
    rwa [unitChar_toNat] at hread
  | @pair _ i j _ _ hi hj hc hu hu' =>
    obtain ⟨a, b, c', d, rfl, hunit⟩ := hu.exists_four
    obtain ⟨a', b', c'', d', rfl, hunit'⟩ := hu'.exists_four
    have hcode : joinSurrogates (0xD800 + i) (0xDC00 + j) = c.toNat := by
      unfold joinSurrogates
      omega
    have hread := readString_pair (x := x) (r := r) hunit hunit' (by omega) (by omega) whole n read
    rwa [hcode, Char.ofNat_toNat] at hread

theorem SpellsChar.length_pos {c : Char} {s : List Char} (h : SpellsChar c s) : 0 < s.length := by
  cases h <;> simp

theorem SpellsChars.length_le {cs s : List Char} (h : SpellsChars cs s) : cs.length ≤ s.length := by
  induction h with
  | nil => exact Nat.le_refl 0
  | cons hc _ ih =>
    have := hc.length_pos
    rw [List.length_cons, List.length_append]
    omega

/-- By induction on the characters, which are read one at a step. -/
theorem readString_chars {cs s : List Char} (h : SpellsChars cs s) (whole n : Nat)
    (read rest : List Char) :
    readString whole (cs.length + 1 + n) read (s ++ '"' :: rest) =
      .ok (read.reverse ++ cs, rest) := by
  induction h generalizing read with
  | nil =>
    rw [List.append_nil, List.length_nil, Nat.zero_add, Nat.add_comm 1 n]
    rfl
  | @cons c cs s s' hc _ ih =>
    have hsteps : (c :: cs).length + 1 + n = cs.length + 1 + n + 1 := by
      rw [List.length_cons]
      omega
    rw [hsteps, List.append_assoc, readString_append hc _ _ _ (by simp), ih]
    simp

/-- A text is read where it stands. -/
theorem readText_append {t : String} {s : List Char} (h : SpellsChars t.toList s)
    (rest : List Char) : readText (s ++ '"' :: rest) = .ok (t, rest) := by
  have hlength := h.length_le
  have hfuel : (s ++ '"' :: rest).length + 1 =
      t.toList.length + 1 + (s.length - t.toList.length + rest.length + 1) := by
    rw [List.length_append, List.length_cons]
    omega
  unfold readText
  rw [hfuel, readString_chars h]
  exact congrArg (fun u => Except.ok (u, rest)) (String.ofList_toList)

/-! ## Writing -/

theorem mem_hexTable_hexDigit : ∀ k < 16, (Text.hexDigit k, k) ∈ hexTable := by
  decide

theorem spellsUnit_hexDigits {n : Nat} (h : n < 0x10000) : SpellsUnit n (Text.hexDigits 4 n) := by
  have hdigit : ∀ m, (Text.hexDigit (m % 16), m % 16) ∈ hexTable := fun m =>
    mem_hexTable_hexDigit _ (Nat.mod_lt m (by decide))
  have hvalue : n / 16 / 16 / 16 % 16 * 0x1000 + n / 16 / 16 % 16 * 0x100 + n / 16 % 16 * 0x10 +
      n % 16 = n := by
    omega
  have hspells := SpellsUnit.intro (hdigit (n / 16 / 16 / 16)) (hdigit (n / 16 / 16))
    (hdigit (n / 16)) (hdigit n)
  rwa [hvalue] at hspells

/-- How a character is written: escaped by a letter, as it is, or by its code units. -/
inductive IsWritten (c : Char) : List Char → Prop
  | letter {e : Char} : (e, c) ∈ letterEscapes → IsWritten c ['\\', e]
  | plain : 0x20 ≤ c.toNat → c.toNat < 0x7F → c ≠ '"' → c ≠ '\\' → IsWritten c [c]
  | unit : c.toNat < 0x10000 → IsWritten c (unitEscape c.toNat)
  | pair : 0x10000 ≤ c.toNat →
    IsWritten c (unitEscape (0xD800 + (c.toNat - 0x10000) / 0x400) ++
      unitEscape (0xDC00 + (c.toNat - 0x10000) % 0x400))

theorem isWritten_escapeChar (c : Char) : IsWritten c (escapeChar c) := by
  have hcode : ∀ n, c.toNat = n → c = Char.ofNat n := fun n hn => by rw [← hn, Char.ofNat_toNat]
  unfold escapeChar
  refine iteInduction (fun hquote => ?_) fun hquote => ?_
  · exact .letter (by rw [hquote]; decide)
  refine iteInduction (fun hescape => ?_) fun hescape => ?_
  · exact .letter (by rw [hescape]; decide)
  refine iteInduction (fun hfeed => ?_) fun _ => ?_
  · exact .letter (by rw [hfeed]; decide)
  refine iteInduction (fun hreturn => ?_) fun _ => ?_
  · exact .letter (by rw [hreturn]; decide)
  refine iteInduction (fun htab => ?_) fun _ => ?_
  · exact .letter (by rw [htab]; decide)
  refine iteInduction (fun hback => ?_) fun _ => ?_
  · exact .letter (by rw [hcode _ hback]; decide)
  refine iteInduction (fun hform => ?_) fun _ => ?_
  · exact .letter (by rw [hcode _ hform]; decide)
  refine iteInduction (fun hplain => ?_) fun _ => ?_
  · exact .plain hplain.1 hplain.2 hquote hescape
  refine iteInduction (fun hunit => ?_) fun hunit => ?_
  · exact .unit hunit
  · exact .pair (Nat.le_of_not_lt hunit)

/-- How a character is written is one of the ways in which it may stand in a text. -/
theorem IsWritten.spellsChar {c : Char} {s : List Char} (h : IsWritten c s) : SpellsChar c s := by
  have hvalid : c.toNat < 0xD800 ∨ 0xDFFF < c.toNat ∧ c.toNat < 0x110000 := c.valid
  cases h with
  | letter he => exact .letter he
  | plain hlow _ hquote hescape => exact .plain hlow hquote hescape
  | unit hunit => exact .unit (spellsUnit_hexDigits hunit)
  | pair hpair =>
    exact .pair (by omega) (Nat.mod_lt _ (by decide)) (by omega)
      (spellsUnit_hexDigits (by omega)) (spellsUnit_hexDigits (by omega))

theorem spellsText_stringChars (t : String) : SpellsText t (stringChars t) := by
  have hspells : ∀ cs, SpellsChars cs (cs.flatMap escapeChar) := by
    intro cs
    induction cs with
    | nil => exact .nil
    | cons c cs ih => exact .cons (isWritten_escapeChar c).spellsChar ih
  exact .intro (hspells t.toList)

/-- A character of printable ASCII. -/
abbrev IsPrintable (c : Char) : Prop :=
  0x20 ≤ c.toNat ∧ c.toNat ≤ 0x7E

theorem isPrintable_hexDigit : ∀ k < 16, IsPrintable (Text.hexDigit k) := by
  decide

theorem isPrintable_of_mem_hexDigits (width n : Nat) :
    ∀ c ∈ Text.hexDigits width n, IsPrintable c := by
  induction width generalizing n with
  | zero => exact fun c hc => absurd hc List.not_mem_nil
  | succ width ih =>
    intro c hc
    rcases List.mem_append.1 hc with hc | hc
    · exact ih _ c hc
    · rw [List.mem_singleton.1 hc]
      exact isPrintable_hexDigit _ (Nat.mod_lt n (by decide))

theorem isPrintable_of_mem_unitEscape (n : Nat) : ∀ c ∈ unitEscape n, IsPrintable c := by
  intro c hc
  rcases List.mem_cons.1 hc with rfl | hc
  · decide
  rcases List.mem_cons.1 hc with rfl | hc
  · decide
  · exact isPrintable_of_mem_hexDigits 4 n c hc

theorem IsWritten.isPrintable {c : Char} {s : List Char} (h : IsWritten c s) :
    ∀ d ∈ s, IsPrintable d := by
  have hbackslash : IsPrintable '\\' := by decide
  have hletters : ∀ p ∈ letterEscapes, IsPrintable p.1 := by decide
  cases h with
  | letter he =>
    exact List.forall_mem_cons.2 ⟨hbackslash, List.forall_mem_singleton.2 (hletters _ he)⟩
  | plain hlow hhigh => exact List.forall_mem_singleton.2 ⟨hlow, Nat.le_of_lt_succ hhigh⟩
  | unit => exact isPrintable_of_mem_unitEscape _
  | pair =>
    exact List.forall_mem_append.2
      ⟨isPrintable_of_mem_unitEscape _, isPrintable_of_mem_unitEscape _⟩

theorem isPrintable_of_mem_stringChars (t : String) : ∀ c ∈ stringChars t, IsPrintable c := by
  have hquote : IsPrintable '"' := by decide
  intro c hc
  rcases List.mem_cons.1 hc with rfl | hc
  · exact hquote
  rcases List.mem_append.1 hc with hc | hc
  · obtain ⟨d, -, hd⟩ := List.mem_flatMap.1 hc
    exact (isWritten_escapeChar d).isPrintable c hd
  · rw [List.mem_singleton.1 hc]
    exact hquote

end TestScribe.Json
