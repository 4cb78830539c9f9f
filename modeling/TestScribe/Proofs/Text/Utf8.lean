import Mathlib.Data.List.Basic
import TestScribe.Text.Utf8

/-!
# Texts and their bytes

The bytes of a text are those in which strings are held (`encode_toList`), and they are read back as
the text (`decode_encode`).  What any bytes are read as is said by `Reads`: whole characters stand
for themselves, and where no character stands, the longest beginning of one that is found there, or
else a single byte, gives one `replacement`.  Every sequence of bytes is read in exactly one way,
and `decode` finds it (`reads_iff`).
-/

namespace TestScribe.Utf8

/-! ## The bytes of a character -/

theorem isTail_iff {b : Nat} : isTail b = true ↔ 0x80 ≤ b ∧ b < 0xC0 := by
  simp [isTail]

theorem secondFits_iff {a b : Nat} :
    secondFits a b = true ↔ (0x80 ≤ b ∧ b < 0xC0) ∧ (a = 0xE0 → 0xA0 ≤ b) ∧
      (a = 0xED → b < 0xA0) ∧ (a = 0xF0 → 0x90 ≤ b) ∧ (a = 0xF4 → b < 0x90) := by
  simp [secondFits, isTail, imp_iff_not_or, and_assoc]

/-- The bytes of a character, told by the first of them. -/
inductive IsChar : List Nat → Prop
  | one {a : Nat} : a < 0x80 → IsChar [a]
  | two {a b : Nat} : 0xC2 ≤ a → a < 0xE0 → isTail b = true → IsChar [a, b]
  | three {a b c : Nat} : 0xE0 ≤ a → a < 0xF0 → secondFits a b = true → isTail c = true →
      IsChar [a, b, c]
  | four {a b c d : Nat} : 0xF0 ≤ a → a < 0xF5 → secondFits a b = true → isTail c = true →
      isTail d = true → IsChar [a, b, c, d]

/-- The character that bytes stand for. -/
def charOf : List Nat → Char
  | [a] => .ofNat a
  | [a, b] => .ofNat ((a - 0xC0) * 0x40 + (b - 0x80))
  | [a, b, c] => .ofNat ((a - 0xE0) * 0x1000 + (b - 0x80) * 0x40 + (c - 0x80))
  | [a, b, c, d] =>
    .ofNat ((a - 0xF0) * 0x40000 + (b - 0x80) * 0x1000 + (c - 0x80) * 0x40 + (d - 0x80))
  | _ => replacement

theorem toNat_valid (c : Char) : c.toNat < 0xD800 ∨ 0xDFFF < c.toNat ∧ c.toNat < 0x110000 :=
  c.valid

theorem isChar_encodeChar (c : Char) : IsChar (encodeChar c) := by
  have hvalid := toNat_valid c
  unfold encodeChar
  dsimp only
  split_ifs with h₁ h₂ h₃
  · exact .one h₁
  · exact .two (by omega) (by omega) (isTail_iff.2 (by omega))
  · exact .three (by omega) (by omega) (secondFits_iff.2 (by omega)) (isTail_iff.2 (by omega))
  · exact .four (by omega) (by omega) (secondFits_iff.2 (by omega)) (isTail_iff.2 (by omega))
      (isTail_iff.2 (by omega))

theorem encodeChar_ne_nil (c : Char) : encodeChar c ≠ [] := fun h => by
  have hchar := isChar_encodeChar c
  rw [h] at hchar
  cases hchar

theorem charOf_encodeChar (c : Char) : charOf (encodeChar c) = c := by
  have hchar : ∀ n, n = c.toNat → Char.ofNat n = c := fun n hn => hn ▸ Char.ofNat_toNat c
  unfold encodeChar
  dsimp only
  split_ifs with h₁ h₂ h₃ <;> exact hchar _ (by omega)

/-- All that has the form of a character is one: its number is neither a surrogate nor too large. -/
theorem IsChar.encodeChar_charOf {p : List Nat} (h : IsChar p) : encodeChar (charOf p) = p := by
  have hchar : ∀ n, n < 0xD800 ∨ 0xDFFF < n ∧ n < 0x110000 → (Char.ofNat n).toNat = n :=
    fun n hn => by
      rw [Char.ofNat, dif_pos hn]
      rfl
  cases h with
  | one ha => rw [charOf, encodeChar, hchar _ (by omega), if_pos ha]
  | two ha ha' hb =>
    rw [isTail_iff] at hb
    rw [charOf, encodeChar, hchar _ (by omega), if_neg (by omega), if_pos (by omega)]
    simp only [List.cons.injEq, and_true]
    omega
  | three ha ha' hb hc =>
    rw [isTail_iff] at hc
    rw [secondFits_iff] at hb
    rw [charOf, encodeChar, hchar _ (by omega), if_neg (by omega), if_neg (by omega),
      if_pos (by omega)]
    simp only [List.cons.injEq, and_true]
    omega
  | four ha ha' hb hc hd =>
    rw [isTail_iff] at hc hd
    rw [secondFits_iff] at hb
    rw [charOf, encodeChar, hchar _ (by omega), if_neg (by omega), if_neg (by omega),
      if_neg (by omega)]
    simp only [List.cons.injEq, and_true]
    omega

theorem IsChar.decode_append {p : List Nat} (h : IsChar p) (bs : List Nat) :
    decode (p ++ bs) = charOf p :: decode bs := by
  cases h with
  | one ha =>
    rw [List.singleton_append, decode.eq_def]
    simp [charOf, ha]
  | two ha ha' hb =>
    rw [List.cons_append, List.singleton_append, decode.eq_def]
    simp (disch := omega) [charOf, ha, ha', hb, if_neg]
  | three ha ha' hb hc =>
    rw [List.cons_append, List.cons_append, List.singleton_append, decode.eq_def]
    simp (disch := omega) [charOf, ha, ha', hb, hc, if_neg]
  | four ha ha' hb hc hd =>
    rw [List.cons_append, List.cons_append, List.cons_append, List.singleton_append,
      decode.eq_def]
    simp (disch := omega) [charOf, ha, ha', hb, hc, hd, if_neg]

theorem decode_encodeChar_append (c : Char) (bs : List Nat) :
    decode (encodeChar c ++ bs) = c :: decode bs := by
  rw [(isChar_encodeChar c).decode_append, charOf_encodeChar]

theorem eq_of_encodeChar_append {c d : Char} {bs bs' : List Nat}
    (h : encodeChar c ++ bs = encodeChar d ++ bs') : c = d := by
  have hdecode := congrArg decode h
  rw [decode_encodeChar_append, decode_encodeChar_append] at hdecode
  exact (List.cons.inj hdecode).1

/-! ## The bytes of a text -/

theorem encode_append (s t : List Char) : encode (s ++ t) = encode s ++ encode t := by
  induction s with
  | nil => rfl
  | cons c s ih => rw [List.cons_append, encode, ih, encode, List.append_assoc]

theorem decode_nil : decode [] = [] := by
  rw [decode]

/-- By induction on the text. -/
theorem decode_encode (s : List Char) : decode (encode s) = s := by
  induction s with
  | nil => exact decode_nil
  | cons c s ih => rw [encode, decode_encodeChar_append, ih]

/-- The bytes of an array as numbers. -/
def octets (b : ByteArray) : List Nat :=
  b.data.toList.map UInt8.toNat

theorem encodeChar_eq (c : Char) : encodeChar c = (String.utf8EncodeChar c).map UInt8.toNat := by
  have hvalid := toNat_valid c
  have hoctet : ∀ n, n < 0x100 → (UInt8.ofNat n).toNat = n :=
    fun n hn => UInt8.toNat_ofNat_of_lt' hn
  have hsize : c.toNat < 0x80 ∨ (0x80 ≤ c.toNat ∧ c.toNat < 0x800) ∨
      (0x800 ≤ c.toNat ∧ c.toNat < 0x10000) ∨ 0x10000 ≤ c.toNat := by omega
  unfold encodeChar String.utf8EncodeChar
  simp only [Char.toNat_val]
  rcases hsize with h | h | h | h
  case inl =>
    rw [if_pos h, if_pos (by omega), List.map_singleton, hoctet _ (by omega)]
  all_goals
    simp (disch := omega) only [if_pos, if_neg, List.map_cons, List.map_nil, hoctet,
      List.cons.injEq, and_true]
    omega

/-- The bytes of a text are those in which it is held. -/
theorem encode_toList (s : String) : encode s.toList = octets s.toByteArray := by
  have hflat : ∀ l : List Char, encode l = (l.flatMap String.utf8EncodeChar).map UInt8.toNat := by
    intro l
    induction l with
    | nil => rfl
    | cons c l ih => rw [encode, ih, encodeChar_eq, List.flatMap_cons, List.map_append]
  rw [octets, ← String.utf8Encode_toList, List.utf8Encode, List.toList_data_toByteArray, hflat]

theorem length_encode_toList (s : String) : (encode s.toList).length = s.utf8ByteSize := by
  rw [encode_toList, octets, List.length_map]
  rfl

theorem slice_octets (b : ByteArray) (start stop : Nat) :
    slice (octets b) start stop = octets (b.extract start stop) := by
  rw [slice, octets, octets, ByteArray.data_extract, Array.toList_extract,
    List.extract_eq_take_drop, List.map_take, List.map_drop]

/-! ## What bytes are read as -/

/-- The first bytes of a character, perhaps all of them. -/
def Begins (p : List Nat) : Prop :=
  ∃ c, p <+: encodeChar c

/-- No character stands at the beginning of `p ++ rest`, and `p` is the longest beginning of one
that does, or a single byte. -/
structure Broken (p rest : List Nat) : Prop where
  nonempty : p ≠ []
  noChar : ∀ c, ¬ encodeChar c <+: p ++ rest
  part : Begins p ∨ p.length = 1
  longest : ∀ q, q <+: p ++ rest → Begins q → q.length ≤ p.length

/-- The bytes are read as the text. -/
inductive Reads : List Nat → List Char → Prop
  | nil : Reads [] []
  | char (c : Char) {bs : List Nat} {s : List Char} :
      Reads bs s → Reads (encodeChar c ++ bs) (c :: s)
  | broken {p bs : List Nat} {s : List Char} :
      Broken p bs → Reads bs s → Reads (p ++ bs) (replacement :: s)

theorem Begins.of_prefix {p q : List Nat} (h : Begins q) (hp : p <+: q) : Begins p :=
  let ⟨c, hc⟩ := h
  ⟨c, hp.trans hc⟩

theorem Begins.of_isChar {p q : List Nat} (h : IsChar (p ++ q)) : Begins p :=
  ⟨charOf (p ++ q), q, h.encodeChar_charOf.symm⟩

theorem Begins.exists_isChar {p : List Nat} (h : Begins p) : ∃ q, IsChar (p ++ q) :=
  let ⟨c, q, hq⟩ := h
  ⟨q, hq ▸ isChar_encodeChar c⟩

/-! ### How a character goes on -/

section Begins

variable {a b c d : Nat} {r : List Nat}

theorem Begins.second (h : Begins (a :: b :: r)) :
    0xC2 ≤ a ∧ a < 0xF5 ∧ isTail b = true ∧ (0xE0 ≤ a → secondFits a b = true) := by
  obtain ⟨q, hq⟩ := h.exists_isChar
  simp only [List.cons_append] at hq
  generalize r ++ q = s at hq
  cases hq with
  | two ha ha' hb => exact ⟨ha, by omega, hb, by omega⟩
  | three ha ha' hb hc =>
    exact ⟨by omega, by omega, isTail_iff.2 (secondFits_iff.1 hb).1, fun _ => hb⟩
  | four ha ha' hb hc hd =>
    exact ⟨by omega, ha', isTail_iff.2 (secondFits_iff.1 hb).1, fun _ => hb⟩

theorem Begins.third (h : Begins (a :: b :: c :: r)) : 0xE0 ≤ a ∧ isTail c = true := by
  obtain ⟨q, hq⟩ := h.exists_isChar
  simp only [List.cons_append] at hq
  generalize r ++ q = s at hq
  cases hq with
  | three ha ha' hb hc => exact ⟨ha, hc⟩
  | four ha ha' hb hc hd => exact ⟨by omega, hc⟩

theorem Begins.fourth (h : Begins (a :: b :: c :: d :: r)) : 0xF0 ≤ a ∧ isTail d = true := by
  obtain ⟨q, hq⟩ := h.exists_isChar
  simp only [List.cons_append] at hq
  generalize r ++ q = s at hq
  cases hq with
  | four ha ha' hb hc hd => exact ⟨ha, hd⟩

end Begins

/-- No next byte goes on with the beginning of a character. -/
def Stuck (p : List Nat) : List Nat → Prop
  | [] => True
  | b :: _ => ¬ Begins (p ++ [b])

theorem Broken.of_stuck {p rest : List Nat} (hne : p ≠ []) (hwhole : ¬ IsChar p)
    (hpart : Begins p ∨ p.length = 1) (hstuck : Stuck p rest) : Broken p rest := by
  have hlongest : ∀ q, q <+: p ++ rest → Begins q → q.length ≤ p.length := by
    intro q hq hbegins
    by_contra hlength
    cases rest with
    | nil => exact hlength (by simpa using hq.length_le)
    | cons b r =>
      have hnext : p ++ [b] <+: p ++ b :: r := ⟨r, by simp⟩
      have hwithin : p ++ [b] <+: q := List.prefix_of_prefix_length_le hnext hq (by simp; omega)
      exact hstuck (hbegins.of_prefix hwithin)
  refine ⟨hne, fun c hc => ?_, hpart, hlongest⟩
  have hlength := hlongest _ hc ⟨c, List.prefix_refl _⟩
  have hwithin : encodeChar c <+: p :=
    List.prefix_of_prefix_length_le hc (List.prefix_append p rest) hlength
  rcases hpart with ⟨d, hd⟩ | hone
  · -- one character does not begin another
    obtain ⟨q, hq⟩ := hwithin.trans hd
    obtain rfl := eq_of_encodeChar_append (hq.trans (List.append_nil _).symm)
    exact hwhole (hd.eq_of_length_le hwithin.length_le ▸ isChar_encodeChar c)
  · have heq : encodeChar c = p := hwithin.eq_of_length_le (by
      have := List.length_pos_of_ne_nil (encodeChar_ne_nil c)
      omega)
    exact hwhole (heq ▸ isChar_encodeChar c)

section Reads

variable {a b c : Nat} {rest : List Nat} {s : List Char}

theorem IsChar.reads {p : List Nat} (h : IsChar p) (hrest : Reads rest s) :
    Reads (p ++ rest) (charOf p :: s) := by
  have hreads := hrest.char (charOf p)
  rwa [h.encodeChar_charOf] at hreads

theorem Reads.brokenOne (ha : 0x80 ≤ a) (hstuck : Stuck [a] rest) (hrest : Reads rest s) :
    Reads (a :: rest) (replacement :: s) := by
  refine .broken (p := [a]) (.of_stuck (List.cons_ne_nil _ _) (fun h => ?_) (.inr rfl) hstuck) hrest
  cases h
  omega

theorem Reads.brokenTwo (ha : 0xE0 ≤ a) (ha' : a < 0xF5) (hb : secondFits a b = true)
    (hstuck : Stuck [a, b] rest) (hrest : Reads rest s) :
    Reads (a :: b :: rest) (replacement :: s) := by
  have hbegins : Begins [a, b] := by
    by_cases h : a < 0xF0
    · exact .of_isChar (q := [0x80]) (.three ha h hb rfl)
    · exact .of_isChar (q := [0x80, 0x80]) (.four (by omega) ha' hb rfl rfl)
  refine .broken (p := [a, b])
    (.of_stuck (List.cons_ne_nil _ _) (fun h => ?_) (.inl hbegins) hstuck) hrest
  cases h
  omega

theorem Reads.brokenThree (ha : 0xF0 ≤ a) (ha' : a < 0xF5) (hb : secondFits a b = true)
    (hc : isTail c = true) (hstuck : Stuck [a, b, c] rest) (hrest : Reads rest s) :
    Reads (a :: b :: c :: rest) (replacement :: s) := by
  have hbegins : Begins [a, b, c] := .of_isChar (q := [0x80]) (.four ha ha' hb hc rfl)
  refine .broken (p := [a, b, c])
    (.of_stuck (List.cons_ne_nil _ _) (fun h => ?_) (.inl hbegins) hstuck) hrest
  cases h
  omega

end Reads

/-- By the recursion of `decode`.  Where a byte does not fit, what stands in front of it is the
beginning of a character that this byte does not go on with; at the end of the bytes there is no
byte that could. -/
theorem reads_decode (bs : List Nat) : Reads bs (decode bs) := by
  fun_induction decode bs
  case case1 => exact .nil
  case case2 a r ha ih => exact IsChar.reads (.one ha) ih
  case case3 a ha hlead b r hb ih => exact IsChar.reads (.two (by grind) (by grind) hb) ih
  case case4 a ha hlead b r hb ih =>
    exact .brokenOne (by omega) (fun h => hb h.second.2.2.1) ih
  case case5 | case10 | case17 => exact .brokenOne (by omega) trivial .nil
  case case6 a ha h₂ hlead b hb c r hc ih =>
    exact IsChar.reads (.three (by grind) (by grind) hb hc) ih
  case case7 a ha h₂ hlead b hb c r hc ih =>
    exact .brokenTwo (by grind) (by grind) hb (fun h => hc h.third.2) ih
  case case8 a ha h₂ hlead b hb => exact .brokenTwo (by grind) (by grind) hb trivial .nil
  case case9 a ha h₂ hlead b r hb ih =>
    exact .brokenOne (by omega) (fun h => hb (h.second.2.2.2 (by grind))) ih
  case case11 a ha h₂ h₃ hlead b hb c hc d r hd ih =>
    exact IsChar.reads (.four (by grind) (by grind) hb hc hd) ih
  case case12 a ha h₂ h₃ hlead b hb c hc d r hd ih =>
    exact .brokenThree (by grind) (by grind) hb hc (fun h => hd h.fourth.2) ih
  case case13 a ha h₂ h₃ hlead b hb c hc =>
    exact .brokenThree (by grind) (by grind) hb hc trivial .nil
  case case14 a ha h₂ h₃ hlead b hb c r hc ih =>
    exact .brokenTwo (by grind) (by grind) hb (fun h => hc h.third.2) ih
  case case15 a ha h₂ h₃ hlead b hb => exact .brokenTwo (by grind) (by grind) hb trivial .nil
  case case16 a ha h₂ h₃ hlead b r hb ih =>
    exact .brokenOne (by omega) (fun h => hb (h.second.2.2.2 (by grind))) ih
  case case18 a r ha h₂ h₃ h₄ ih =>
    refine .brokenOne (by omega) ?_ ih
    cases r with
    | nil => trivial
    | cons b r =>
      intro h
      have := h.second
      grind

/-- Where no character stands there is only one beginning at which the bytes can be split. -/
theorem Broken.eq {p p' bs bs' : List Nat} (h : Broken p bs) (h' : Broken p' bs')
    (heq : p ++ bs = p' ++ bs') : p = p' ∧ bs = bs' := by
  have hle : ∀ {p p' bs bs' : List Nat}, Broken p bs → Broken p' bs' → p ++ bs = p' ++ bs' →
      p'.length ≤ p.length := by
    intro p p' bs bs' h h' heq
    rcases h'.part with hbegins | hone
    · exact h.longest p' (heq ▸ List.prefix_append p' bs') hbegins
    · have := List.length_pos_of_ne_nil h.nonempty
      omega
  exact List.append_inj heq (Nat.le_antisymm (hle h' h heq.symm) (hle h h' heq))

/-- By induction on one of the two readings. -/
theorem Reads.unique {bs : List Nat} {s t : List Char} (hs : Reads bs s) (ht : Reads bs t) :
    s = t := by
  induction hs generalizing t with
  | nil =>
    generalize hbs : [] = bs at ht
    cases ht with
    | nil => rfl
    | char d => exact absurd (List.append_eq_nil_iff.1 hbs.symm).1 (encodeChar_ne_nil d)
    | broken hp => exact absurd (List.append_eq_nil_iff.1 hbs.symm).1 hp.nonempty
  | @char c bs s hs ih =>
    generalize hbs : encodeChar c ++ bs = all at ht
    cases ht with
    | nil => exact absurd (List.append_eq_nil_iff.1 hbs).1 (encodeChar_ne_nil c)
    | char d ht =>
      obtain rfl := eq_of_encodeChar_append hbs
      rw [ih (List.append_cancel_left hbs ▸ ht)]
    | broken hp => exact absurd ⟨bs, hbs⟩ (hp.noChar c)
  | @broken p bs s hp hs ih =>
    generalize hbs : p ++ bs = all at ht
    cases ht with
    | nil => exact absurd (List.append_eq_nil_iff.1 hbs).1 hp.nonempty
    | char d => exact absurd ⟨_, hbs.symm⟩ (hp.noChar d)
    | broken hp' ht =>
      obtain ⟨rfl, rfl⟩ := hp.eq hp' hbs
      rw [ih ht]

theorem reads_iff {bs : List Nat} {s : List Char} : Reads bs s ↔ decode bs = s :=
  ⟨(reads_decode bs).unique, fun h => h ▸ reads_decode bs⟩

end TestScribe.Utf8
