import TestScribe.Proofs.Json.Numbers
import TestScribe.Proofs.Json.Texts

/-!
# The grammar of JSON

The grammar of values says which texts stand for a value (`Spells`).  The reader knows it: a text
that stands for a value, with gaps around it, is read as that value (`read?_of_spells`).  Of members
with the same name the last value counts.
-/

namespace TestScribe.Json

/-! ## The grammar -/

/-- The characters that may stand between the parts of a value. -/
def gapChars : List Char :=
  [' ', '\n', '\t', '\r']

/-- Nothing but what may stand between the parts of a value. -/
def IsGap (s : List Char) : Prop :=
  ∀ c ∈ s, c ∈ gapChars

instance (s : List Char) : Decidable (IsGap s) :=
  inferInstanceAs (Decidable (∀ c ∈ s, c ∈ gapChars))

/-- What a part of a text stands for: a value, a value with gaps around it, the elements of an array
that has any, a member of an object, or the members of an object that has any. -/
inductive Part
  | value (v : Json)
  | element (v : Json)
  | elements (vs : List Json)
  | member (name : String) (v : Json)
  | members (ms : List (String × Json))

/-- How a part stands in a text. -/
inductive Spells : Part → List Char → Prop
  | null : Spells (.value .null) "null".toList
  | true : Spells (.value (.bool true)) "true".toList
  | false : Spells (.value (.bool false)) "false".toList
  | number {v : Json} {s : List Char} : SpellsNumber v s → Spells (.value v) s
  | text {t : String} {s : List Char} : SpellsText t s → Spells (.value (.str t)) s
  | noElements {g : List Char} : IsGap g → Spells (.value (.arr [])) ('[' :: g ++ [']'])
  | array {vs : List Json} {s : List Char} :
    Spells (.elements vs) s → Spells (.value (.arr vs)) ('[' :: s ++ [']'])
  | noMembers {g : List Char} : IsGap g → Spells (.value (.obj [])) ('\x7b' :: g ++ ['\x7d'])
  | object {ms : List (String × Json)} {s : List Char} :
    Spells (.members ms) s → Spells (.value (.obj (Members.ofList ms))) ('\x7b' :: s ++ ['\x7d'])
  | element {v : Json} {g s g' : List Char} :
    IsGap g → Spells (.value v) s → IsGap g' → Spells (.element v) (g ++ (s ++ g'))
  | lastElement {v : Json} {s : List Char} : Spells (.element v) s → Spells (.elements [v]) s
  | moreElements {v : Json} {vs : List Json} {s s' : List Char} :
    Spells (.element v) s → Spells (.elements vs) s' → Spells (.elements (v :: vs)) (s ++ ',' :: s')
  | member {k : String} {v : Json} {g t g' s : List Char} :
    IsGap g → SpellsText k t → IsGap g' → Spells (.element v) s →
    Spells (.member k v) (g ++ (t ++ (g' ++ ':' :: s)))
  | lastMember {k : String} {v : Json} {s : List Char} :
    Spells (.member k v) s → Spells (.members [(k, v)]) s
  | moreMembers {k : String} {v : Json} {ms : List (String × Json)} {s s' : List Char} :
    Spells (.member k v) s → Spells (.members ms) s' →
    Spells (.members ((k, v) :: ms)) (s ++ ',' :: s')

/-! ## Gaps -/

theorem isGap_iff (c : Char) : isGap c = true ↔ c ∈ gapChars := by
  simp [isGap, gapChars, or_assoc]

theorem isGap_nil : IsGap [] := fun _ hc => absurd hc List.not_mem_nil

/-- A value may stand without gaps. -/
theorem element_of_value {v : Json} {s : List Char} (h : Spells (.value v) s) :
    Spells (.element v) s := by
  have helement := Spells.element isGap_nil h isGap_nil
  rwa [List.nil_append, List.append_nil] at helement

theorem skipGap_append {g : List Char} (h : IsGap g) (s : List Char) :
    skipGap (g ++ s) = skipGap s :=
  List.dropWhile_append_of_pos fun c hc => (isGap_iff c).2 (h c hc)

theorem skipGap_cons {c : Char} (h : c ∉ gapChars) (r : List Char) :
    skipGap (c :: r) = c :: r :=
  List.dropWhile_cons_of_neg (mt (isGap_iff c).1 h)

theorem length_skipGap_le (s : List Char) : (skipGap s).length ≤ s.length :=
  (List.dropWhile_suffix _).length_le

theorem bracketed_append (a b : Char) (s rest : List Char) :
    a :: s ++ [b] ++ rest = a :: (s ++ b :: rest) := by
  simp

/-! ## Values that are read by their first character -/

/-- A character with which no value begins. -/
theorem readValue_stop {c : Char} (h : c = ']' ∨ c = '\uFEFF') (n : Nat) (r : List Char) :
    readValue n (c :: r) = stop .value (c :: r) := by
  rcases h with rfl | rfl <;> cases n <;> rfl

theorem readText_value {n : Nat} {r rest : List Char} {t : String}
    (h : readText r = .ok (t, rest)) :
    readValue (n + 1) ('"' :: r) = .ok (.str t, rest) := by
  rw [readValue.eq_2, h]
  rfl

theorem readValue_noElements {r rest : List Char} (h : skipGap r = ']' :: rest) (n : Nat) :
    readValue (n + 1) ('[' :: r) = .ok (.arr [], rest) := by
  rw [readValue]
  simp only [h]

theorem readValue_noMembers {r rest : List Char} (h : skipGap r = '\x7d' :: rest) (n : Nat) :
    readValue (n + 1) ('\x7b' :: r) = .ok (.obj [], rest) := by
  rw [readValue]
  simp only [h]

theorem readValue_array {n : Nat} {r rest : List Char} {vs : List Json}
    (h : readItems n (skipGap r) = .ok (vs, rest)) :
    readValue (n + 1) ('[' :: r) = .ok (.arr vs, rest) := by
  rw [readValue]
  split
  · next after heq =>
    -- elements do not begin with a bracket
    rw [heq] at h
    cases n with
    | zero => cases h
    | succ n =>
      rw [readItems, readValue_stop (.inl rfl)] at h
      cases h
  · rw [h]
    rfl

theorem readValue_object {n : Nat} {r rest : List Char} {ms : List (String × Json)}
    (h : readMembers n (skipGap r) = .ok (ms, rest)) :
    readValue (n + 1) ('\x7b' :: r) = .ok (.obj (Members.ofList ms), rest) := by
  rw [readValue]
  split
  · next after heq =>
    rw [heq] at h
    cases n with
    | zero => cases h
    | succ n => cases h
  · rw [h]
    rfl

theorem readItems_last {n : Nat} {s after rest : List Char} {v : Json}
    (hv : readValue n s = .ok (v, after)) (hend : skipGap after = ']' :: rest) :
    readItems (n + 1) s = .ok ([v], rest) := by
  rw [readItems, hv]
  simp only [bind, Except.bind, hend]
  rfl

theorem readItems_more {n : Nat} {s after more rest : List Char} {v : Json} {vs : List Json}
    (hv : readValue n s = .ok (v, after)) (hend : skipGap after = ',' :: more)
    (hvs : readItems n (skipGap more) = .ok (vs, rest)) :
    readItems (n + 1) s = .ok (v :: vs, rest) := by
  rw [readItems, hv]
  simp only [bind, Except.bind, hend, hvs]
  rfl

/-- A member is read off the front of a text, and leaves `after`. -/
def ReadsMember (n : Nat) (s : List Char) (k : String) (v : Json) (after : List Char) : Prop :=
  ∃ t behind r, s = '"' :: t ∧ readText t = .ok (k, behind) ∧ skipGap behind = ':' :: r ∧
    readValue n (skipGap r) = .ok (v, after)

theorem readMembers_last {n : Nat} {s after rest : List Char} {k : String} {v : Json}
    (h : ReadsMember n s k v after) (hend : skipGap after = '\x7d' :: rest) :
    readMembers (n + 1) s = .ok ([(k, v)], rest) := by
  obtain ⟨t, behind, r, rfl, hk, hcolon, hv⟩ := h
  rw [readMembers, hk]
  simp only [bind, Except.bind, hcolon, hv, hend]
  rfl

theorem readMembers_more {n : Nat} {s after more rest : List Char} {k : String} {v : Json}
    {ms : List (String × Json)} (h : ReadsMember n s k v after)
    (hend : skipGap after = ',' :: more) (hms : readMembers n (skipGap more) = .ok (ms, rest)) :
    readMembers (n + 1) s = .ok ((k, v) :: ms, rest) := by
  obtain ⟨t, behind, r, rfl, hk, hcolon, hv⟩ := h
  rw [readMembers, hk]
  simp only [bind, Except.bind, hcolon, hv, hend, hms]
  rfl

/-! ## Words and numbers -/

/-- What stands at the front of a text, if anything does, can stand behind a value. -/
def EndsValue (s : List Char) : Prop :=
  ∀ c r, s = c :: r → c ∈ gapChars ∨ c ∈ [',', ']', '\x7d']

theorem EndsValue.endsNumber {s : List Char} (h : EndsValue s) : EndsNumber s := by
  have hends : ∀ c ∈ gapChars ++ [',', ']', '\x7d'], isDigit c = false ∧ c ≠ '.' ∧ ¬ IsMark c := by
    decide
  exact fun c r hs => hends c (List.mem_append.2 (h c r hs))

theorem readValue_scalar {c : Char} (h : c ∉ ['"', '[', '\x7b']) (n : Nat) (r : List Char) :
    readValue (n + 1) (c :: r) = readScalar (c :: r) := by
  apply readValue.eq_5
  · rintro rest ⟨⟩
    exact h (by decide)
  · rintro rest ⟨⟩
    exact h (by decide)
  · rintro rest ⟨⟩
    exact h (by decide)

/-- A digit, alone or behind a sign, begins none of the words. -/
theorem find?_constants {c : Char} (hc : isDigit c = true) (negative : Bool) (r : List Char) :
    (constants.find? fun w => w.1.isPrefixOf (signOf negative ++ c :: r)) = none := by
  have hne : ∀ d, isDigit d = false → (d == c) = false := by
    intro d hd
    rw [beq_eq_false_iff_ne]
    rintro rfl
    rw [hc] at hd
    cases hd
  cases negative with
  | true => simp [constants, signOf, List.isPrefixOf, hne 'I' rfl]
  | false =>
    simp [constants, signOf, List.isPrefixOf, hne 'n' rfl, hne 't' rfl, hne 'f' rfl, hne 'N' rfl,
      hne 'I' rfl, hne '-' rfl]

theorem readScalar_number {v : Json} {s rest : List Char} (h : SpellsNumber v s)
    (hrest : EndsNumber rest) : readScalar (s ++ rest) = .ok (v, rest) := by
  cases h with
  | @intro negative whole fraction f e exponent hwhole hfraction hexponent =>
    have hread := readNumber_append negative hwhole hfraction hexponent hrest
    obtain ⟨c, r, rfl, hc⟩ := hwhole.exists_cons
    have htext : signOf negative ++ (c :: r ++ (f ++ e)) ++ rest =
        signOf negative ++ (c :: r ++ (f ++ (e ++ rest))) := by
      simp
    rw [htext]
    cases negative with
    | true =>
      have hword : (constants.find? fun w =>
          w.1.isPrefixOf ('-' :: (c :: r ++ (f ++ (e ++ rest))))) = none :=
        find?_constants hc true _
      show readScalar ('-' :: (c :: r ++ (f ++ (e ++ rest)))) = _
      rw [readScalar.eq_1, hword]
      simp only [hread]
    | false =>
      have hword : (constants.find? fun w =>
          w.1.isPrefixOf (c :: r ++ (f ++ (e ++ rest)))) = none :=
        find?_constants hc false _
      show readScalar (c :: r ++ (f ++ (e ++ rest))) = _
      rw [readScalar.eq_2, hword]
      · simp only [hread]
      · rintro t ⟨⟩
        cases hc

/-- What a number begins with. -/
theorem exists_cons_of_number {v : Json} {s : List Char} (h : SpellsNumber v s) :
    ∃ c r, s = c :: r ∧ (c = '-' ∨ isDigit c = true) := by
  cases h with
  | @intro negative whole fraction f e exponent hwhole =>
    obtain ⟨c, r, rfl, hc⟩ := hwhole.exists_cons
    cases negative with
    | true => exact ⟨'-', _, rfl, .inl rfl⟩
    | false => exact ⟨c, _, rfl, .inr hc⟩

/-- A value begins with its first character, not with a gap. -/
theorem skipGap_value {v : Json} {s : List Char} (h : Spells (.value v) s) (rest : List Char) :
    skipGap (s ++ rest) = s ++ rest := by
  have hgap : ∀ c ∈ gapChars, c ≠ '-' ∧ isDigit c = false := by decide
  cases h with
  | null => exact skipGap_cons (by decide) _
  | true => exact skipGap_cons (by decide) _
  | false => exact skipGap_cons (by decide) _
  | number hnumber =>
    obtain ⟨c, r, rfl, hc⟩ := exists_cons_of_number hnumber
    refine skipGap_cons (fun hmem => ?_) _
    obtain ⟨hminus, hdigit⟩ := hgap c hmem
    rcases hc with hc | hc
    · exact hminus hc
    · rw [hdigit] at hc
      cases hc
  | text ht =>
    cases ht
    exact skipGap_cons (by decide) _
  | noElements _ => exact skipGap_cons (by decide) _
  | array _ => exact skipGap_cons (by decide) _
  | noMembers _ => exact skipGap_cons (by decide) _
  | object _ => exact skipGap_cons (by decide) _

/-! ## Reading -/

/-- What stands at the front of a text, if anything does, stands behind a value and its gap. -/
def Closes (s : List Char) : Prop :=
  ∀ c r, s = c :: r → c ∈ [',', ']', '\x7d']

/-- How a part is read, given as many steps as it has characters. -/
def IsRead : Part → List Char → Prop
  | .value v, s => ∀ n rest, s.length ≤ n → EndsValue rest →
    readValue n (s ++ rest) = .ok (v, rest)
  | .element v, s => ∀ n rest, (skipGap s).length ≤ n → Closes rest →
    ∃ after, readValue n (skipGap (s ++ rest)) = .ok (v, after) ∧ skipGap after = rest
  | .elements vs, s => ∀ n rest, s.length < n →
    readItems n (skipGap (s ++ ']' :: rest)) = .ok (vs, rest)
  | .member k v, s => ∀ n rest, s.length ≤ n → Closes rest →
    ∃ after, ReadsMember n (skipGap (s ++ rest)) k v after ∧ skipGap after = rest
  | .members ms, s => ∀ n rest, s.length < n →
    readMembers n (skipGap (s ++ '\x7d' :: rest)) = .ok (ms, rest)

theorem EndsValue.of_closes {g rest : List Char} (hg : IsGap g) (h : Closes rest) :
    EndsValue (g ++ rest) := by
  intro c r hcons
  cases g with
  | nil => exact .inr (h c r hcons)
  | cons d g =>
    obtain ⟨rfl, -⟩ := List.cons.inj hcons
    exact .inl (hg _ List.mem_cons_self)

theorem skipGap_closes {g rest : List Char} (hg : IsGap g) (h : Closes rest) :
    skipGap (g ++ rest) = rest := by
  have hgap : ∀ c ∈ [',', ']', '\x7d'], c ∉ gapChars := by decide
  rw [skipGap_append hg]
  cases rest with
  | nil => rfl
  | cons c r => exact skipGap_cons (hgap c (h c r rfl)) r

theorem closes_cons {c : Char} (h : c ∈ [',', ']', '\x7d']) (r : List Char) : Closes (c :: r) := by
  rintro _ _ ⟨⟩
  exact h

theorem isRead_number {v : Json} {s : List Char} (h : SpellsNumber v s) : IsRead (.value v) s := by
  obtain ⟨c, r, rfl, hc⟩ := exists_cons_of_number h
  rintro (_ | n) rest hn hrest
  · cases hn
  · have hscalar := readScalar_number h hrest.endsNumber
    have hstart : ∀ d ∈ ['"', '[', '\x7b'], d ≠ '-' ∧ isDigit d = false := by decide
    rw [List.cons_append] at hscalar ⊢
    rw [readValue_scalar (fun hmem => ?_), hscalar]
    obtain ⟨hminus, hdigit⟩ := hstart c hmem
    rcases hc with hc | hc
    · exact hminus hc
    · rw [hdigit] at hc
      cases hc

theorem isRead_element {v : Json} {g s g' : List Char} (hg : IsGap g) (hv : Spells (.value v) s)
    (hg' : IsGap g') (h : IsRead (.value v) s) : IsRead (.element v) (g ++ (s ++ g')) := by
  intro n rest hn hrest
  have hlength : s.length ≤ n := by
    rw [skipGap_append hg, skipGap_value hv, List.length_append] at hn
    omega
  refine ⟨g' ++ rest, ?_, skipGap_closes hg' hrest⟩
  rw [List.append_assoc, List.append_assoc, skipGap_append hg, skipGap_value hv]
  exact h n (g' ++ rest) hlength (.of_closes hg' hrest)

theorem isRead_member {k : String} {v : Json} {g t g' s : List Char} (hg : IsGap g)
    (hk : SpellsText k t) (hg' : IsGap g') (h : IsRead (.element v) s) :
    IsRead (.member k v) (g ++ (t ++ (g' ++ ':' :: s))) := by
  intro n rest hn hrest
  have hlength : (skipGap s).length ≤ n := by
    have hle := length_skipGap_le s
    simp only [List.length_append, List.length_cons] at hn
    omega
  have hcolon : skipGap (g' ++ ':' :: (s ++ rest)) = ':' :: (s ++ rest) :=
    (skipGap_append hg' _).trans (skipGap_cons (by decide) _)
  obtain ⟨after, hread, hafter⟩ := h n rest hlength hrest
  cases hk with
  | @intro s' hs =>
    refine ⟨after, ⟨s' ++ '"' :: (g' ++ ':' :: (s ++ rest)), _, _, ?_, readText_append hs _, hcolon,
      hread⟩, hafter⟩
    rw [List.append_assoc, skipGap_append hg]
    simp [skipGap_cons (by decide : '"' ∉ gapChars)]

/-- By induction on how the part stands in the text. -/
theorem isRead_of_spells {p : Part} {s : List Char} (h : Spells p s) : IsRead p s := by
  induction h with
  | null =>
    rintro (_ | n) rest hn -
    · cases hn
    · rfl
  | true =>
    rintro (_ | n) rest hn -
    · cases hn
    · rfl
  | false =>
    rintro (_ | n) rest hn -
    · cases hn
    · rfl
  | number hnumber => exact isRead_number hnumber
  | text ht =>
    cases ht with
    | @intro s hs =>
      rintro (_ | n) rest hn -
      · cases hn
      · rw [bracketed_append]
        exact readText_value (readText_append hs rest)
  | noElements hg =>
    rintro (_ | n) rest hn -
    · cases hn
    · rw [bracketed_append]
      exact readValue_noElements ((skipGap_append hg _).trans (skipGap_cons (by decide) rest)) n
  | @array vs s h ih =>
    rintro (_ | n) rest hn -
    · cases hn
    · rw [bracketed_append]
      apply readValue_array
      apply ih
      simp only [List.length_append, List.length_cons] at hn
      omega
  | noMembers hg =>
    rintro (_ | n) rest hn -
    · cases hn
    · rw [bracketed_append]
      exact readValue_noMembers ((skipGap_append hg _).trans (skipGap_cons (by decide) rest)) n
  | @object ms s h ih =>
    rintro (_ | n) rest hn -
    · cases hn
    · rw [bracketed_append]
      apply readValue_object
      apply ih
      simp only [List.length_append, List.length_cons] at hn
      omega
  | element hg hv hg' ih => exact isRead_element hg hv hg' ih
  | lastElement h ih =>
    rintro (_ | n) rest hn
    · cases hn
    · obtain ⟨after, hread, hafter⟩ := ih n (']' :: rest)
        ((length_skipGap_le _).trans (Nat.le_of_lt_succ hn)) (closes_cons (by decide) rest)
      exact readItems_last hread hafter
  | @moreElements v vs s s' h h' ih ih' =>
    rintro (_ | n) rest hn
    · cases hn
    · rw [List.length_append, List.length_cons] at hn
      rw [List.append_assoc, List.cons_append]
      obtain ⟨after, hread, hafter⟩ := ih n (',' :: (s' ++ ']' :: rest))
        ((length_skipGap_le _).trans (by omega)) (closes_cons (by decide) _)
      exact readItems_more hread hafter (ih' n rest (by omega))
  | member hg hk hg' _ ih => exact isRead_member hg hk hg' ih
  | lastMember h ih =>
    rintro (_ | n) rest hn
    · cases hn
    · obtain ⟨after, hread, hafter⟩ := ih n ('\x7d' :: rest) (Nat.le_of_lt_succ hn)
        (closes_cons (by decide) rest)
      exact readMembers_last hread hafter
  | @moreMembers k v ms s s' h h' ih ih' =>
    rintro (_ | n) rest hn
    · cases hn
    · rw [List.length_append, List.length_cons] at hn
      rw [List.append_assoc, List.cons_append]
      obtain ⟨after, hread, hafter⟩ := ih n (',' :: (s' ++ '\x7d' :: rest)) (by omega)
        (closes_cons (by decide) _)
      exact readMembers_more hread hafter (ih' n rest (by omega))

/-- A text that stands for a value, with gaps around it, is read as that value. -/
theorem read?_of_spells {v : Json} {s : List Char} (h : Spells (.element v) s) :
    read? (String.ofList s) = some v := by
  obtain ⟨after, hread, hafter⟩ := isRead_of_spells h ((skipGap s).length + 1) []
    (Nat.le_succ _) (by rintro _ _ ⟨⟩)
  rw [List.append_nil] at hread
  have hall : readAll s = .ok v := by
    unfold readAll
    simp only [bind, Except.bind, hread, hafter]
    rfl
  unfold read? read
  rw [String.toList_ofList]
  dsimp only
  split
  · next r =>
    -- no value begins with a byte order mark
    rw [skipGap_cons (by decide), readValue_stop (.inr rfl)] at hread
    cases hread
  · rw [hall]
    rfl

end TestScribe.Json
