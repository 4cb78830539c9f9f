import TestScribe.Proofs.Json.Grammar

/-!
# Beginnings of JSON texts

What is read off the front of a text up to a closing quote or bracket does not depend on what stands
behind it (`readText_extend`, `extends_all`).  So no beginning of the text of an object can be read
(`read?_beginning`).
-/

namespace TestScribe.Json

/-! ## Texts that go on -/

theorem exists_five_of_drop {s : List Char} (h : ¬ (s.drop 4).isEmpty = true) :
    ∃ a b c d x r, s = a :: b :: c :: d :: x :: r := by
  match s with
  | a :: b :: c :: d :: x :: r => exact ⟨a, b, c, d, x, r, rfl⟩
  | [] | [_] | [_, _] | [_, _, _] | [_, _, _, _] => exact absurd rfl h

/-- An escape that breaks off is not read. -/
theorem drop_of_readString {whole n : Nat} {read second : List Char}
    {result : List Char × List Char}
    (h : readString whole n read ('\\' :: 'u' :: second) = .ok result) :
    ¬ (second.drop 4).isEmpty = true := by
  intro hshort
  cases n with
  | zero => cases h
  | succ n =>
    rw [readString.eq_5, if_pos hshort] at h
    cases h

theorem ne_of_readString {whole n : Nat} {read s : List Char} {result : List Char × List Char}
    (h : readString whole n read s = .ok result) : s ≠ ['\\'] := by
  rintro rfl
  cases n <;> cases h

/-- What is read off the front of a text does not depend on what stands behind it.  By induction on
the steps of the reader. -/
theorem readString_extend {whole n : Nat} {read s cs rest : List Char}
    (h : readString whole n read s = .ok (cs, rest)) (whole' : Nat) {m : Nat} (hm : n ≤ m)
    (y : List Char) : readString whole' m read (s ++ y) = .ok (cs, rest ++ y) := by
  fun_induction readString whole n read s generalizing m with
  | case3 n read r =>
    obtain ⟨m, rfl⟩ := Nat.exists_eq_add_of_lt hm
    cases h
    rfl
  | case8 n read s hlong high hunit after second hafter hhigh low hunit' hlow ih =>
    obtain ⟨a, b, c, d, x, r, rfl⟩ := exists_five_of_drop hlong
    obtain ⟨a', b', c', d', x', r', rfl⟩ := exists_five_of_drop (by simpa using hhigh.2.2)
    obtain ⟨rfl, rfl⟩ := List.cons.inj hafter
    obtain ⟨m, rfl⟩ := Nat.exists_eq_add_of_lt hm
    have hread := readString_pair (x := x') (r := r' ++ y) hunit hunit' ⟨hhigh.1, hhigh.2.1⟩ hlow
      whole' (n + m) read
    exact hread.trans (ih h (Nat.le_add_right n m))
  | case9 n read s hlong high hunit after second hafter hhigh low hunit' hlow ih =>
    obtain ⟨a, b, c, d, x, r, rfl⟩ := exists_five_of_drop hlong
    obtain ⟨a', b', c', d', x', r', rfl⟩ := exists_five_of_drop (by simpa using hhigh.2.2)
    obtain ⟨rfl, rfl⟩ := List.cons.inj hafter
    obtain ⟨m, rfl⟩ := Nat.exists_eq_add_of_lt hm
    refine (readString_unit hunit ?_ whole' (n + m) read).trans (ih h (Nat.le_add_right n m))
    rintro _ ⟨⟩
    exact .inr ⟨low, hunit', hlow⟩
  | case10 n read s hlong high hunit after second hafter hnot ih =>
    obtain ⟨a, b, c, d, x, r, rfl⟩ := exists_five_of_drop hlong
    obtain ⟨rfl, rfl⟩ := List.cons.inj hafter
    obtain ⟨a', b', c', d', x', r', rfl⟩ := exists_five_of_drop (drop_of_readString h)
    obtain ⟨m, rfl⟩ := Nat.exists_eq_add_of_lt hm
    refine (readString_unit hunit ?_ whole' (n + m) read).trans (ih h (Nat.le_add_right n m))
    rintro _ ⟨⟩
    exact .inl hnot
  | case11 n read s hlong high hunit after hafter ih =>
    obtain ⟨a, b, c, d, x, r, rfl⟩ := exists_five_of_drop hlong
    obtain ⟨m, rfl⟩ := Nat.exists_eq_add_of_lt hm
    refine (readString_unit hunit ?_ whole' (n + m) read).trans (ih h (Nat.le_add_right n m))
    intro second hsecond
    obtain ⟨rfl, hrest⟩ := List.cons.inj hsecond
    -- a text does not break off behind a backslash, and none of a unit follows
    cases r with
    | nil => exact absurd rfl (ne_of_readString h)
    | cons e r =>
      obtain ⟨rfl, -⟩ := List.cons.inj hrest
      exact absurd rfl (hafter r)
  | case12 n read e r hne d hletter ih =>
    obtain ⟨m, rfl⟩ := Nat.exists_eq_add_of_lt hm
    exact (readString_letter hne hletter whole' (n + m) read (r ++ y)).trans
      (ih h (Nat.le_add_right n m))
  | case15 n read c r hquote hlast hunit hescape hcontrol ih =>
    obtain ⟨m, rfl⟩ := Nat.exists_eq_add_of_lt hm
    have hplain : c ≠ '\\' := by
      rintro rfl
      cases r with
      | nil => exact hlast rfl rfl
      | cons e r => exact hescape e r rfl rfl
    exact (readString_plain hcontrol hquote hplain whole' (n + m) read (r ++ y)).trans
      (ih h (Nat.le_add_right n m))
  | _ => cases h

theorem readText_extend {r rest : List Char} {t : String} (h : readText r = .ok (t, rest))
    (y : List Char) : readText (r ++ y) = .ok (t, rest ++ y) := by
  obtain ⟨⟨cs, after⟩, hread, ⟨⟩⟩ := bind_eq_ok h
  have hlength : r.length + 1 ≤ (r ++ y).length + 1 := by
    rw [List.length_append]
    omega
  unfold readText
  rw [readString_extend hread _ hlength y]
  rfl

/-! ## Scalars -/

/-- What stands at the front of a text shows that the value before it has ended. -/
def Stops (s : List Char) : Prop :=
  ∃ c r, s = c :: r ∧ (c ∈ gapChars ∨ c ∈ [',', ']', '\x7d'])

theorem readScalar_word {word : List Char} {v : Json} (h : (word, v) ∈ constants)
    (rest : List Char) : readScalar (word ++ rest) = .ok (v, rest) := by
  simp only [constants, List.mem_cons, List.not_mem_nil, or_false, Prod.mk.injEq] at h
  rcases h with ⟨rfl, rfl⟩ | ⟨rfl, rfl⟩ | ⟨rfl, rfl⟩ | ⟨rfl, rfl⟩ | ⟨rfl, rfl⟩ | ⟨rfl, rfl⟩ <;> rfl

/-- What is read as a scalar is a word or a number. -/
theorem scalar_of_readScalar {s rest : List Char} {v : Json} (h : readScalar s = .ok (v, rest)) :
    ∃ t, s = t ++ rest ∧ ((t, v) ∈ constants ∨ SpellsNumber v t) := by
  unfold readScalar at h
  split at h
  · next word w hfind =>
    cases h
    have hfront : word.isPrefixOf s = true := by simpa using List.find?_some hfind
    obtain ⟨behind, rfl⟩ := List.isPrefixOf_iff_prefix.1 hfront
    exact ⟨word, by simp, .inl (List.mem_of_find?_eq_some hfind)⟩
  · have hnumber : ∃ negative t,
        s = signOf negative ++ t ∧ readNumber negative t = some (v, rest) := by
      dsimp only at h
      split at h
      · next result hresult =>
        cases h
        split at hresult
        · exact ⟨true, _, rfl, hresult⟩
        · exact ⟨false, s, rfl, hresult⟩
      · cases h
    obtain ⟨negative, _, rfl, hread⟩ := hnumber
    obtain ⟨t, ht, rfl⟩ := spells_of_readNumber hread
    exact ⟨_, (List.append_assoc _ _ _).symm, .inr ht⟩

theorem readScalar_extend {s rest : List Char} {v : Json} (h : readScalar s = .ok (v, rest))
    (hrest : Stops rest) (y : List Char) : readScalar (s ++ y) = .ok (v, rest ++ y) := by
  obtain ⟨t, rfl, hword | hnumber⟩ := scalar_of_readScalar h
  · rw [List.append_assoc]
    exact readScalar_word hword _
  · obtain ⟨c, r, rfl, hc⟩ := hrest
    rw [List.append_assoc]
    apply readScalar_number hnumber
    apply EndsValue.endsNumber
    rintro _ _ ⟨⟩
    exact hc

/-! ## What a reader took -/

theorem ne_nil_of_readValue {n : Nat} {s : List Char} {result : Json × List Char}
    (h : readValue n s = .ok result) : s ≠ [] := by
  rintro rfl
  cases n <;> cases h

theorem readItems_cases {n : Nat} {s rest : List Char} {vs : List Json}
    (h : readItems n s = .ok (vs, rest)) : ∃ m v after, n = m + 1 ∧ readValue m s = .ok (v, after) ∧
      ((skipGap after = ']' :: rest ∧ vs = [v]) ∨
        ∃ more vs', skipGap after = ',' :: more ∧ readItems m (skipGap more) = .ok (vs', rest) ∧
          vs = v :: vs') := by
  cases n with
  | zero => cases h
  | succ n =>
    rw [readItems] at h
    obtain ⟨⟨v, after⟩, hv, h⟩ := bind_eq_ok h
    refine ⟨n, v, after, rfl, hv, ?_⟩
    dsimp only at h
    split at h
    · next hend =>
      cases h
      exact .inl ⟨hend, rfl⟩
    · next more hend =>
      obtain ⟨⟨vs', rest'⟩, hvs, ⟨⟩⟩ := bind_eq_ok h
      exact .inr ⟨more, vs', hend, hvs, rfl⟩
    · cases h

theorem readMembers_cases {n : Nat} {s rest : List Char} {ms : List (String × Json)}
    (h : readMembers n s = .ok (ms, rest)) :
    ∃ m k v after, n = m + 1 ∧ ReadsMember m s k v after ∧
      ((skipGap after = '\x7d' :: rest ∧ ms = [(k, v)]) ∨
        ∃ more ms', skipGap after = ',' :: more ∧ readMembers m (skipGap more) = .ok (ms', rest) ∧
          ms = (k, v) :: ms') := by
  cases n with
  | zero => cases h
  | succ n =>
    rw [readMembers.eq_def] at h
    dsimp only at h
    split at h
    · next t =>
      obtain ⟨⟨k, behind⟩, hk, h⟩ := bind_eq_ok h
      dsimp only at h
      split at h
      · next r hcolon =>
        obtain ⟨⟨v, after⟩, hv, h⟩ := bind_eq_ok h
        refine ⟨n, k, v, after, rfl, ⟨t, behind, r, rfl, hk, hcolon, hv⟩, ?_⟩
        dsimp only at h
        split at h
        · next hend =>
          cases h
          exact .inl ⟨hend, rfl⟩
        · next more hend =>
          obtain ⟨⟨ms', rest'⟩, hms, ⟨⟩⟩ := bind_eq_ok h
          exact .inr ⟨more, ms', hend, hms, rfl⟩
        · cases h
      · cases h
    · cases h

/-- How a value is read. -/
inductive ReadsValue (n : Nat) : List Char → Json → List Char → Prop
  | text {r rest : List Char} {t : String} :
    readText r = .ok (t, rest) → ReadsValue n ('"' :: r) (.str t) rest
  | noElements {r rest : List Char} :
    skipGap r = ']' :: rest → ReadsValue n ('[' :: r) (.arr []) rest
  | array {r rest : List Char} {vs : List Json} :
    readItems n (skipGap r) = .ok (vs, rest) → ReadsValue n ('[' :: r) (.arr vs) rest
  | noMembers {r rest : List Char} :
    skipGap r = '\x7d' :: rest → ReadsValue n ('\x7b' :: r) (.obj []) rest
  | object {r rest : List Char} {ms : List (String × Json)} :
    readMembers n (skipGap r) = .ok (ms, rest) →
    ReadsValue n ('\x7b' :: r) (.obj (Members.ofList ms)) rest
  | scalar {c : Char} {r rest : List Char} {v : Json} :
    c ∉ ['"', '[', '\x7b'] → readScalar (c :: r) = .ok (v, rest) → ReadsValue n (c :: r) v rest

theorem readsValue_of_readValue {n : Nat} {s rest : List Char} {v : Json}
    (h : readValue n s = .ok (v, rest)) : ∃ m, n = m + 1 ∧ ReadsValue m s v rest := by
  cases n with
  | zero => cases h
  | succ n =>
    refine ⟨n, rfl, ?_⟩
    rw [readValue.eq_def] at h
    dsimp only at h
    split at h
    · next r =>
      obtain ⟨⟨t, after⟩, hread, ⟨⟩⟩ := bind_eq_ok h
      exact .text hread
    · next r =>
      split at h
      · next hskip =>
        cases h
        exact .noElements hskip
      · obtain ⟨⟨vs, after⟩, hread, ⟨⟩⟩ := bind_eq_ok h
        exact .array hread
    · next r =>
      split at h
      · next hskip =>
        cases h
        exact .noMembers hskip
      · obtain ⟨⟨ms, after⟩, hread, ⟨⟩⟩ := bind_eq_ok h
        exact .object hread
    · next htext harray hobject =>
      cases s with
      | nil => cases h
      | cons c r =>
        refine .scalar (fun hc => ?_) h
        simp only [List.mem_cons, List.not_mem_nil, or_false] at hc
        rcases hc with rfl | rfl | rfl
        · exact htext r rfl
        · exact harray r rfl
        · exact hobject r rfl

theorem readValue_of_readsValue {n : Nat} {s rest : List Char} {v : Json}
    (h : ReadsValue n s v rest) : readValue (n + 1) s = .ok (v, rest) := by
  cases h with
  | text h => exact readText_value h
  | noElements h => exact readValue_noElements h n
  | array h => exact readValue_array h
  | noMembers h => exact readValue_noMembers h n
  | object h => exact readValue_object h
  | scalar hc h => exact (readValue_scalar hc n _).trans h

/-! ## Extensions -/

theorem skipGap_extend {s : List Char} (h : skipGap s ≠ []) (y : List Char) :
    skipGap (s ++ y) = skipGap s ++ y := by
  unfold skipGap at h ⊢
  rw [List.dropWhile_append, if_neg (by rwa [List.isEmpty_iff])]

theorem skipGap_extend_cons {s r : List Char} {c : Char} (h : skipGap s = c :: r)
    (y : List Char) : skipGap (s ++ y) = c :: (r ++ y) := by
  rw [skipGap_extend (by rw [h]; exact List.cons_ne_nil c r), h, List.cons_append]

theorem stops_of_skipGap {s r : List Char} {c : Char} (h : skipGap s = c :: r)
    (hc : c ∈ [',', ']', '\x7d']) : Stops s := by
  cases s with
  | nil => cases h
  | cons d s =>
    refine ⟨d, s, rfl, ?_⟩
    by_cases hd : d ∈ gapChars
    · exact .inl hd
    · rw [skipGap_cons hd] at h
      obtain ⟨rfl, -⟩ := List.cons.inj h
      exact .inr hc

/-- What is read does not depend on what stands behind it, if it shows where it ends: by its own
last character, or by the character behind it. -/
structure Extends (n : Nat) : Prop where
  value : ∀ {s v rest}, readValue n s = .ok (v, rest) →
    (∃ c r, s = c :: r ∧ c ∈ ['"', '[', '\x7b']) ∨ Stops rest →
    ∀ {m}, n ≤ m → ∀ y, readValue m (s ++ y) = .ok (v, rest ++ y)
  items : ∀ {s vs rest}, readItems n s = .ok (vs, rest) →
    ∀ {m}, n ≤ m → ∀ y, readItems m (s ++ y) = .ok (vs, rest ++ y)
  members : ∀ {s ms rest}, readMembers n s = .ok (ms, rest) →
    ∀ {m}, n ≤ m → ∀ y, readMembers m (s ++ y) = .ok (ms, rest ++ y)

theorem ne_nil_of_readItems {n : Nat} {s : List Char} {result : List Json × List Char}
    (h : readItems n s = .ok result) : s ≠ [] := by
  obtain ⟨m, v, after, -, hv, -⟩ := readItems_cases h
  exact ne_nil_of_readValue hv

theorem ne_nil_of_readMembers {n : Nat} {s : List Char}
    {result : List (String × Json) × List Char} (h : readMembers n s = .ok result) : s ≠ [] := by
  rintro rfl
  cases n <;> cases h

section Extends

variable {n : Nat}

theorem Extends.readsValue (h : Extends n) {s rest : List Char} {v : Json}
    (hread : ReadsValue n s v rest)
    (hends : (∃ c r, s = c :: r ∧ c ∈ ['"', '[', '\x7b']) ∨ Stops rest) {m : Nat} (hm : n ≤ m)
    (y : List Char) : ReadsValue m (s ++ y) v (rest ++ y) := by
  cases hread with
  | text hread => exact .text (readText_extend hread y)
  | noElements hskip => exact .noElements (skipGap_extend_cons hskip y)
  | @array r rest vs hread =>
    apply ReadsValue.array
    rw [List.append_eq, skipGap_extend (ne_nil_of_readItems hread)]
    exact h.items hread hm y
  | noMembers hskip => exact .noMembers (skipGap_extend_cons hskip y)
  | @object r rest ms hread =>
    apply ReadsValue.object
    rw [List.append_eq, skipGap_extend (ne_nil_of_readMembers hread)]
    exact h.members hread hm y
  | @scalar c r rest v hc hread =>
    refine .scalar hc (readScalar_extend hread (hends.resolve_left ?_) y)
    rintro ⟨_, _, ⟨⟩, hmem⟩
    exact hc hmem

theorem Extends.readsMember (h : Extends n) {s after : List Char} {k : String} {v : Json}
    (hread : ReadsMember n s k v after) (hstops : Stops after) {m : Nat} (hm : n ≤ m)
    (y : List Char) : ReadsMember m (s ++ y) k v (after ++ y) := by
  obtain ⟨t, behind, r, rfl, hk, hcolon, hv⟩ := hread
  refine ⟨t ++ y, behind ++ y, r ++ y, rfl, readText_extend hk y, skipGap_extend_cons hcolon y, ?_⟩
  rw [skipGap_extend (ne_nil_of_readValue hv)]
  exact h.value hv (.inr hstops) hm y

end Extends

/-- By induction on the steps. -/
theorem extends_all (n : Nat) : Extends n := by
  induction n with
  | zero =>
    constructor
    case value => rintro _ _ _ ⟨⟩
    case items => rintro _ _ _ ⟨⟩
    case members => rintro _ _ _ ⟨⟩
  | succ n ih =>
    constructor
    case value =>
      intro s v rest h hends m hm y
      obtain ⟨_, ⟨⟩, hread⟩ := readsValue_of_readValue h
      obtain ⟨m, rfl⟩ := Nat.exists_eq_add_of_lt hm
      exact readValue_of_readsValue (ih.readsValue hread hends (Nat.le_add_right n m) y)
    case items =>
      intro s vs rest h m hm y
      obtain ⟨_, v, after, ⟨⟩, hv, hcases⟩ := readItems_cases h
      obtain ⟨m, rfl⟩ := Nat.exists_eq_add_of_lt hm
      have hle : n ≤ n + m := Nat.le_add_right n m
      obtain ⟨hend, rfl⟩ | ⟨more, vs, hend, hvs, rfl⟩ := hcases
      · have hstops := stops_of_skipGap hend (by decide)
        exact readItems_last (ih.value hv (.inr hstops) hle y) (skipGap_extend_cons hend y)
      · have hstops := stops_of_skipGap hend (by decide)
        apply readItems_more (ih.value hv (.inr hstops) hle y) (skipGap_extend_cons hend y)
        rw [skipGap_extend (ne_nil_of_readItems hvs)]
        exact ih.items hvs hle y
    case members =>
      intro s ms rest h m hm y
      obtain ⟨_, k, v, after, ⟨⟩, hmember, hcases⟩ := readMembers_cases h
      obtain ⟨m, rfl⟩ := Nat.exists_eq_add_of_lt hm
      have hle : n ≤ n + m := Nat.le_add_right n m
      obtain ⟨hend, rfl⟩ | ⟨more, ms, hend, hms, rfl⟩ := hcases
      · have hstops := stops_of_skipGap hend (by decide)
        exact readMembers_last (ih.readsMember hmember hstops hle y) (skipGap_extend_cons hend y)
      · have hstops := stops_of_skipGap hend (by decide)
        apply readMembers_more (ih.readsMember hmember hstops hle y) (skipGap_extend_cons hend y)
        rw [skipGap_extend (ne_nil_of_readMembers hms)]
        exact ih.members hms hle y

/-! ## Beginnings -/

theorem exists_read_of_read? {s : List Char} {v : Json} (h : read? (String.ofList s) = some v) :
    ∃ rest, readValue ((skipGap s).length + 1) (skipGap s) = .ok (v, rest) ∧ skipGap rest = [] := by
  unfold read? read at h
  rw [String.toList_ofList] at h
  dsimp only at h
  split at h
  · cases h
  · cases hall : readAll s with
    | error e =>
      rw [hall] at h
      cases h
    | ok w =>
      rw [hall] at h
      cases h
      obtain ⟨⟨w, rest⟩, hread, hend⟩ := bind_eq_ok hall
      dsimp only at hend
      split at hend
      · next hrest =>
        cases hend
        exact ⟨rest, hread, hrest⟩
      · cases hend

/-- No beginning of an object's text can be read: what is read off it is all that can be read off
the whole text, and the rest of the text would be left. -/
theorem read?_beginning {ms : Members} {p q : List Char}
    (h : Spells (.value (.obj ms)) ('\x7b' :: p ++ q)) (hq : q ≠ []) :
    read? (String.ofList ('\x7b' :: p)) = none := by
  rw [Option.eq_none_iff_forall_ne_some]
  intro v hv
  obtain ⟨rest, hbeginning, -⟩ := exists_read_of_read? hv
  rw [skipGap_cons (by decide)] at hbeginning
  have hextended := (extends_all _).value hbeginning (.inl ⟨_, _, rfl, by decide⟩)
    (Nat.le_add_right _ q.length) q
  have hwhole := isRead_of_spells h (('\x7b' :: p).length + 1 + q.length) []
    (by rw [List.length_append]; omega) (by rintro _ _ ⟨⟩)
  rw [List.append_nil, hextended] at hwhole
  obtain ⟨-, hrest⟩ := Prod.mk.inj (Except.ok.inj hwhole)
  exact hq (List.append_eq_nil_iff.1 hrest).2

end TestScribe.Json
