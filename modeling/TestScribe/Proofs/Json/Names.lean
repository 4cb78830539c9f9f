import TestScribe.Proofs.Json.Beginnings
import TestScribe.Proofs.Json.Members

/-!
# Names in a value that is read

However often a text says the same name, in the value that is read off it every object holds each
name once (`holdsOnce_of_read?`), and so does every value inside of it (`HoldsOnce.get?`).
-/

namespace TestScribe

/-! ## Members of an object -/

namespace Members

theorem mem_of_get?_eq_some {ms : Members} {key : String} {v : Json} (h : ms.get? key = some v) :
    (key, v) ∈ ms := by
  induction ms with
  | nil => cases h
  | cons m ms ih =>
    obtain ⟨k, w⟩ := m
    rw [get?] at h
    split_ifs at h with hk
    · subst hk
      obtain rfl := Option.some.inj h
      exact List.mem_cons_self
    · exact List.mem_cons_of_mem _ (ih h)

theorem mem_set {ms : Members} {key : String} {v : Json} {m : String × Json}
    (h : m ∈ ms.set key v) : m ∈ ms ∨ m = (key, v) := by
  induction ms with
  | nil => exact .inr (List.mem_singleton.1 h)
  | cons m' ms ih =>
    obtain ⟨k, w⟩ := m'
    rw [set] at h
    split_ifs at h with hk
    · subst hk
      exact (List.mem_cons.1 h).symm.imp_left (List.mem_cons_of_mem _)
    · rcases List.mem_cons.1 h with rfl | h
      · exact .inl List.mem_cons_self
      · exact (ih h).imp_left (List.mem_cons_of_mem _)

theorem mem_merge {ms extra : Members} {m : String × Json} (h : m ∈ ms.merge extra) :
    m ∈ ms ∨ m ∈ extra := by
  induction extra generalizing ms with
  | nil => exact .inl h
  | cons m' extra ih =>
    rcases ih h with h | h
    · rcases mem_set h with h | rfl
      · exact .inl h
      · exact .inr List.mem_cons_self
    · exact .inr (List.mem_cons_of_mem _ h)

theorem mem_ofList {pairs : List (String × Json)} {m : String × Json} (h : m ∈ ofList pairs) :
    m ∈ pairs :=
  (mem_merge h).resolve_left List.not_mem_nil

end Members

namespace Json

/-! ## Values that hold each name once -/

/-- A value in which every object holds each name once. -/
inductive HoldsOnce : Json → Prop
  | null : HoldsOnce .null
  | bool (b : Bool) : HoldsOnce (.bool b)
  | int (n : Int) : HoldsOnce (.int n)
  | float (x : Float) : HoldsOnce (.float x)
  | str (t : String) : HoldsOnce (.str t)
  | arr {vs : List Json} : (∀ v ∈ vs, HoldsOnce v) → HoldsOnce (.arr vs)
  | obj {ms : Members} :
    (ms.map (·.1)).Nodup → (∀ m ∈ ms, HoldsOnce m.2) → HoldsOnce (.obj ms)

theorem HoldsOnce.nodup {ms : Members} (h : HoldsOnce (.obj ms)) : (ms.map (·.1)).Nodup := by
  cases h with
  | obj hnames _ => exact hnames

theorem HoldsOnce.get? {ms : Members} (h : HoldsOnce (.obj ms)) {key : String} {v : Json}
    (hv : ms.get? key = some v) : HoldsOnce v := by
  cases h with
  | obj _ hvalues => exact hvalues _ (Members.mem_of_get?_eq_some hv)

theorem HoldsOnce.member {v w : Json} (h : HoldsOnce v) {key : String}
    (hw : v.get? key = some w) : HoldsOnce w := by
  cases v with
  | obj ms => exact h.get? hw
  | _ => cases hw

theorem holdsOnce_ofList {pairs : List (String × Json)} (h : ∀ m ∈ pairs, HoldsOnce m.2) :
    HoldsOnce (.obj (Members.ofList pairs)) :=
  .obj (Members.nodup_ofList pairs) fun m hm => h m (Members.mem_ofList hm)

/-! ## Readers -/

theorem holdsOnce_of_readScalar {s rest : List Char} {v : Json}
    (h : readScalar s = .ok (v, rest)) : HoldsOnce v := by
  obtain ⟨t, -, hword | hnumber⟩ := scalar_of_readScalar h
  · simp only [constants, List.mem_cons, List.not_mem_nil, or_false, Prod.mk.injEq] at hword
    rcases hword with ⟨-, rfl⟩ | ⟨-, rfl⟩ | ⟨-, rfl⟩ | ⟨-, rfl⟩ | ⟨-, rfl⟩ | ⟨-, rfl⟩ <;>
      constructor
  · cases hnumber
    unfold numberOf
    split
    · exact .int _
    · exact .float _

/-- What is read with `n` steps holds each name once. -/
structure ReadsOnce (n : Nat) : Prop where
  value : ∀ {s v rest}, readValue n s = .ok (v, rest) → HoldsOnce v
  items : ∀ {s vs rest}, readItems n s = .ok (vs, rest) → ∀ v ∈ vs, HoldsOnce v
  members : ∀ {s ms rest}, readMembers n s = .ok (ms, rest) → ∀ m ∈ ms, HoldsOnce m.2

/-- By induction on the steps. -/
theorem readsOnce_all (n : Nat) : ReadsOnce n := by
  induction n with
  | zero =>
    constructor
    case value => rintro _ _ _ ⟨⟩
    case items => rintro _ _ _ ⟨⟩
    case members => rintro _ _ _ ⟨⟩
  | succ n ih =>
    constructor
    case value =>
      intro s v rest h
      obtain ⟨_, ⟨⟩, hread⟩ := readsValue_of_readValue h
      cases hread with
      | text _ => exact .str _
      | noElements _ => exact .arr fun v hv => absurd hv List.not_mem_nil
      | array hitems => exact .arr (ih.items hitems)
      | noMembers _ => exact .obj List.nodup_nil fun m hm => absurd hm List.not_mem_nil
      | object hmembers => exact holdsOnce_ofList (ih.members hmembers)
      | scalar _ hscalar => exact holdsOnce_of_readScalar hscalar
    case items =>
      intro s vs rest h
      obtain ⟨_, v, after, ⟨⟩, hv, ⟨-, rfl⟩ | ⟨more, vs, -, hvs, rfl⟩⟩ := readItems_cases h
      · exact List.forall_mem_singleton.2 (ih.value hv)
      · exact List.forall_mem_cons.2 ⟨ih.value hv, ih.items hvs⟩
    case members =>
      intro s ms rest h
      obtain ⟨_, k, v, after, ⟨⟩, ⟨_, _, _, -, -, -, hv⟩, ⟨-, rfl⟩ | ⟨more, ms, -, hms, rfl⟩⟩ :=
        readMembers_cases h
      · exact List.forall_mem_singleton.2 (ih.value hv)
      · exact List.forall_mem_cons.2 ⟨ih.value hv, ih.members hms⟩

theorem holdsOnce_of_read? {text : String} {v : Json} (h : read? text = some v) : HoldsOnce v := by
  rw [← String.ofList_toList (s := text)] at h
  obtain ⟨rest, hread, -⟩ := exists_read_of_read? h
  exact (readsOnce_all _).value hread

end Json

end TestScribe
