import Mathlib.Data.List.Forall2
import Mathlib.Data.List.Pairwise
import Mathlib.Data.Option.Basic
import TestScribe.Wire.Checked

/-!
# Fields in either spelling

An object is respelled when some of its fields stand under the other of their two names.  A field is
found in the one object as in the other (`Respelled.find?_rel`), and so what is read from it is the
same (`field_alike` and its companions), as long as no object holds both names of a field.
-/

namespace TestScribe.Wire

/-! ## Readings that agree -/

namespace Checked

variable {α β : Type}

/-- Two readings give the same value, or both none. -/
def Alike (x y : Checked α) : Prop :=
  x.toOption = y.toOption

theorem toOption_eq_some_iff {x : Checked α} {a : α} : x.toOption = some a ↔ x = .ok a := by
  cases x <;> simp [toOption]

theorem Alike.ok_iff {x y : Checked α} (h : Alike x y) (a : α) : x = .ok a ↔ y = .ok a := by
  rw [← toOption_eq_some_iff, ← toOption_eq_some_iff, h]

theorem toOption_map (f : α → β) (x : Checked α) : (x.map f).toOption = x.toOption.map f := by
  cases x <;> rfl

theorem Alike.map {x y : Checked α} (h : Alike x y) (f : α → β) : Alike (f <$> x) (f <$> y) := by
  have hmap : ∀ z : Checked α, (f <$> z).toOption = z.toOption.map f := toOption_map f
  rw [Alike, hmap, hmap, h]

theorem Alike.seq {f g : Checked (α → β)} {x y : Checked α} (h : Alike f g) (h' : Alike x y) :
    Alike (f <*> x) (g <*> y) := by
  have hseq : ∀ (k : Checked (α → β)) (z : Checked α),
      (k <*> z).toOption = k.toOption.bind fun k => z.toOption.map k := by
    intro k z
    show (Checked.seq k fun _ => z).toOption = _
    cases k <;> cases z <;> rfl
  rw [Alike, hseq, hseq, h, h']

theorem Alike.under {x y : Checked α} (h : Alike x y) (s t : Step) :
    Alike (x.under s) (y.under t) := by
  have hunder : ∀ (u : Step) (z : Checked α), (z.under u).toOption = z.toOption := by
    intro u z
    cases z <;> rfl
  rw [Alike, hunder, hunder, h]

end Checked

/-! ## Names -/

/-- A field may stand under a name. -/
def Key.Names (k : Key) (name : String) : Prop :=
  name = k.wire ∨ name = k.plain

instance (k : Key) (name : String) : Decidable (k.Names name) :=
  inferInstanceAs (Decidable (_ ∨ _))

/-- Two fields share a name. -/
def Key.Clashes (k k' : Key) : Prop :=
  k.Names k'.wire ∨ k.Names k'.plain

instance (k k' : Key) : Decidable (k.Clashes k') :=
  inferInstanceAs (Decidable (_ ∨ _))

theorem Key.clashes_of_names {k k' : Key} {name : String} (h : k.Names name) (h' : k'.Names name) :
    k.Clashes k' := by
  rcases h' with rfl | rfl
  · exact .inl h
  · exact .inr h

/-- No two of the fields share a name. -/
def Apart (keys : List Key) : Prop :=
  keys.Pairwise fun k k' => ¬ k.Clashes k'

instance (keys : List Key) : Decidable (Apart keys) :=
  inferInstanceAs (Decidable (List.Pairwise _ _))

theorem Apart.eq_of_names {keys : List Key} (h : Apart keys) {k k' : Key} (hk : k ∈ keys)
    (hk' : k' ∈ keys) {name : String} (hname : k.Names name) (hname' : k'.Names name) : k = k' := by
  induction h with
  | nil => exact absurd hk List.not_mem_nil
  | @cons a as hrest _ ih =>
    rcases List.mem_cons.1 hk with rfl | hlater
    · rcases List.mem_cons.1 hk' with rfl | hlater'
      · rfl
      · exact absurd (Key.clashes_of_names hname hname') (hrest k' hlater')
    · rcases List.mem_cons.1 hk' with rfl | hlater'
      · exact absurd (Key.clashes_of_names hname' hname) (hrest k hlater)
      · exact ih hlater hlater'

/-! ## Objects -/

/-- Two names are the same, or both are names of one of the fields. -/
def SameField (keys : List Key) (x y : String) : Prop :=
  x = y ∨ ∃ k ∈ keys, k.Names x ∧ k.Names y

/-- No field stands under both of its names. -/
def SpelledOnce (keys : List Key) (ms : Members) : Prop :=
  ∀ k ∈ keys, (ms.get? k.wire).isSome → (ms.get? k.plain).isSome → k.wire = k.plain

instance (keys : List Key) (ms : Members) : Decidable (SpelledOnce keys ms) :=
  inferInstanceAs (Decidable (∀ k ∈ keys, _))

/-- The members of two objects are the same but for the spelling of fields and for what `R` allows
in the value under a name. -/
structure Respelled (keys : List Key) (R : String → Json → Json → Prop) (ms ms' : Members) :
    Prop where
  members : List.Forall₂ (fun m m' => SameField keys m.1 m'.1 ∧ R m.1 m.2 m'.2) ms ms'
  once : SpelledOnce keys ms
  once' : SpelledOnce keys ms'

theorem SameField.names_iff {keys : List Key} (hapart : Apart keys) {k : Key} (hk : k ∈ keys)
    {x y : String} (h : SameField keys x y) : k.Names x ↔ k.Names y := by
  rcases h with rfl | ⟨k', hk', hx, hy⟩
  · exact Iff.rfl
  · constructor
    · intro hname
      rwa [hapart.eq_of_names hk hk' hname hx]
    · intro hname
      rwa [hapart.eq_of_names hk hk' hname hy]

/-- A field of one spelling is the first member under one of its names. -/
theorem find?_eq_find? {k : Key} {ms : Members}
    (honce : (ms.get? k.wire).isSome → (ms.get? k.plain).isSome → k.wire = k.plain) :
    k.find? ms = ms.find? fun m => decide (k.Names m.1) := by
  induction ms with
  | nil => rfl
  | cons m ms ih =>
    obtain ⟨name, v⟩ := m
    rw [List.find?_cons]
    by_cases hwire : name = k.wire
    · subst hwire
      simp [Key.find?, Members.get?, Key.Names]
    · by_cases hplain : name = k.plain
      · have hmissing : Members.get? ((name, v) :: ms) k.wire = none := by
          by_contra hsome
          refine hwire (hplain.trans (honce (Option.isSome_iff_ne_none.2 hsome) ?_).symm)
          rw [Members.get?, if_pos hplain]
          rfl
        have hfound : Members.get? ((name, v) :: ms) k.plain = some v := if_pos hplain
        rw [Key.find?, hmissing, hfound]
        simp [Key.Names, hplain]
      · have hnot : ¬ k.Names name := fun h => h.elim hwire hplain
        have hskip : Members.get? ((name, v) :: ms) k.wire = Members.get? ms k.wire := if_neg hwire
        have hskip' : Members.get? ((name, v) :: ms) k.plain = Members.get? ms k.plain :=
          if_neg hplain
        rw [hskip, hskip'] at honce
        simp only [hnot, decide_false]
        rw [← ih honce, Key.find?, Key.find?, hskip, hskip']

/-- A field is found in a respelled object where it is found in the object, under one of its
names. -/
theorem Respelled.find?_rel {keys : List Key} {R : String → Json → Json → Prop} {ms ms' : Members}
    (h : Respelled keys R ms ms') (hapart : Apart keys) {k : Key} (hk : k ∈ keys) :
    Option.Rel (fun m m' => k.Names m.1 ∧ R m.1 m.2 m'.2) (k.find? ms) (k.find? ms') := by
  rw [find?_eq_find? (h.once k hk), find?_eq_find? (h.once' k hk)]
  have hmembers := h.members
  clear h
  induction hmembers with
  | nil => exact .none
  | cons hm _ ih =>
    obtain ⟨hname, hvalue⟩ := hm
    have hiff := hname.names_iff hapart hk
    rw [List.find?_cons, List.find?_cons]
    split
    · next hnames =>
      rw [decide_eq_true (hiff.1 (of_decide_eq_true hnames))]
      exact .some ⟨of_decide_eq_true hnames, hvalue⟩
    · next hnames =>
      rw [decide_eq_false (mt hiff.2 (of_decide_eq_false hnames))]
      exact ih

/-! ## Fields -/

section Fields

variable {α : Type} {keys : List Key} {R : String → Json → Json → Prop} {ms ms' : Members} {k : Key}
  {reader : Reader α}

/-- The values that are allowed for one another under a name of a field read the same. -/
def ReadsThrough (R : String → Json → Json → Prop) (k : Key) (reader : Reader α) : Prop :=
  ∀ name v v', k.Names name → R name v v' → Checked.Alike (reader v) (reader v')

/-- What is read where a field is found, and what stands for it where it is not. -/
theorem found_alike {d d' : Checked α} (h : Respelled keys R ms ms') (hapart : Apart keys)
    (hk : k ∈ keys) (hreader : ReadsThrough R k reader) (hd : Checked.Alike d d') :
    Checked.Alike
      (match k.find? ms with
        | some (name, v) => (reader v).under (.key name)
        | none => d)
      (match k.find? ms' with
        | some (name, v) => (reader v).under (.key name)
        | none => d') := by
  have hfind := h.find?_rel hapart hk
  revert hfind
  generalize k.find? ms = x, k.find? ms' = y
  intro hfind
  cases hfind with
  | none => exact hd
  | some hvalue => exact (hreader _ _ _ hvalue.1 hvalue.2).under _ _

theorem field_alike (h : Respelled keys R ms ms') (hapart : Apart keys) (hk : k ∈ keys)
    (hreader : ReadsThrough R k reader) :
    Checked.Alike (field k reader ms) (field k reader ms') :=
  found_alike h hapart hk hreader rfl

theorem fieldOr_alike {default : α} (h : Respelled keys R ms ms') (hapart : Apart keys)
    (hk : k ∈ keys) (hreader : ReadsThrough R k reader) :
    Checked.Alike (fieldOr k default reader ms) (fieldOr k default reader ms') :=
  found_alike h hapart hk hreader rfl

end Fields

/-! ## Values -/

/-- The same value, or two objects of which one is the other respelled. -/
inductive RespelledValue (keys : List Key) (R : String → Json → Json → Prop) : Json → Json → Prop
  | same (v : Json) : RespelledValue keys R v v
  | object {ms ms' : Members} (h : Respelled keys R ms ms') :
    RespelledValue keys R (.obj ms) (.obj ms')

theorem record_alike {α : Type} {keys : List Key} {R : String → Json → Json → Prop} {v v' : Json}
    {name : String} {fields : Members → Checked α} (h : RespelledValue keys R v v')
    (hfields : ∀ ms ms', Respelled keys R ms ms' → Checked.Alike (fields ms) (fields ms')) :
    Checked.Alike (record name fields v) (record name fields v') := by
  cases h with
  | same => rfl
  | object h => exact hfields _ _ h

end TestScribe.Wire
