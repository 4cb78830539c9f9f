import TestScribe.Wire.Scalar

/-!
# Reading back what was written

A reader and a writer go together when whatever the reader reads, it reads again from what is
written for it (`RoundTrips`).  They do for the scalars, and they do for lists, optional values and
the fields of records if they do for the parts.
-/

namespace TestScribe.Wire

/-- What a reader reads, from whatever value, it reads back from what is written for it. -/
def RoundTrips {α : Type} (read : Reader α) (write : α → Json) : Prop :=
  ∀ v a, read v = .ok a → read (write a) = .ok a

/-! ## Values without issues -/

namespace Checked

variable {α β : Type}

theorem map_eq_ok_iff {f : α → β} {x : Checked α} {b : β} :
    x.map f = .ok b ↔ ∃ a, x = .ok a ∧ f a = b := by
  cases x <;> simp [Checked.map]

theorem functorMap_eq_ok_iff {f : α → β} {x : Checked α} {b : β} :
    f <$> x = .ok b ↔ ∃ a, x = .ok a ∧ f a = b :=
  map_eq_ok_iff

theorem seq_eq_ok_iff {f : Checked (α → β)} {x : Checked α} {b : β} :
    f <*> x = .ok b ↔ ∃ g, f = .ok g ∧ ∃ a, x = .ok a ∧ g a = b := by
  show Checked.seq f (fun _ => x) = .ok b ↔ _
  cases f <;> cases x <;> simp [Checked.seq]

theorem map_ok {f : α → β} {x : Checked α} {a : α} (h : x = .ok a) : f <$> x = .ok (f a) := by
  rw [h]
  rfl

theorem seq_ok {f : Checked (α → β)} {g : α → β} {x : Checked α} {a : α} (hf : f = .ok g)
    (hx : x = .ok a) : f <*> x = .ok (g a) := by
  rw [hf, hx]
  rfl

theorem under_eq_ok_iff {s : Step} {x : Checked α} {a : α} : x.under s = .ok a ↔ x = .ok a := by
  cases x <;> simp [Checked.under]

theorem andThen_eq_ok_iff {x : Checked α} {f : α → Checked β} {b : β} :
    x.andThen f = .ok b ↔ ∃ a, x = .ok a ∧ f a = .ok b := by
  cases x <;> simp [Checked.andThen]

end Checked

theorem record_eq_ok_iff {α : Type} {name : String} {fields : Members → Checked α} {v : Json}
    {a : α} : record name fields v = .ok a ↔ ∃ ms, v = .obj ms ∧ fields ms = .ok a := by
  constructor
  · intro h
    cases v with
    | obj ms => exact ⟨ms, rfl, h⟩
    | _ => cases h
  · rintro ⟨ms, rfl, h⟩
    exact h

theorem record_eq_ok {α : Type} {name : String} {fields : Members → Checked α} {v : Json} {a : α}
    (h : record name fields v = .ok a) : ∃ ms, fields ms = .ok a := by
  obtain ⟨ms, -, hms⟩ := record_eq_ok_iff.1 h
  exact ⟨ms, hms⟩

/-! ## Scalars -/

theorem text_roundTrips : RoundTrips text .str := fun _ _ _ => rfl

theorem truth_roundTrips : RoundTrips truth .bool := fun _ _ _ => rfl

theorem integer_roundTrips : RoundTrips integer .int := fun _ _ _ => rfl

theorem number_roundTrips : RoundTrips number .float := fun _ _ _ => rfl

theorem object_roundTrips : RoundTrips object .obj := fun _ _ _ => rfl

/-- A check that lets values pass as they are, whatever they were read from. -/
theorem RoundTrips.andThen {α : Type} {reader : Reader α} {write : α → Json}
    {check : Json → α → Checked α} (h : RoundTrips reader write)
    (hcheck : ∀ v w a b, check v a = .ok b → b = a ∧ check w a = .ok a) :
    RoundTrips (fun v => (reader v).andThen (check v)) write := fun v a hread => by
  obtain ⟨b, hb, hab⟩ := Checked.andThen_eq_ok_iff.1 hread
  obtain ⟨rfl, hagain⟩ := hcheck v (write b) b a hab
  exact Checked.andThen_eq_ok_iff.2 ⟨a, h v a hb, hagain⟩

theorem ite_ok_refuse {α : Type} {p : Prop} [Decidable p] {c : Complaint} {v : Json} (w : Json)
    {a b : α} (h : (if p then .ok a else refuse c v) = Checked.ok b) :
    b = a ∧ (if p then .ok a else refuse c w) = Checked.ok a := by
  split at h
  case isTrue hp => exact ⟨(Checked.ok.inj h).symm, if_pos hp⟩
  case isFalse => cases h

theorem integerFrom_roundTrips (bound : Nat) : RoundTrips (integerFrom bound) .int :=
  integer_roundTrips.andThen fun _ w _ _ h => ite_ok_refuse w h

theorem integerAbove_roundTrips (bound : Nat) : RoundTrips (integerAbove bound) .int :=
  integer_roundTrips.andThen fun _ w _ _ h => ite_ok_refuse w h

theorem fullText_roundTrips : RoundTrips fullText .str :=
  text_roundTrips.andThen fun v w s t h => by
    rw [← ite_not] at h ⊢
    exact ite_ok_refuse w h

/-! ## Lists and optional values -/

section Parts

variable {α : Type} {reader : Reader α} {write : α → Json}

/-- By induction on the items that are read, at any position in the list. -/
theorem RoundTrips.readItems (h : RoundTrips reader write) {vs : List Json} {xs : List α} {n : Nat}
    (hread : readItems reader n vs = .ok xs) (k : Nat) :
    readItems reader k (xs.map write) = .ok xs := by
  induction vs generalizing xs n k with
  | nil =>
    obtain rfl := Checked.ok.inj hread
    rfl
  | cons v vs ih =>
    obtain ⟨f, hf, ys, hys, rfl⟩ := Checked.seq_eq_ok_iff.1 hread
    obtain ⟨x, hx, rfl⟩ := Checked.map_eq_ok_iff.1 hf
    have hitem := h v x (Checked.under_eq_ok_iff.1 hx)
    exact Checked.seq_ok (Checked.map_ok (Checked.under_eq_ok_iff.2 hitem)) (ih hys (k + 1))

theorem RoundTrips.list (h : RoundTrips reader write) :
    RoundTrips (Wire.list reader) fun xs => .arr (xs.map write) := fun v xs hread => by
  cases v with
  | arr vs => exact h.readItems hread 0
  | _ => cases hread

/-- Nothing is written as null, and what is there is not. -/
theorem RoundTrips.nullable (h : RoundTrips reader write) {w : Option α → Json}
    (hsome : ∀ a, w (some a) = write a) (hnone : w none = .null)
    (hnull : ∀ a, write a ≠ .null) : RoundTrips (Wire.nullable reader) w := fun v o hread => by
  have hvalue : ∀ v a, v ≠ .null → reader v = .ok a →
      Wire.nullable reader v = .ok (some a) :=
    fun v a hv hread => by
      unfold Wire.nullable
      split
      · exact absurd rfl hv
      · rw [hread]
        rfl
  cases o with
  | none => rw [hnone]; rfl
  | some a =>
    rw [hsome]
    refine hvalue _ a (hnull a) ?_
    unfold Wire.nullable at hread
    split at hread
    · cases hread
    · obtain ⟨b, hb, hab⟩ := Checked.map_eq_ok_iff.1 hread
      obtain rfl := Option.some.inj hab
      exact h _ _ hb

/-! ## Fields -/

variable {k : Key} {ms out : Members}

theorem RoundTrips.field (h : RoundTrips reader write) {a : α}
    (hread : Wire.field k reader ms = .ok a)
    (hout : k.find? out = some (k.wire, write a)) : Wire.field k reader out = .ok a := by
  unfold Wire.field at hread ⊢
  rw [hout]
  split at hread
  · exact Checked.under_eq_ok_iff.2 (h _ _ (Checked.under_eq_ok_iff.1 hread))
  · cases hread

theorem RoundTrips.fieldOr (h : RoundTrips reader write) {a default : α}
    (hdefault : reader (write default) = .ok default)
    (hread : Wire.fieldOr k default reader ms = .ok a)
    (hout : k.find? out = some (k.wire, write a)) : Wire.fieldOr k default reader out = .ok a := by
  unfold Wire.fieldOr at hread ⊢
  rw [hout]
  refine Checked.under_eq_ok_iff.2 ?_
  split at hread
  · exact h _ _ (Checked.under_eq_ok_iff.1 hread)
  · obtain rfl := Checked.ok.inj hread
    exact hdefault

theorem RoundTrips.field? {w : Option α → Json} (h : RoundTrips (Wire.nullable reader) w)
    (hnone : w none = .null) {o : Option α} (hread : Wire.field? k reader ms = .ok o)
    (hout : k.find? out = some (k.wire, w o)) : Wire.field? k reader out = .ok o :=
  h.fieldOr (by rw [hnone]; rfl) hread hout

end Parts

end TestScribe.Wire
