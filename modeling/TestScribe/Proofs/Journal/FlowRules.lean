import TestScribe.Journal.Flow

/-!
# Rules for flows

How each way of building a flow runs (`run_bind` and its companions), and the rules for what a flow
keeps: `Keeps part x` says that running `x` leaves a part of the state as it was, whether it ends in
a problem or not.
-/

namespace TestScribe

/-- The requests among the things that were done. -/
def callsIn (es : Events) : List Call :=
  es.filterMap fun
    | .call c => some c
    | _ => none

@[simp] theorem callsIn_nil : callsIn [] = [] := rfl

@[simp] theorem callsIn_append (es es' : Events) :
    callsIn (es ++ es') = callsIn es ++ callsIn es' :=
  List.filterMap_append

@[simp] theorem callsIn_call (c : Call) : callsIn [.call c] = [c] := rfl

@[simp] theorem callsIn_pause (x : Float) : callsIn [.pause x] = [] := rfl

@[simp] theorem callsIn_record (r : Journal.Record) : callsIn [.record r] = [] := rfl

@[simp] theorem callsIn_records (rs : List Journal.Record) : callsIn (rs.map .record) = [] := by
  induction rs with
  | nil => rfl
  | cons r rs ih => exact ih

/-- One more request of the same kind. -/
theorem callsIn_snoc {es : Events} {c : Call} {n : Nat} (h : callsIn es = List.replicate n c) :
    callsIn (es ++ [.call c]) = List.replicate (n + 1) c := by
  rw [callsIn_append, h, callsIn_call, List.replicate_succ']

namespace Flow

variable {σ τ α β : Type}

/-- The requests that were sent on the way from one state to a later one. -/
def sent [Journaling σ] (before after : σ) : List Call :=
  callsIn ((Journaling.journal after).drop (Journaling.journal before).length)

theorem sent_eq [Journaling σ] {before after : σ} {es : Events}
    (h : Journaling.journal after = Journaling.journal before ++ es) :
    sent before after = callsIn es := by
  rw [sent, h, List.drop_left]

theorem sent_of_journal_eq [Journaling σ] {before after : σ}
    (h : Journaling.journal after = Journaling.journal before) : sent before after = [] :=
  sent_eq (h.trans (List.append_nil _).symm)

/-! ## Runs -/

section Runs

variable (s : σ)

@[simp] theorem run_pure (a : α) : run (pure a : Flow σ α) s = (.ok a, s) := rfl

theorem run_bind (x : Flow σ α) (f : α → Flow σ β) :
    run (x >>= f) s =
      match run x s with
      | (.ok a, s') => run (f a) s'
      | (.error p, s') => (.error p, s') := by
  change (StateT.bind (ExceptT.run x) (ExceptT.bindCont f)) s = _
  simp only [StateT.bind, run]
  rcases ExceptT.run x s with ⟨_ | a, s'⟩ <;> rfl

theorem run_bind_of_ok {x : Flow σ α} {f : α → Flow σ β} {s s' : σ} {a : α}
    (h : run x s = (.ok a, s')) : run (x >>= f) s = run (f a) s' := by
  rw [run_bind, h]

theorem run_bind_of_error {x : Flow σ α} {f : α → Flow σ β} {s s' : σ} {p : Problem}
    (h : run x s = (.error p, s')) : run (x >>= f) s = (.error p, s') := by
  rw [run_bind, h]

theorem run_map (x : Flow σ α) (f : α → β) :
    run (f <$> x) s = ((run x s).1.map f, (run x s).2) := by
  rw [map_eq_pure_bind, run_bind]
  rcases run x s with ⟨_ | a, s'⟩ <;> rfl

@[simp] theorem run_fail (f : Failure) :
    run (fail f : Flow σ α) s = (.error (.failure f), s) := rfl

@[simp] theorem run_defect (d : Defect) :
    run (defect d : Flow σ α) s = (.error (.defect d), s) := rfl

@[simp] theorem run_outcome (x : Flow σ α) :
    run (outcome x) s = (.ok (run x s).1, (run x s).2) := rfl

@[simp] theorem run_resume (r : Except Problem α) : run (resume r : Flow σ α) s = (r, s) := rfl

@[simp] theorem run_get : run (get : Flow σ σ) s = (.ok s, s) := rfl

@[simp] theorem run_modify (g : σ → σ) : run (modify g : Flow σ Unit) s = (.ok (), g s) := rfl

@[simp] theorem run_within (part : σ → τ) (put : τ → σ → σ) (x : Flow τ α) :
    run (within part put x) s = ((run x (part s)).1, put (run x (part s)).2 s) := rfl

variable [Journaling σ]

@[simp] theorem run_write (es : Events) :
    run (write es) s = (.ok (), Journaling.setJournal (Journaling.journal s ++ es) s) := rfl

end Runs

/-! ## What a flow keeps -/

/-- Running the flow leaves a part of the state as it was. -/
def Keeps (part : σ → β) (x : Flow σ α) : Prop :=
  ∀ s, part (run x s).2 = part s

section Keeps

variable {γ : Type} {part : σ → γ}

theorem keeps_pure (a : α) : Keeps part (pure a : Flow σ α) := fun _ => rfl

theorem Keeps.bind {x : Flow σ α} {f : α → Flow σ β} (hx : Keeps part x)
    (hf : ∀ a, Keeps part (f a)) : Keeps part (x >>= f) := by
  intro s
  have hs := hx s
  rw [run_bind]
  rcases hr : run x s with ⟨p | a, s'⟩ <;> rw [hr] at hs
  · exact hs
  · exact (hf a s').trans hs

theorem Keeps.map {x : Flow σ α} (hx : Keeps part x) (f : α → β) : Keeps part (f <$> x) := by
  intro s
  rw [run_map]
  exact hx s

theorem keeps_fail (f : Failure) : Keeps part (fail f : Flow σ α) := fun _ => rfl

theorem keeps_defect (d : Defect) : Keeps part (defect d : Flow σ α) := fun _ => rfl

theorem Keeps.outcome {x : Flow σ α} (hx : Keeps part x) : Keeps part (outcome x) := fun s => hx s

theorem keeps_resume (r : Except Problem α) : Keeps part (resume r : Flow σ α) := fun _ => rfl

theorem keeps_within {inner : σ → τ} {put : τ → σ → σ} (hput : ∀ t s, part (put t s) = part s)
    (x : Flow τ α) : Keeps part (within inner put x) := fun s => hput _ s

variable [Journaling σ]

theorem keeps_write (hjournal : ∀ es s, part (Journaling.setJournal es s) = part s) (es : Events) :
    Keeps part (write es : Flow σ Unit) := fun s => hjournal _ s

theorem keeps_note (hjournal : ∀ es s, part (Journaling.setJournal es s) = part s)
    (severity : Journal.Severity) (name message : String) (fields : Members) :
    Keeps part (note severity name message fields : Flow σ Unit) :=
  keeps_write hjournal _

end Keeps

end Flow

end TestScribe
