import TestScribe.Proofs.Transport.Attempts

/-!
# Rules for what flows yield

`Yields Q P x` says that whatever state `x` is run from, a value it gives satisfies `Q` and a
failure it ends in satisfies `P`; of defects nothing is said.  One rule for each way of building a
flow.
-/

namespace TestScribe

/-- A result is a value in `Q`, a failure in `P` or any defect. -/
def Meets {α : Type} (Q : α → Prop) (P : Failure → Prop) : Except Problem α → Prop
  | .ok a => Q a
  | .error (.failure f) => P f
  | .error (.defect _) => True

theorem Meets.of_error {α β : Type} {Q : α → Prop} {R : β → Prop} {P : Failure → Prop} {p : Problem}
    (h : Meets Q P (.error p)) : Meets R P (.error p) := by
  cases p with
  | failure f => exact h
  | defect d => trivial

namespace Flow

variable {σ τ α β ι : Type} {Q : α → Prop} {R : β → Prop} {P : Failure → Prop}

/-- What a flow yields from any state is a value in `Q`, a failure in `P` or a defect. -/
def Yields (Q : α → Prop) (P : Failure → Prop) (x : Flow σ α) : Prop :=
  ∀ s, Meets Q P (run x s).1

/-- A flow fails only with failures in `P`. -/
abbrev FailsWith (P : Failure → Prop) (x : Flow σ α) : Prop :=
  Yields (fun _ => True) P x

theorem Yields.mono {Q' : α → Prop} {P' : Failure → Prop} {x : Flow σ α} (h : Yields Q P x)
    (hQ : ∀ a, Q a → Q' a) (hP : ∀ f, P f → P' f) : Yields Q' P' x := by
  intro s
  have hs := h s
  match hr : (run x s).1 with
  | .ok a => rw [hr] at hs; exact hQ a hs
  | .error (.failure f) => rw [hr] at hs; exact hP f hs
  | .error (.defect _) => trivial

theorem yields_pure {a : α} (h : Q a) : Yields Q P (pure a : Flow σ α) := fun _ => h

theorem Yields.bind {x : Flow σ α} {f : α → Flow σ β} (hx : Yields Q P x)
    (hf : ∀ a, Q a → Yields R P (f a)) : Yields R P (x >>= f) := by
  intro s
  have hs := hx s
  rw [run_bind]
  rcases hr : run x s with ⟨p | a, s'⟩ <;> rw [hr] at hs
  · exact hs.of_error
  · exact hf a hs s'

theorem Yields.map {x : Flow σ α} (hx : Yields Q P x) {f : α → β} (hf : ∀ a, Q a → R (f a)) :
    Yields R P (f <$> x) := by
  rw [map_eq_pure_bind]
  exact hx.bind fun a ha => yields_pure (hf a ha)

theorem yields_fail {f : Failure} (h : P f) : Yields Q P (fail f : Flow σ α) := fun _ => h

theorem yields_defect (d : Defect) : Yields Q P (defect d : Flow σ α) := fun _ => trivial

theorem Yields.outcome {P' : Failure → Prop} {x : Flow σ α} (h : Yields Q P x) :
    Yields (Meets Q P) P' (outcome x) := fun s => h s

theorem yields_resume {r : Except Problem α} (h : Meets Q P r) :
    Yields Q P (resume r : Flow σ α) := fun _ => h

theorem Yields.within {x : Flow τ α} (h : Yields Q P x) (part : σ → τ) (put : τ → σ → σ) :
    Yields Q P (within part put x) := fun s => h (part s)

theorem failsWith_true (x : Flow σ α) : FailsWith (fun _ => True) x := by
  intro s
  match (run x s).1 with
  | .ok _ => trivial
  | .error (.failure _) => trivial
  | .error (.defect _) => trivial

theorem failsWith_get : FailsWith P (get : Flow σ σ) := fun _ => trivial

theorem failsWith_modify (g : σ → σ) : FailsWith P (modify g : Flow σ Unit) := fun _ => trivial

theorem failsWith_write [Journaling σ] (es : Events) : FailsWith P (write es : Flow σ Unit) :=
  fun _ => trivial

theorem failsWith_note [Journaling σ] (severity : Journal.Severity) (part message : String)
    (fields : Members) : FailsWith P (note severity part message fields : Flow σ Unit) :=
  failsWith_write _

/-- By induction on the list: the flows are run one after another. -/
theorem Yields.mapM {f : ι → Flow σ α} {xs : List ι} (h : ∀ x ∈ xs, Yields Q P (f x)) :
    Yields (fun ys => ∀ y ∈ ys, Q y) P (xs.mapM f) := by
  induction xs with
  | nil => exact yields_pure fun y hy => absurd hy List.not_mem_nil
  | cons x xs ih =>
    rw [List.mapM_cons]
    refine (h x List.mem_cons_self).bind fun y hy => ?_
    refine (ih fun x' hx' => h x' (List.mem_cons_of_mem x hx')).bind fun ys hys => ?_
    refine yields_pure fun z hz => ?_
    rcases List.mem_cons.1 hz with rfl | hz
    · exact hy
    · exact hys z hz

theorem yields_gather {ends : List (Except Problem α)} (h : ∀ r ∈ ends, Meets Q P r) :
    Yields (fun as => ∀ a ∈ as, Q a) P (gather ends : Flow σ (List α)) := by
  have hresume : ∀ r ∈ ends, Yields Q P (resume r : Flow σ α) := fun r hr => yields_resume (h r hr)
  unfold gather
  exact (Yields.mapM fun r hr => hresume r (List.mem_filter.1 hr).1).bind fun _ _ =>
    Yields.mapM hresume

end Flow

namespace Transport.Trial

open TestScribe.Flow

/-- A trial yields what its attempts yield: what is done between two attempts ends it with a failure
of an attempt, or with one of the same kind. -/
theorem yields_run {σ α : Type} {Q : α → Prop} {P : Failure → Prop} {t : Trial σ α}
    (hattempt : Yields Q P t.attempt) (hfailed : ∀ n f, FailsWith P (t.failed n f))
    (hagain : ∀ n f, P f → FailsWith P (t.again n f)) (left n : Nat) :
    Yields Q P (t.run left n) := by
  intro s
  refine run_induction t (fun _ _ _ => True) (fun e => Meets Q P e.1) ?_ ?_ ?_ left n s trivial
  · intro _ _ s _ _
    exact hattempt s
  · intro n s s' f _ hrun _
    have hf : Meets Q P (Flow.run t.attempt s).1 := hattempt s
    rw [hrun] at hf
    exact ((hfailed n f).bind fun _ _ => yields_fail (Q := Q) hf) s'
  · intro _ n s s' f _ hrun _
    have hf : Meets Q P (Flow.run t.attempt s).1 := hattempt s
    rw [hrun] at hf
    have hgo := ((hfailed n f).bind fun _ _ => hagain n f hf) s'
    rcases hr : Flow.run (t.failed n f >>= fun _ => t.again n f) s' with ⟨p | u, s''⟩
    · rw [hr] at hgo
      exact hgo.of_error
    · trivial

end Transport.Trial

end TestScribe
