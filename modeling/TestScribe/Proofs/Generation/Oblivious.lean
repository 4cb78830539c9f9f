import TestScribe.Proofs.Generation.Asking

/-!
# What a request for text depends on

The attempts of a request for text look neither at the clock nor at what was done before.  So two
requests to servers that would reply the same take the same course: they end alike, the same chunks
are handed on, and the same things are done (`stream_alike`).
-/

namespace TestScribe.Generation.Backend

open Transport TestScribe.Flow

variable {α β : Type}

/-- Whether the course of a flow depends on nothing but the script and the chunks that were handed
on: what it does is put behind what was done, and the clock stays as it is. -/
def Oblivious (x : Flow Backend α) : Prop :=
  ∀ script cs, ∃ r script' cs' es, ∀ b : Backend, b.script = script → b.handed = cs →
    Flow.run x b = (r, advance script' cs' es b)

/-! ## Rules -/

theorem advance_self (b : Backend) : advance b.script b.handed [] b = b := by
  simp [advance]

theorem oblivious_resume (r : Except Problem α) : Oblivious (Flow.resume r) := by
  intro script cs
  refine ⟨r, script, cs, [], fun b hscript hhanded => ?_⟩
  rw [← hscript, ← hhanded, advance_self]
  rfl

theorem oblivious_pure (a : α) : Oblivious (pure a) :=
  oblivious_resume (.ok a)

theorem oblivious_fail (f : Failure) : Oblivious (Flow.fail f : Flow Backend α) :=
  oblivious_resume (.error (.failure f))

theorem oblivious_defect (d : Defect) : Oblivious (Flow.defect d : Flow Backend α) :=
  oblivious_resume (.error (.defect d))

theorem Oblivious.bind {x : Flow Backend α} {f : α → Flow Backend β} (hx : Oblivious x)
    (hf : ∀ a, Oblivious (f a)) : Oblivious (x >>= f) := by
  intro script cs
  obtain ⟨r, script₁, cs₁, es, hrun⟩ := hx script cs
  cases r with
  | error p =>
    exact ⟨.error p, script₁, cs₁, es, fun b hscript hhanded =>
      run_bind_of_error (hrun b hscript hhanded)⟩
  | ok a =>
    obtain ⟨r, script₂, cs₂, es', hrun'⟩ := hf a script₁ cs₁
    refine ⟨r, script₂, cs₂, es ++ es', fun b hscript hhanded => ?_⟩
    rw [run_bind_of_ok (hrun b hscript hhanded), hrun' _ rfl rfl, advance_advance]

theorem oblivious_write (es : Events) : Oblivious (Flow.write es) := by
  intro script cs
  refine ⟨.ok (), script, cs, es, fun b hscript hhanded => ?_⟩
  rw [← hscript, ← hhanded]
  rfl

theorem oblivious_hand (cs' : List Chunk) :
    Oblivious (modify fun b : Backend => { b with handed := b.handed ++ cs' }) := by
  intro script cs
  refine ⟨.ok (), script, cs ++ cs', [], fun b hscript hhanded => ?_⟩
  rw [run_modify, ← hscript, ← hhanded]
  simp [advance]

theorem oblivious_isStopped (stop : Stop) : Oblivious (isStopped stop) := by
  intro script cs
  refine ⟨.ok (stop.any fun asked => asked cs), script, cs, [], fun b hscript hhanded => ?_⟩
  rw [run_isStopped, ← hscript, ← hhanded, advance_self]

theorem oblivious_ask (method path : String) (body : Option Json) :
    Oblivious (ask method path body) := by
  intro script cs
  cases hsend : send { service := "ollama", method, path, body, correlation := none } script with
  | error d =>
    refine ⟨.error (.defect d), script, cs, [], fun b hscript hhanded => ?_⟩
    subst hscript hhanded
    rw [advance_self]
    simp only [Flow.run, ask, ExceptT.run, hsend]
  | ok sent =>
    obtain ⟨reply, rest, es⟩ := sent
    refine ⟨.ok reply, rest, cs, es, fun b hscript hhanded => ?_⟩
    subst hscript hhanded
    simp only [Flow.run, ask, ExceptT.run, hsend]
    rfl

section Trials

variable {t : Trial Backend α}

/-- A trial is oblivious if its attempt is and what is done when that failed. -/
theorem oblivious_of_next {left n : Nat} (next : Failure → Flow Backend α)
    (hattempt : Oblivious t.attempt) (hnext : ∀ f, Oblivious (next f))
    (hrun : ∀ b b' f, Flow.run t.attempt b = (.error (.failure f), b') → f.cause.isRetried = true →
      Flow.run (t.run left n) b = Flow.run (next f) b') :
    Oblivious (t.run left n) := by
  intro script cs
  obtain ⟨r, script₁, cs₁, es, hr⟩ := hattempt script cs
  -- how the attempt ended depends on the script and the chunks, and decides whether `next` follows
  by_cases hretried : isRetried r = true
  · obtain ⟨f, rfl, hf⟩ := isRetried_iff.1 hretried
    obtain ⟨r', script₂, cs₂, es', hr'⟩ := hnext f script₁ cs₁
    refine ⟨r', script₂, cs₂, es ++ es', fun b hscript hhanded => ?_⟩
    rw [hrun b _ f (hr b hscript hhanded) hf, hr' _ rfl rfl, advance_advance]
  · refine ⟨r, script₁, cs₁, es, fun b hscript hhanded => ?_⟩
    have hattempted := hr b hscript hhanded
    have hfinal : isRetried (Flow.run t.attempt b).1 = false := by
      rw [hattempted]
      exact Bool.eq_false_iff.2 hretried
    rw [Trial.run_of_final t hfinal, hattempted]

/-- Trying again is oblivious if each step of it is. -/
theorem oblivious_run (hattempt : Oblivious t.attempt) (hfailed : ∀ n f, Oblivious (t.failed n f))
    (hagain : ∀ n f, Oblivious (t.again n f)) (left n : Nat) : Oblivious (t.run left n) := by
  induction left generalizing n with
  | zero =>
    apply oblivious_of_next (fun f => t.failed n f >>= fun _ => Flow.fail f) hattempt
    · exact fun f => (hfailed n f).bind fun _ => oblivious_fail f
    · exact fun b b' f h hf => Trial.run_of_spent t h hf
  | succ left ih =>
    apply oblivious_of_next
      (fun f => (t.failed n f >>= fun _ => t.again n f) >>= fun _ => t.run left (n + 1)) hattempt
    · exact fun f => ((hfailed n f).bind fun _ => hagain n f).bind fun _ => ih (n + 1)
    · exact fun b b' f h hf => Trial.run_of_again t h hf

end Trials

/-! ## Requests for text -/

section Text

variable (s : Settings) (prompt : String) (options : Option Options) (stop : Stop)

theorem oblivious_take (a : Attempt) : Oblivious (take stop a) := by
  unfold take
  refine (oblivious_write _).bind fun _ => (oblivious_hand _).bind fun _ => ?_
  cases a.finish with
  | done => exact oblivious_pure ()
  | failed f => exact oblivious_fail f
  | hanging =>
    refine (oblivious_isStopped stop).bind fun asked => ?_
    cases asked with
    | true => exact oblivious_fail stopped
    | false => exact oblivious_defect .endless

theorem oblivious_pauseBefore (patience : Patience) (n : Nat) (f : Failure) :
    Oblivious (pauseBefore patience textAction n f) := by
  unfold pauseBefore
  cases patience.pause? n with
  | none => exact oblivious_defect .overflow
  | some seconds => exact (oblivious_write _).bind fun _ => oblivious_write _

/-- Whether there is another try is decided by the chunks that were handed on. -/
theorem oblivious_againText (patience : Patience) (n : Nat) (f : Failure) :
    Oblivious (againText stop patience n f) := by
  intro script cs
  by_cases hhanded : (!cs.isEmpty) = true
  · obtain ⟨r, script', cs', es, hrun⟩ := oblivious_fail (α := Unit) f script cs
    refine ⟨r, script', cs', es, fun b hscript hcs => ?_⟩
    rw [run_againText, hcs, if_pos hhanded, ← hrun b hscript hcs]
    rfl
  · by_cases hstop : (stop.any fun asked => asked cs) = true
    · obtain ⟨r, script', cs', es, hrun⟩ := oblivious_fail (α := Unit) stopped script cs
      refine ⟨r, script', cs', es, fun b hscript hcs => ?_⟩
      rw [run_againText, hcs, if_neg hhanded, if_pos hstop, ← hrun b hscript hcs]
      rfl
    · obtain ⟨r, script', cs', es, hrun⟩ := oblivious_pauseBefore patience n f script cs
      refine ⟨r, script', cs', es, fun b hscript hcs => ?_⟩
      rw [run_againText, hcs, if_neg hhanded, if_neg hstop, ← hrun b hscript hcs]

theorem oblivious_insist :
    Oblivious (insist s textAction stop (attemptText s prompt options stop)) := by
  rw [insist_eq_run]
  refine oblivious_run ?_ (fun _ _ => oblivious_pure ()) (fun n f => ?_) _ _
  · exact (oblivious_ask _ _ _).bind fun reply => oblivious_take stop _
  · exact oblivious_againText stop _ n f

/-- Whether the time between the next two readings of the clock can be expressed. -/
def isTimed (b : Backend) : Bool :=
  (Time.milliseconds? (b.clock.reading b.clock.used) (b.clock.reading (b.clock.used + 1))).isSome

/-- Two requests for text that took the same course, but for the time that they took. -/
structure Alike (b b' : Backend) (e e' : Except Problem Summary × Backend) : Prop where
  result : e'.1.map Summary.model = e.1.map Summary.model
  handed : e'.2.handed = e.2.handed
  journal : ∃ es, e.2.journal = b.journal ++ es ∧ e'.2.journal = b'.journal ++ es

section

variable {b b' : Backend} {e e' : Except Problem Summary × Backend}

theorem Alike.eq_error (h : Alike b b' e e') {p : Problem} (hp : e.1 = .error p) :
    e'.1 = .error p := by
  have hresult := h.result
  rw [hp] at hresult
  cases he : e'.1 with
  | error q =>
    rw [he] at hresult
    exact congrArg Except.error (Except.error.inj hresult)
  | ok x =>
    rw [he] at hresult
    cases hresult

theorem Alike.exists_ok (h : Alike b b' e e') {x : Summary} (hx : e.1 = .ok x) :
    ∃ x', e'.1 = .ok x' := by
  have hresult := h.result
  rw [hx] at hresult
  cases he : e'.1 with
  | error p =>
    rw [he] at hresult
    cases hresult
  | ok x' => exact ⟨x', rfl⟩

end

/-- What is known at the end, apart from the time that it took. -/
theorem summarized_of_advance (b : Backend) (script : Script) (cs : List Chunk) (es : Events) :
    (summarized s options b (.ok (), advance script cs es b.begun)).1.map Summary.model =
      if b.isTimed then .ok ((options.getD .none).modelName s.modelName)
      else .error (Problem.defect .overflow) := by
  have hclock : (advance script cs es b.begun).clock =
      { b.clock with used := b.clock.used + 1 } := rfl
  unfold summarized isTimed
  simp only [hclock]
  generalize Time.milliseconds? (b.clock.reading b.clock.used)
    (b.clock.reading (b.clock.used + 1)) = time
  cases time <;> rfl

/-- Requests to servers that would reply the same take the same course. -/
theorem stream_alike (b b' : Backend) (hscript : b'.script = b.script)
    (htimed : b'.isTimed = b.isTimed) :
    Alike b b' (Flow.run (stream s prompt options stop) b)
      (Flow.run (stream s prompt options stop) b') := by
  obtain ⟨r, script, cs, es, hrun⟩ := oblivious_insist s prompt options stop b.script []
  rw [run_stream, run_stream, hrun b.begun rfl rfl, hrun b'.begun hscript rfl]
  cases r with
  | error p => exact ⟨rfl, rfl, es, rfl, rfl⟩
  | ok u =>
    refine ⟨?_, rfl, es, rfl, rfl⟩
    rw [summarized_of_advance, summarized_of_advance, htimed]

end Text

end TestScribe.Generation.Backend
