import TestScribe.Proofs.Transport.Attempts

/-!
# Waiting without end

`Awaits S E W x` says of a flow `x` over services `S` in the network that it takes their replies one
by one, as many as it sends requests, and waits without end only for one of these replies (`Stuck`).
Such a wait may also be handed on in a value that satisfies `W`, and a flow that goes on from such a
value is excused by `E`.  One rule for each way of building a flow.
-/

namespace TestScribe.Flow

open Transport

/-! ## Services that reply -/

/-- The services by which a flow is answered: each has a name that stands in the requests to it, and
a script if it is reached over the network.  What is written into the journal changes no script. -/
structure Services (σ : Type) [Journaling σ] where
  Kind : Type
  name : Kind → String
  script? : σ → Kind → Option Script
  journal_setJournal : ∀ es s, Journaling.journal (Journaling.setJournal es s : σ) = es
  script?_setJournal : ∀ es s, script? (Journaling.setJournal es s) = script? s

namespace Services

variable {σ : Type} [Journaling σ] {S : Services σ} {s s' s'' : σ} {calls calls' : List Call}

/-- How many of some requests are to a service. -/
def count (S : Services σ) (calls : List Call) (k : S.Kind) : Nat :=
  calls.countP fun c => c.service = S.name k

theorem count_append (calls calls' : List Call) (k : S.Kind) :
    S.count (calls ++ calls') k = S.count calls k + S.count calls' k :=
  List.countP_append

/-- From one state to a later one some requests were sent, all of them to the services, and a reply
was taken for each. -/
structure Takes (S : Services σ) (calls : List Call) (s s' : σ) : Prop where
  journal : ∃ es, Journaling.journal s' = Journaling.journal s ++ es ∧ callsIn es = calls
  known : ∀ c ∈ calls, ∃ k, c.service = S.name k
  script? : ∀ k, S.script? s' k = (S.script? s k).map (·.after (S.count calls k))

theorem Takes.sent_eq (h : S.Takes calls s s') : Flow.sent s s' = calls := by
  obtain ⟨es, hes, hcalls⟩ := h.journal
  exact (Flow.sent_eq hes).trans hcalls

/-- Nothing is sent as long as the journal gets no requests and the scripts stay. -/
theorem takes_nil {es : Events} (hjournal : Journaling.journal s' = Journaling.journal s ++ es)
    (hcalls : callsIn es = []) (hscripts : S.script? s' = S.script? s) : S.Takes [] s s' where
  journal := ⟨es, hjournal, hcalls⟩
  known := fun c hc => absurd hc List.not_mem_nil
  script? k := by
    rw [hscripts]
    exact Option.map_id'.symm

theorem takes_refl (s : σ) : S.Takes [] s s :=
  takes_nil (List.append_nil _).symm rfl rfl

theorem Takes.trans (h : S.Takes calls s s') (h' : S.Takes calls' s' s'') :
    S.Takes (calls ++ calls') s s'' where
  journal := by
    obtain ⟨es, hes, hcalls⟩ := h.journal
    obtain ⟨es', hes', hcalls'⟩ := h'.journal
    exact ⟨es ++ es', by rw [hes', hes, List.append_assoc],
      by rw [callsIn_append, hcalls, hcalls']⟩
  known := fun c hc => (List.mem_append.1 hc).elim (h.known c) (h'.known c)
  script? k := by
    rw [h'.script?, h.script?, Option.map_map, count_append]
    exact congrArg (Option.map · _) (funext fun x => (x.after_add _ _).symm)

/-- All services are reached over the network. -/
def Reached (S : Services σ) (s : σ) : Prop :=
  ∀ k, (S.script? s k).isSome

theorem Takes.reached (h : S.Takes calls s s') (hs : S.Reached s) : S.Reached s' := by
  intro k
  rw [h.script?, Option.isSome_map]
  exact hs k

/-- One of the replies that were taken has no end. -/
def Stuck (S : Services σ) (calls : List Call) (s : σ) : Prop :=
  ∃ k script, S.script? s k = some script ∧ ∃ n < S.count calls k, IsEndless (script.reply n)

theorem Stuck.append (h : S.Stuck calls s) (calls' : List Call) : S.Stuck (calls ++ calls') s := by
  obtain ⟨k, script, hscript, n, hn, hendless⟩ := h
  refine ⟨k, script, hscript, n, ?_, hendless⟩
  rw [count_append]
  omega

/-- What is taken later is taken from what was left of the scripts. -/
theorem Takes.stuck (h : S.Takes calls s s') (hstuck : S.Stuck calls' s') :
    S.Stuck (calls ++ calls') s := by
  obtain ⟨k, script', hscript', n, hn, hendless⟩ := hstuck
  rw [h.script?] at hscript'
  obtain ⟨script, hscript, rfl⟩ := Option.map_eq_some_iff.1 hscript'
  refine ⟨k, script, hscript, S.count calls k + n, ?_, ?_⟩
  · rw [count_append]
    omega
  · rw [Script.reply, Script.after_add]
    exact hendless

end Services

/-! ## What flows wait for -/

/-- A flow that came out so waits without end, or has handed on such a wait in a value in `W`. -/
def Waits {α : Type} (W : α → Prop) : Except Problem α → Prop
  | .ok a => W a
  | .error (.failure _) => False
  | .error (.defect d) => d = .endless

/-- No value hands on a wait. -/
abbrev Never {α : Type} : α → Prop :=
  fun _ => False

theorem Waits.of_error {α β : Type} {W : α → Prop} {R : β → Prop} {p : Problem}
    (h : Waits R (.error p)) : Waits W (.error p) := by
  cases p with
  | failure f => exact h
  | defect d => exact h

theorem waits_never_iff {α : Type} {r : Except Problem α} :
    Waits Never r ↔ r = .error (.defect .endless) := by
  match r with
  | .ok a => simp [Waits]
  | .error (.failure f) => simp [Waits]
  | .error (.defect d) => simp [Waits]

section Rules

variable {σ τ α β ι : Type} [Journaling σ] [Journaling τ] {S : Services σ} {T : Services τ}
  {E E' : Prop} {W W' : α → Prop} {R : β → Prop}

/-- A flow takes one reply for each request that it sends, and waits without end only for one of
them, or because it goes on from such a wait. -/
def Awaits (S : Services σ) (E : Prop) (W : α → Prop) (x : Flow σ α) : Prop :=
  ∀ s, S.Reached s →
    ∃ calls, S.Takes calls s (run x s).2 ∧ (Waits W (run x s).1 → S.Stuck calls s ∨ E)

/-- What a flow waits for without end is a reply that it has taken. -/
theorem Awaits.stuck {x : Flow σ α} (h : Awaits S False Never x) {s : σ} (hs : S.Reached s)
    (hendless : (run x s).1 = .error (.defect .endless)) :
    S.Stuck (sent s (run x s).2) s := by
  obtain ⟨calls, htakes, hwaits⟩ := h s hs
  rw [htakes.sent_eq]
  exact (hwaits (waits_never_iff.2 hendless)).resolve_right id

/-- A flow that sends nothing. -/
theorem awaits_of_nil {x : Flow σ α} (htakes : ∀ s, S.Takes [] s (run x s).2)
    (hwaits : ∀ s, Waits W (run x s).1 → E) : Awaits S E W x := fun s _ =>
  ⟨[], htakes s, fun h => .inr (hwaits s h)⟩

/-- What changes neither the journal nor a script sends nothing. -/
theorem awaits_of_same {x : Flow σ α}
    (h : ∀ s, Journaling.journal (run x s).2 = Journaling.journal s ∧
      S.script? (run x s).2 = S.script? s)
    (hwaits : ∀ s, Waits W (run x s).1 → E) : Awaits S E W x := by
  refine awaits_of_nil (fun s => ?_) hwaits
  exact Services.takes_nil ((h s).1.trans (List.append_nil _).symm) callsIn_nil (h s).2

theorem Awaits.mono {x : Flow σ α} (h : Awaits S E W x) (hE : E → E') (hW : ∀ a, W' a → W a) :
    Awaits S E' W' x := by
  intro s hs
  obtain ⟨calls, htakes, hstuck⟩ := h s hs
  refine ⟨calls, htakes, fun hwaits => (hstuck ?_).imp_right hE⟩
  rcases hr : (run x s).1 with p | a <;> rw [hr] at hwaits
  · exact hwaits.of_error
  · exact hW a hwaits

/-- A flow that needs no excuse may have any. -/
theorem Awaits.excused {x : Flow σ α} (h : Awaits S False W x) : Awaits S E W x :=
  h.mono False.elim fun _ ha => ha

theorem awaits_pure {a : α} (h : W a → E) : Awaits S E W (pure a : Flow σ α) :=
  awaits_of_nil Services.takes_refl fun _ => h

theorem awaits_fail (f : Failure) : Awaits S E W (fail f : Flow σ α) :=
  awaits_of_nil Services.takes_refl fun _ => False.elim

theorem awaits_defect {d : Defect} (h : d = .endless → E) : Awaits S E W (defect d : Flow σ α) :=
  awaits_of_nil Services.takes_refl fun _ => h

theorem awaits_resume {r : Except Problem α} (h : Waits W r → E) :
    Awaits S E W (resume r : Flow σ α) :=
  awaits_of_nil Services.takes_refl fun _ => h

theorem awaits_get : Awaits S E Never (get : Flow σ σ) :=
  awaits_of_nil Services.takes_refl fun _ => False.elim

theorem awaits_write {es : Events} (h : callsIn es = []) :
    Awaits S E Never (write es : Flow σ Unit) :=
  awaits_of_nil
    (fun s => Services.takes_nil (S.journal_setJournal _ s) h (S.script?_setJournal _ s))
    fun _ => False.elim

theorem awaits_note (severity : Journal.Severity) (part message : String) (fields : Members) :
    Awaits S E Never (note severity part message fields : Flow σ Unit) :=
  awaits_write rfl

/-- What follows has to be shown for values only that the flow can give. -/
theorem Awaits.bind_of_value {x : Flow σ α} {f : α → Flow σ β} (hx : Awaits S E W x)
    (hf : ∀ a, (∃ s, (run x s).1 = .ok a) → Awaits S (E ∨ W a) R (f a)) :
    Awaits S E R (x >>= f) := by
  intro s hs
  obtain ⟨calls, htakes, hstuck⟩ := hx s hs
  rw [run_bind]
  rcases hr : run x s with ⟨p | a, s'⟩ <;> rw [hr] at htakes hstuck
  · exact ⟨calls, htakes, fun hwaits => hstuck hwaits.of_error⟩
  · have hvalue : ∃ s, (run x s).1 = .ok a := ⟨s, by rw [hr]⟩
    obtain ⟨calls', htakes', hstuck'⟩ := hf a hvalue s' (htakes.reached hs)
    refine ⟨calls ++ calls', htakes.trans htakes', fun hwaits => ?_⟩
    rcases hstuck' hwaits with hlater | hexcuse | ha
    · exact .inl (htakes.stuck hlater)
    · exact .inr hexcuse
    · exact (hstuck ha).imp_left fun h => h.append calls'

theorem Awaits.bind {x : Flow σ α} {f : α → Flow σ β} (hx : Awaits S E W x)
    (hf : ∀ a, Awaits S (E ∨ W a) R (f a)) : Awaits S E R (x >>= f) :=
  hx.bind_of_value fun a _ => hf a

theorem Awaits.outcome {x : Flow σ α} (h : Awaits S E W x) :
    Awaits S E (Waits W) (outcome x) := fun s => h s

/-- What a flow takes over a part of the state, it takes over the whole. -/
theorem Awaits.within {x : Flow τ α} (h : Awaits T E W x) {part : σ → τ} {put : τ → σ → σ}
    (hreached : ∀ s, S.Reached s → T.Reached (part s))
    (htakes : ∀ calls s t, T.Takes calls (part s) t → S.Takes calls s (put t s))
    (hstuck : ∀ calls s, T.Stuck calls (part s) → S.Stuck calls s) :
    Awaits S E W (within part put x) := by
  intro s hs
  obtain ⟨calls, hx, hwaits⟩ := h (part s) (hreached s hs)
  exact ⟨calls, htakes calls s _ hx, fun hw => (hwaits hw).imp_left (hstuck calls s)⟩

/-- A journal alone, without any services. -/
def journalAlone : Services Events where
  Kind := Empty
  name := Empty.elim
  script? _ := Empty.elim
  journal_setJournal _ _ := rfl
  script?_setJournal _ _ := rfl

theorem Awaits.lift {x : Journaled α} (h : Awaits journalAlone E W x) :
    Awaits S E W (x.lift : Flow σ α) := by
  refine h.within (fun _ _ k => k.elim) (fun calls s es htakes => ?_) fun _ _ ⟨k, _⟩ => k.elim
  obtain rfl : calls = [] :=
    List.eq_nil_iff_forall_not_mem.2 fun c hc => (htakes.known c hc).elim fun k _ => k.elim
  obtain ⟨es', hes, hcalls⟩ := htakes.journal
  exact Services.takes_nil ((S.journal_setJournal es s).trans hes) hcalls
    (S.script?_setJournal es s)

/-- By induction on the list: the flows are run one after another. -/
theorem awaits_mapM {f : ι → Flow σ α} {V : ι → Prop} {xs : List ι}
    (h : ∀ x ∈ xs, Awaits S (V x) W (f x)) :
    Awaits S (∃ x ∈ xs, V x) (fun ys => ∃ y ∈ ys, W y) (xs.mapM f) := by
  induction xs with
  | nil => exact awaits_pure fun ⟨y, hy, _⟩ => absurd hy List.not_mem_nil
  | cons x xs ih =>
    have hhead := (h x List.mem_cons_self).mono
      (fun hx => (⟨x, List.mem_cons_self, hx⟩ : ∃ x' ∈ x :: xs, V x')) fun _ hy => hy
    have htail := ih fun x' hx' => h x' (List.mem_cons_of_mem x hx')
    rw [List.mapM_cons]
    refine hhead.bind fun y => (htail.mono ?_ fun _ hys => hys).bind fun ys => awaits_pure ?_
    · rintro ⟨x', hx', hV⟩
      exact .inl ⟨x', List.mem_cons_of_mem x hx', hV⟩
    · rintro ⟨z, hz, hW⟩
      rcases List.mem_cons.1 hz with rfl | hz
      · exact .inl (.inr hW)
      · exact .inr ⟨z, hz, hW⟩

/-- Of flows that are waited for together, one that waits without end is among them. -/
theorem awaits_gather (ends : List (Except Problem α)) :
    Awaits S (∃ r ∈ ends, Waits W r) (fun as => ∃ a ∈ as, W a) (gather ends : Flow σ (List α)) := by
  have hall : ∀ rs : List (Except Problem α),
      Awaits S (∃ r ∈ rs, Waits W r) (fun as => ∃ a ∈ as, W a) (rs.mapM resume : Flow σ (List α)) :=
    fun rs => awaits_mapM fun _ _ => awaits_resume fun hr => hr
  unfold gather
  refine ((hall (ends.filter hasEnd)).mono ?_ fun _ has => has).bind fun _ =>
    (hall ends).mono .inl fun _ has => has
  rintro ⟨r, hr, hwaits⟩
  exact ⟨r, (List.mem_filter.1 hr).1, hwaits⟩

/-- A trial waits as its attempts do. -/
theorem Awaits.trial {t : Trial σ α} (hattempt : Awaits S E W t.attempt)
    (hfailed : ∀ n f, Awaits S False Never (t.failed n f))
    (hagain : ∀ n f, Awaits S False Never (t.again n f)) (left n : Nat) :
    Awaits S E W (t.run left n) := by
  induction left generalizing n with
  | zero =>
    rw [Trial.run.eq_def]
    refine hattempt.outcome.bind fun r => ?_
    split
    · split
      · exact (hfailed n _).excused.bind fun _ => awaits_fail _
      · exact awaits_fail _
    · exact awaits_resume .inr
  | succ left ih =>
    rw [Trial.run.eq_def]
    refine hattempt.outcome.bind fun r => ?_
    split
    · split
      · refine (hfailed n _).excused.bind fun _ => (hagain n _).excused.bind fun _ => ?_
        exact (ih (n + 1)).mono (fun h => .inl (.inl (.inl h))) fun _ ha => ha
      · exact awaits_fail _
    · exact awaits_resume .inr

end Rules

end TestScribe.Flow
