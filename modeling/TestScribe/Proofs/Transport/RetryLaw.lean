import Mathlib.Data.List.Range
import Mathlib.Data.Nat.Digits.Defs
import Mathlib.Order.Bounds.Basic
import TestScribe.Proofs.Transport.Attempts

/-!
# The law of retries

What comes of attempts one after another is written on a tape: the outcome of each, the requests it
sends, and whether it hands something to the caller.  A trial whose attempts play a tape makes
attempts up to the first that is final, pauses twice as long after each, and ends like the last
(`Trial.tried_run`).  How the journal is kept between two attempts does not matter.
-/

namespace TestScribe

/-- The pauses among the things that were done. -/
def pausesIn (es : Events) : List Float :=
  es.filterMap fun
    | .pause x => some x
    | _ => none

@[simp] theorem pausesIn_nil : pausesIn [] = [] := rfl

@[simp] theorem pausesIn_append (es es' : Events) :
    pausesIn (es ++ es') = pausesIn es ++ pausesIn es' :=
  List.filterMap_append

@[simp] theorem pausesIn_pause (x : Float) : pausesIn [.pause x] = [x] := rfl

@[simp] theorem pausesIn_call (c : Call) : pausesIn [.call c] = [] := rfl

@[simp] theorem pausesIn_record (r : Journal.Record) : pausesIn [.record r] = [] := rfl

@[simp] theorem pausesIn_records (rs : List Journal.Record) : pausesIn (rs.map .record) = [] := by
  induction rs with
  | nil => rfl
  | cons r rs ih => exact ih

/-- The pauses that were made on the way from one state to a later one. -/
def Flow.paused {σ : Type} [Journaling σ] (before after : σ) : List Float :=
  pausesIn ((Journaling.journal after).drop (Journaling.journal before).length)

theorem Flow.paused_eq {σ : Type} [Journaling σ] {before after : σ} {es : Events}
    (h : Journaling.journal after = Journaling.journal before ++ es) :
    Flow.paused before after = pausesIn es := by
  rw [Flow.paused, h, List.drop_left]

namespace Transport

open TestScribe.Flow

/-! ## Pauses -/

/-- The pause after the `n`-th failure: the unit doubled `n` times. -/
def Patience.delay (p : Patience) (n : Nat) : Float :=
  p.base * Float.ofNat (2 ^ n)

/-- A power of two that is a floating-point number is read as that number. -/
theorem toFloat_two_pow {n : Nat} (h : n < 1024) :
    Decimal.toFloat false (2 ^ n) 0 = Float.ofNat (2 ^ n) := by
  have hlength : (toString (2 ^ n)).length ≤ 400 := by
    have hlt : 2 ^ n < 10 ^ 400 :=
      calc 2 ^ n < 2 ^ 1024 := Nat.pow_lt_pow_right (by norm_num) h
        _ < 10 ^ 400 := by decide +kernel
    exact Nat.repr_length _ _ (by norm_num) hlt
  have hzero : ¬ ((2 ^ n == 0) = true ∨ (0 : Int) + (toString (2 ^ n)).length < -400) := by
    have hpos : 2 ^ n ≠ 0 := by positivity
    simp only [beq_iff_eq, hpos, false_or]
    omega
  have hhuge : ¬ (400 < (0 : Int) + (toString (2 ^ n)).length) := by omega
  unfold Decimal.toFloat
  simp only [if_neg hzero, if_neg hhuge]
  show Float.ofScientific (2 ^ n * 1) false 0 = _
  rw [Nat.mul_one]
  rfl

theorem Patience.pause?_eq_delay (p : Patience) {n : Nat} (h : n < 1024) :
    p.pause? n = some (p.delay n) := by
  unfold pause? delay
  rw [if_pos h]
  exact congrArg (fun x => some (p.base * x)) (toFloat_two_pow h)

theorem Patience.eq_delay_of_pause? {p : Patience} {n : Nat} {x : Float}
    (h : p.pause? n = some x) : x = p.delay n := by
  by_cases hn : n < 1024
  · rw [p.pause?_eq_delay hn] at h
    exact (Option.some.inj h).symm
  · rw [Patience.pause?, if_neg hn] at h
    cases h

/-! ## Tapes -/

/-- What comes of attempts at something, the first being number one. -/
structure Tape (α : Type) where
  outcome : Nat → Except Problem α
  calls : Nat → List Call
  hands : Nat → Bool

/-- Whether an attempt failed because a service is unavailable or slow. -/
def isTransient {α : Type} : Except Problem α → Bool
  | .error (.failure f) => f.cause.isTransient
  | _ => false

/-- What was not given up by the caller is tried again if it may pass. -/
theorem isRetried_eq_isTransient {c : Cause} (h : c ≠ .cancelled) :
    c.isRetried = c.isTransient := by
  cases c with
  | cancelled => exact absurd rfl h
  | _ => rfl

namespace Tape

variable {α : Type}

/-- No attempt was given up by the caller. -/
def Uncancelled (t : Tape α) : Prop :=
  ∀ k f, t.outcome k = .error (.failure f) → f.cause ≠ .cancelled

/-- When attempt `k` is not followed by another one: it came out in some other way, no attempt is
left, or something was handed to the caller. -/
def Final (t : Tape α) (retries k : Nat) : Prop :=
  isTransient (t.outcome k) = false ∨ k = retries + 1 ∨ t.hands k = true

theorem Uncancelled.isRetried_eq {t : Tape α} (h : t.Uncancelled) (k : Nat) :
    isRetried (t.outcome k) = isTransient (t.outcome k) := by
  cases hk : t.outcome k with
  | ok a => rfl
  | error p =>
    cases p with
    | defect d => rfl
    | failure f => exact isRetried_eq_isTransient (h k f hk)

end Tape

/-! ## Playing a tape -/

/-- A state whose journal is what was put there. -/
class LawfulJournaling (σ : Type) [Journaling σ] : Prop where
  journal_setJournal : ∀ (es : Events) (s : σ), Journaling.journal (Journaling.setJournal es s) = es

section

variable {σ α : Type} [Journaling σ]

/-- Attempts play a tape from the states in `ready`, which count the attempts made: in a state where
nothing was handed over, the next one comes out and does as the tape says, whatever was written into
the journal in between. -/
structure Plays (handed : σ → Bool) (attempt : Flow σ α) (tape : Tape α) (ready : Nat → σ → Prop) :
    Prop where
  journal : ∀ k s es, ready k s → ready k (Journaling.setJournal es s)
  handed_journal : ∀ es s, handed (Journaling.setJournal es s) = handed s
  attempt : ∀ k s, ready k s → handed s = false →
    ∃ s' es, Flow.run attempt s = (tape.outcome (k + 1), s') ∧ ready (k + 1) s' ∧
      handed s' = tape.hands (k + 1) ∧ Journaling.journal s' = Journaling.journal s ++ es ∧
      callsIn es = tape.calls (k + 1) ∧ pausesIn es = []

/-- From a state in which nothing was handed over, attempts play a tape from its beginning. -/
def PlaysFrom (handed : σ → Bool) (attempt : Flow σ α) (tape : Tape α) (s : σ) : Prop :=
  handed s = false ∧ ∃ ready, Plays handed attempt tape ready ∧ ready 0 s

/-- How trying along a tape ended, attempt `n` being the last. -/
structure Tried (tape : Tape α) (p : Patience) (s : σ) (n : Nat) (e : Except Problem α × σ) :
    Prop where
  last : IsLeast {k | 1 ≤ k ∧ tape.Final p.retries k} n
  outcome : e.1 = tape.outcome n
  sent : Flow.sent s e.2 = (List.range' 1 n).flatMap tape.calls
  paused : Flow.paused s e.2 = (List.range' 1 (n - 1)).map p.delay

/-- Writing some notes, which are no requests, and making some pauses. -/
def Adds (x : Flow σ Unit) (s : σ) (pauses : List Float) : Prop :=
  ∃ es, Flow.run x s = (.ok (), Journaling.setJournal (Journaling.journal s ++ es) s) ∧
    callsIn es = [] ∧ pausesIn es = pauses

/-- What a trial does between two attempts: it notes a failure, and before another attempt it
pauses, unless something was handed over; then the failure is the end. -/
structure Waits (handed : σ → Bool) (t : Trial σ α) (p : Patience) : Prop where
  failed : ∀ n f s, Adds (t.failed n f) s []
  again : ∀ n f s, n < 1024 → handed s = false → Adds (t.again n f) s [p.delay n]
  ends : ∀ n f s, handed s = true → Flow.run (t.again n f) s = (.error (.failure f), s)

variable {handed : σ → Bool} {tape : Tape α} {ready : Nat → σ → Prop} {p : Patience} {s s' : σ}
  {left n : Nat}

/-! ## Before and after an attempt -/

/-- The state before attempt `n` when `left` more may follow it: no attempt before it was final. -/
structure Trying (handed : σ → Bool) (tape : Tape α) (ready : Nat → σ → Prop) (p : Patience) (s : σ)
    (left n : Nat) (s' : σ) : Prop where
  number : 1 ≤ n ∧ left + n = p.retries + 1
  ready : ready (n - 1) s'
  handed : handed s' = false
  earlier : ∀ k, 1 ≤ k → k < n → ¬ tape.Final p.retries k
  journal : ∃ es, Journaling.journal s' = Journaling.journal s ++ es ∧
    callsIn es = (List.range' 1 (n - 1)).flatMap tape.calls ∧
    pausesIn es = (List.range' 1 (n - 1)).map p.delay

/-- The state after attempt `n`, which did as the tape says. -/
structure Made (handed : σ → Bool) (tape : Tape α) (ready : Nat → σ → Prop) (p : Patience) (s : σ)
    (left n : Nat) (s' : σ) : Prop where
  number : 1 ≤ n ∧ left + n = p.retries + 1
  ready : ready n s'
  handed : handed s' = tape.hands n
  earlier : ∀ k, 1 ≤ k → k < n → ¬ tape.Final p.retries k
  journal : ∃ es, Journaling.journal s' = Journaling.journal s ++ es ∧
    callsIn es = (List.range' 1 n).flatMap tape.calls ∧
    pausesIn es = (List.range' 1 (n - 1)).map p.delay

/-- The next attempt does as the tape says. -/
theorem Trying.made {attempt : Flow σ α} (hplays : Plays handed attempt tape ready)
    (h : Trying handed tape ready p s left n s') :
    ∃ s₁, Flow.run attempt s' = (tape.outcome n, s₁) ∧ Made handed tape ready p s left n s₁ := by
  obtain ⟨k, rfl⟩ : ∃ k, n = k + 1 := ⟨n - 1, by have := h.number.1; omega⟩
  obtain ⟨s₁, es, hrun, hready, hhands, hjournal, hcalls, hpauses⟩ :=
    hplays.attempt k s' h.ready h.handed
  obtain ⟨es₀, hjournal₀, hcalls₀, hpauses₀⟩ := h.journal
  refine ⟨s₁, hrun, h.number, hready, hhands, h.earlier, es₀ ++ es, ?_, ?_, ?_⟩
  · rw [hjournal, hjournal₀, List.append_assoc]
  · rw [callsIn_append, hcalls₀, hcalls, List.range'_1_concat, List.flatMap_append]
    simp [Nat.add_comm]
  · rw [pausesIn_append, hpauses₀, hpauses, List.append_nil]

/-- If the attempt is final, trying ends with it. -/
theorem Made.tried {e : Except Problem α × σ} (h : Made handed tape ready p s left n e.2)
    (hfinal : tape.Final p.retries n) (houtcome : e.1 = tape.outcome n) : Tried tape p s n e := by
  obtain ⟨es, hjournal, hcalls, hpauses⟩ := h.journal
  refine ⟨⟨⟨h.number.1, hfinal⟩, ?_⟩, houtcome, ?_, ?_⟩
  · rintro k ⟨hk, hkfinal⟩
    by_contra hlt
    exact h.earlier k hk (not_le.1 hlt) hkfinal
  · rw [Flow.sent_eq hjournal, hcalls]
  · rw [Flow.paused_eq hjournal, hpauses]

section Between

variable [LawfulJournaling σ]

/-- Notes change nothing of what is known after an attempt. -/
theorem Made.noted {attempt : Flow σ α} (hplays : Plays handed attempt tape ready)
    (h : Made handed tape ready p s left n s') {x : Flow σ Unit} (hx : Adds x s' []) :
    ∃ s₁, Flow.run x s' = (.ok (), s₁) ∧ Made handed tape ready p s left n s₁ := by
  obtain ⟨es, hrun, hcalls, hpauses⟩ := hx
  obtain ⟨es₀, hjournal₀, hcalls₀, hpauses₀⟩ := h.journal
  refine ⟨_, hrun, h.number, hplays.journal _ _ _ h.ready,
    (hplays.handed_journal _ _).trans h.handed, h.earlier, es₀ ++ es, ?_, ?_, ?_⟩
  · rw [LawfulJournaling.journal_setJournal, hjournal₀, List.append_assoc]
  · rw [callsIn_append, hcalls₀, hcalls, List.append_nil]
  · rw [pausesIn_append, hpauses₀, hpauses, List.append_nil]

/-- After the pause the next attempt can be made. -/
theorem Made.trying {attempt : Flow σ α} (hplays : Plays handed attempt tape ready)
    (h : Made handed tape ready p s (left + 1) n s')
    (htransient : isTransient (tape.outcome n) = true) (hhands : tape.hands n = false)
    {x : Flow σ Unit} (hx : Adds x s' [p.delay n]) :
    ∃ s₁, Flow.run x s' = (.ok (), s₁) ∧ Trying handed tape ready p s left (n + 1) s₁ := by
  obtain ⟨es, hrun, hcalls, hpauses⟩ := hx
  obtain ⟨es₀, hjournal₀, hcalls₀, hpauses₀⟩ := h.journal
  obtain ⟨hpos, hleft⟩ := h.number
  refine ⟨_, hrun, ⟨Nat.le_add_left 1 n, by omega⟩, hplays.journal _ _ _ h.ready,
    (hplays.handed_journal _ _).trans (h.handed.trans hhands), ?_, es₀ ++ es, ?_, ?_, ?_⟩
  · intro k hk hlt
    rcases Nat.lt_succ_iff_lt_or_eq.1 hlt with hlt | rfl
    · exact h.earlier k hk hlt
    · rintro (hend | hend | hend)
      · rw [htransient] at hend
        cases hend
      · omega
      · rw [hhands] at hend
        cases hend
  · rw [LawfulJournaling.journal_setJournal, hjournal₀, List.append_assoc]
  · rw [callsIn_append, hcalls₀, hcalls, List.append_nil, Nat.add_sub_cancel]
  · obtain ⟨k, rfl⟩ : ∃ k, n = k + 1 := ⟨n - 1, by omega⟩
    rw [pausesIn_append, hpauses₀, hpauses, Nat.add_sub_cancel, Nat.add_sub_cancel,
      List.range'_1_concat, List.map_append]
    simp [Nat.add_comm]

/-! ## The law -/

/-- A trial whose attempts play a tape makes them up to the first that is final, and ends like it.
The induction is that of the trial, with `Trying` before each attempt. -/
theorem Trial.tried_run {t : Trial σ α} (hplays : PlaysFrom handed t.attempt tape s)
    (hwaits : Waits handed t p) (htape : tape.Uncancelled) (hretries : p.retries < 1024) :
    ∃ n, Tried tape p s n (Flow.run (t.run p.retries 1) s) := by
  obtain ⟨hhanded, ready, hplays, hready⟩ := hplays
  refine run_induction t (Trying handed tape ready p s) (fun e => ∃ n, Tried tape p s n e)
    ?_ ?_ ?_ _ _ _ ?_
  · -- the attempt came out in a way that is final
    intro left n s' h hfinal
    obtain ⟨s₁, hrun, hmade⟩ := h.made hplays
    rw [hrun] at hfinal ⊢
    rw [htape.isRetried_eq] at hfinal
    exact ⟨n, hmade.tried (.inl hfinal) rfl⟩
  · -- no attempt is left
    intro n s' s₁ f h hattempt hf
    obtain ⟨s₁, hrun, hmade⟩ := h.made hplays
    obtain ⟨houtcome, rfl⟩ := Prod.mk.inj (hrun.symm.trans hattempt)
    obtain ⟨s₂, hnote, hnoted⟩ := hmade.noted hplays (hwaits.failed n f s₁)
    rw [run_bind_of_ok hnote]
    have hlast : n = p.retries + 1 := by
      have := h.number.2
      omega
    exact ⟨n, hnoted.tried (.inr (.inl hlast)) houtcome.symm⟩
  · -- another attempt follows, unless something was handed over
    intro left n s' s₁ f h hattempt hf
    obtain ⟨s₁, hrun, hmade⟩ := h.made hplays
    obtain ⟨houtcome, rfl⟩ := Prod.mk.inj (hrun.symm.trans hattempt)
    obtain ⟨s₂, hnote, hnoted⟩ := hmade.noted hplays (hwaits.failed n f s₁)
    rw [run_bind_of_ok hnote]
    cases hhands : tape.hands n with
    | true =>
      rw [hwaits.ends n f s₂ (hnoted.handed.trans hhands)]
      exact ⟨n, hnoted.tried (.inr (.inr hhands)) houtcome.symm⟩
    | false =>
      have hless : n < 1024 := by
        have := h.number.2
        omega
      have htransient : isTransient (tape.outcome n) = true := by
        rw [← htape.isRetried_eq, houtcome]
        exact hf
      obtain ⟨s₃, hpause, htrying⟩ := hnoted.trying hplays htransient hhands
        (hwaits.again n f s₂ hless (hnoted.handed.trans hhands))
      rw [hpause]
      exact htrying
  · refine ⟨⟨le_refl 1, rfl⟩, hready, hhanded, ?_, [], (List.append_nil _).symm, rfl, rfl⟩
    intro k hk hlt
    omega

end Between

end

end Transport

end TestScribe
