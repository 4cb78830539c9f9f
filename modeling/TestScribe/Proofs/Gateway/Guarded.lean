import TestScribe.Proofs.Breaker.History
import TestScribe.Proofs.Gateway.Exchange

/-!
# Calls through a breaker

What a call of the gateway does to the breakers and to the network.  A call tells the breaker of its
service that it is asked for and, if it is let through, once how it came out (`call_breakers`); a
call that is refused sends nothing (`call_of_refused`), and one that is let through sends its own
request again and again until a reply decides (`call_remote`).
-/

namespace TestScribe.Gateway.Client

open Transport TestScribe.Flow

/-- The reading of the clock at which a call is asked for. -/
def askedAt (c : Client) : Float :=
  c.clock.reading c.clock.used

/-- The reading of the clock at which a failure of that call is reported. -/
def reportedAt (c : Client) : Float :=
  c.clock.reading (c.clock.used + 1)

/-- Whether the breaker of a service lets a call through. -/
def admits (c : Client) (p : Peer) : Bool :=
  ((c.breakers p).attempt c.askedAt).2

/-- The client after a call of a service was asked for. -/
def asked (c : Client) (p : Peer) : Client :=
  { c with
    clock := { c.clock with used := c.clock.used + 1 }
    breakers := setFor p ((c.breakers p).attempt c.askedAt).1 c.breakers }

/-- What a call that came out as `r` told the breaker of its service. -/
def told {α : Type} (c : Client) (p : Peer) (r : Except Problem α) : List (Breaker.Step Float) :=
  .attempt c.askedAt ::
    if c.admits p then
      match outcomeOf r with
      | some .success => [.success]
      | some .failure => [.failure c.reportedAt]
      | none => []
    else []

variable (s : Service.Surroundings) (p : Peer)

/-- The breaker of a service after some steps. -/
def runBreaker (b : Breaker Float) (h : List (Breaker.Step Float)) : Breaker Float :=
  Breaker.run (protection s).threshold (protection s).cooldown b h

/-! ## Reports -/

section Report

variable (id : Json) (o : Option Outcome) (c : Client)

theorem report_breakers :
    (Flow.run (report s p id o) c).2.breakers =
      setFor p ((c.breakers p).report (protection s) c.askedAt o) c.breakers := by
  match o with
  | none => exact (setFor_eq_self rfl).symm
  | some .success => rfl
  | some .failure => rfl

theorem report_journal :
    ∃ es, (Flow.run (report s p id o) c).2.backend.journal = c.backend.journal ++ es ∧
      callsIn es = [] := by
  match o with
  | none => exact ⟨[], (List.append_nil _).symm, rfl⟩
  | some .success => exact ⟨[], (List.append_nil _).symm, rfl⟩
  | some .failure =>
    refine ⟨_, rfl, ?_⟩
    unfold Breaker.change
    split <;> rfl

theorem report_isRemote : (Flow.run (report s p id o) c).2.isRemote = c.isRemote := by
  match o with
  | none => rfl
  | some .success => rfl
  | some .failure => rfl

end Report

/-! ## Guarded actions -/

section Guarded

variable {α : Type} (id : Json) {action : Flow Client α} (c : Client)

/-- A call that is refused fails at once. -/
theorem run_guarded_of_refused (h : c.admits p = false) :
    Flow.run (guarded s p id action) c =
      (.error (.failure (((c.breakers p).attempt c.askedAt).1.refusal p.name c.askedAt id)),
        c.asked p) := by
  change Flow.run (if c.admits p then _ else _) (c.asked p) = _
  rw [h]
  rfl

/-- A call that is let through takes place, and is reported. -/
theorem run_guarded_of_admitted (h : c.admits p = true) :
    Flow.run (guarded s p id action) c =
      ((Flow.run action (c.asked p)).1,
        (Flow.run (report s p id (outcomeOf (Flow.run action (c.asked p)).1))
          (Flow.run action (c.asked p)).2).2) := by
  change Flow.run (if c.admits p then _ else _) (c.asked p) = _
  rw [h, if_pos rfl, run_bind_of_ok (run_outcome _ action), run_bind]
  rcases Flow.run action (c.asked p) with ⟨r, c'⟩
  match outcomeOf r with
  | none => rfl
  | some .success => rfl
  | some .failure => rfl

/-- A guarded action that leaves breakers and clock alone tells its breaker what `told` says. -/
theorem guarded_breakers (h : Keeps watch action) :
    (Flow.run (guarded s p id action) c).2.breakers =
      setFor p (runBreaker s (c.breakers p) (c.told p (Flow.run (guarded s p id action) c).1))
        c.breakers := by
  cases hadmit : c.admits p with
  | false =>
    rw [run_guarded_of_refused s p id c hadmit]
    simp [told, hadmit, runBreaker, Breaker.run, Breaker.step, asked]
  | true =>
    rw [run_guarded_of_admitted s p id c hadmit, report_breakers]
    have hwatch := h (c.asked p)
    rcases hrun : Flow.run action (c.asked p) with ⟨r, c'⟩
    rw [hrun] at hwatch
    have hbreakers : c'.breakers = (c.asked p).breakers := congrArg Prod.fst hwatch
    have hclock : c'.clock = (c.asked p).clock := congrArg (·.2.1) hwatch
    have htime : c'.askedAt = c.reportedAt := by
      unfold askedAt
      rw [hclock]
      rfl
    rw [hbreakers, htime]
    simp only [asked, setFor_self, setFor_setFor, told, hadmit, if_true, runBreaker]
    cases outcomeOf r with
    | none => rfl
    | some o => cases o <;> rfl

/-- A guarded action that leaves the links of the services as they are keeps them so. -/
theorem guarded_isRemote (h : Keeps watch action) :
    (Flow.run (guarded s p id action) c).2.isRemote = c.isRemote := by
  cases hadmit : c.admits p with
  | false =>
    rw [run_guarded_of_refused s p id c hadmit]
    rfl
  | true =>
    rw [run_guarded_of_admitted s p id c hadmit, report_isRemote]
    exact congrArg (·.2.2) (h (c.asked p))

end Guarded

/-! ## Calls of a stage -/

section Call

variable {α : Type} (path : String) (body : Json) (name : String) (reader : Wire.Reader α)
  (id : Option String)

/-- What a call gives back for the end of its request. -/
def concluded : Except Problem Json → Except Problem α
  | .error e => .error e
  | .ok v =>
    match reader v with
    | .ok a => .ok a
    | .bad issues => .error (.failure (malformed p (.ofString? id) (Wire.headline name issues)))

/-- What a call does once it is let through. -/
def action : Flow Client α := do
  let data ← insist s p (.ofString? id) (request s p "POST" path (some body) id)
  match reader data with
  | .ok a => return a
  | .bad issues => Flow.fail (malformed p (.ofString? id) (Wire.headline name issues))

theorem call_eq_guarded :
    call s p path body name reader id =
      guarded s p (.ofString? id) (action s p path body name reader id) :=
  rfl

theorem run_action (c : Client) :
    Flow.run (action s p path body name reader id) c =
      (concluded p name reader id
        (Flow.run (insist s p (.ofString? id) (request s p "POST" path (some body) id)) c).1,
      (Flow.run (insist s p (.ofString? id) (request s p "POST" path (some body) id)) c).2) := by
  unfold action
  rw [run_bind]
  rcases Flow.run (insist s p (.ofString? id) (request s p "POST" path (some body) id)) c with
    ⟨e | v, c'⟩
  · rfl
  · simp only [concluded]
    cases reader v <;> rfl

theorem keeps_action : Keeps watch (action s p path body name reader id) := by
  intro c
  rw [run_action]
  exact keeps_insist s p _ (keeps_request s p _ _ _ _) c

variable (c : Client)

/-- A call tells the breaker of its service what `told` says, and no other breaker anything. -/
theorem call_breakers :
    (Flow.run (call s p path body name reader id) c).2.breakers =
      setFor p (runBreaker s (c.breakers p)
        (c.told p (Flow.run (call s p path body name reader id) c).1)) c.breakers :=
  guarded_breakers s p _ c (keeps_action s p path body name reader id)

theorem call_isRemote :
    (Flow.run (call s p path body name reader id) c).2.isRemote = c.isRemote :=
  guarded_isRemote s p _ c (keeps_action s p path body name reader id)

/-- A call that is refused fails with its service unavailable, and nothing is written down. -/
theorem call_of_refused (h : c.admits p = false) :
    (∃ f, (Flow.run (call s p path body name reader id) c).1 = .error (.failure f) ∧
      f.cause = .unavailable) ∧
    (Flow.run (call s p path body name reader id) c).2.backend.journal = c.backend.journal := by
  rw [call_eq_guarded, run_guarded_of_refused s p _ c h]
  exact ⟨⟨_, rfl, rfl⟩, rfl⟩

/-- How a call came out that was let through: nothing could be sent, or the reply after `n` others
decided. -/
def CallEnds (script : Script) (es : Events) (r : Except Problem α) : Prop :=
  (callsIn es = [] ∧ ∃ d, r = .error (.defect d)) ∨
    ∃ n, callsIn es = List.replicate (n + 1) (callOf p "POST" path (some body) id) ∧
      (r = concluded p name reader id (dataOf p (.ofString? id) (script.reply n)) ∨
        r = .error (.defect .overflow) ∧
          isRetried (dataOf p (.ofString? id) (script.reply n)) = true)

/-- A call that is let through sends only its own request, and the last reply decides. -/
theorem call_remote {script : Script} (hlink : c.links p = .remote script)
    (h : c.admits p = true) :
    ∃ es, (Flow.run (call s p path body name reader id) c).2.backend.journal =
        c.backend.journal ++ es ∧
      CallEnds p path body name reader id script es
        (Flow.run (call s p path body name reader id) c).1 := by
  rw [call_eq_guarded, run_guarded_of_admitted s p _ c h, run_action]
  obtain ⟨told, htold, hnone⟩ := report_journal s p (.ofString? id)
    (outcomeOf (concluded p name reader id
      (Flow.run (insist s p (.ofString? id) (request s p "POST" path (some body) id))
        (c.asked p)).1))
    (Flow.run (insist s p (.ofString? id) (request s p "POST" path (some body) id)) (c.asked p)).2
  rw [htold]
  cases hobjection : objection? (callOf p "POST" path (some body) id) with
  | some d =>
    rw [insist_of_objection s hobjection]
    exact ⟨told, rfl, .inl ⟨hnone, d, rfl⟩⟩
  | none =>
    obtain ⟨n, hn⟩ := insist_remote s (c := c.asked p) hlink hobjection
    obtain ⟨es, hstate, hes⟩ := hn.state
    rw [hstate]
    refine ⟨es ++ told, List.append_assoc _ _ _, .inr ⟨n, ?_, ?_⟩⟩
    · rw [callsIn_append, hes, hnone, List.append_nil]
    · rcases hn.outcome with ⟨hreply, -⟩ | ⟨hoverflow, hretried, -⟩
      · rw [hreply]
        exact .inl rfl
      · rw [hoverflow]
        exact .inr ⟨rfl, hretried⟩

end Call

end TestScribe.Gateway.Client
