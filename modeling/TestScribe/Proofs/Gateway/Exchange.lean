import Mathlib.Tactic.Set
import TestScribe.Gateway.Client
import TestScribe.Proofs.Transport.Attempts

/-!
# Exchanges of the gateway with a service

A request of the gateway that is sent again if need be.  Whatever comes back, it leaves the breakers
and the clock alone (`keeps_insist`); and over the network it is known what was sent and which reply
decided the outcome (`insist_remote`).
-/

namespace TestScribe.Gateway.Client

open Transport TestScribe.Flow

/-! ## What no exchange changes -/

/-- Whether a service is reached over the network. -/
def isRemote (c : Client) (p : Peer) : Bool :=
  match c.links p with
  | .remote _ => true
  | .inHouse => false

/-- What no exchange changes: the breakers, the clock, and which services are in house. -/
def watch (c : Client) : (Peer → Breaker Float) × Time.Clock × (Peer → Bool) :=
  (c.breakers, c.clock, c.isRemote)

variable (s : Service.Surroundings) (p : Peer)

theorem keeps_watch_write (es : Events) : Keeps watch (Flow.write es : Flow Client Unit) :=
  keeps_write (fun _ _ => rfl) es

theorem isRemote_setFor {c : Client} {script : Script} (h : c.links p = .remote script)
    (rest : Script) :
    isRemote { c with links := setFor p (.remote rest) c.links } = c.isRemote := by
  funext q
  by_cases hq : q = p
  · subst hq
    simp [isRemote, setFor, h]
  · simp [isRemote, setFor, hq]

theorem keeps_askInHouse (call : Call) : Keeps watch (askInHouse s p call) := by
  unfold askInHouse
  refine Keeps.bind (keeps_within ?_ _) fun _ => keeps_pure _
  exact fun _ _ => rfl

theorem keeps_ask (call : Call) : Keeps watch (ask s p call) := by
  intro c
  unfold ask
  rw [run_bind_of_ok (run_get c)]
  split
  · next script hlink =>
    split
    · rfl
    · rw [run_bind_of_ok (run_modify _ _)]
      exact congrArg (fun r => (c.breakers, c.clock, r)) (isRemote_setFor p hlink _)
  · split
    · rfl
    · exact keeps_askInHouse s p call c

theorem keeps_request (method path : String) (body : Option Json) (id : Option String) :
    Keeps watch (request s p method path body id) :=
  (keeps_ask s p _).bind fun _ => keeps_resume _

theorem keeps_noteFailed (id : Json) (n : Nat) (f : Failure) : Keeps watch (noteFailed p id n f) :=
  keeps_watch_write _

theorem keeps_pauseBefore (patience : Patience) (n : Nat) :
    Keeps watch (pauseBefore patience n) := by
  unfold pauseBefore
  split
  · exact keeps_defect _
  · exact keeps_watch_write _

/-- The trial that sending a request is. -/
def trialOf (p : Peer) (id : Json) (patience : Patience) (attempt : Flow Client Json) :
    Trial Client Json :=
  { attempt, failed := noteFailed p id, again := fun n _ => pauseBefore patience n }

theorem insist_eq_run (id : Json) (attempt : Flow Client Json) :
    insist s p id attempt =
      (trialOf p id (Patience.ofSettings s.settings) attempt).run
        (Patience.ofSettings s.settings).retries 1 :=
  rfl

theorem keeps_insist (id : Json) {attempt : Flow Client Json} (h : Keeps watch attempt) :
    Keeps watch (insist s p id attempt) :=
  Trial.keeps_run _ h (keeps_noteFailed p id) (fun n _ => keeps_pauseBefore _ n) _ _

/-! ## Requests that are sent again -/

/-- The client after a script went on and things were done. -/
def advance (script : Script) (es : Events) (c : Client) : Client :=
  { c with
    links := setFor p (.remote script) c.links
    backend := { c.backend with journal := c.backend.journal ++ es } }

variable {p}

@[simp] theorem setFor_self {α : Type} (x : α) (f : Peer → α) : setFor p x f p = x :=
  if_pos rfl

theorem setFor_of_ne {α : Type} {q : Peer} (h : q ≠ p) (x : α) (f : Peer → α) :
    setFor p x f q = f q :=
  if_neg h

@[simp] theorem setFor_setFor {α : Type} (x y : α) (f : Peer → α) :
    setFor p x (setFor p y f) = setFor p x f := by
  funext q
  unfold setFor
  split <;> rfl

theorem setFor_eq_self {α : Type} {x : α} {f : Peer → α} (h : f p = x) : setFor p x f = f := by
  funext q
  unfold setFor
  split
  · next hq => rw [hq, h]
  · rfl

@[simp] theorem advance_advance (script script' : Script) (es es' : Events) (c : Client) :
    advance p script' es' (advance p script es c) = advance p script' (es ++ es') c := by
  simp [advance, List.append_assoc]

@[simp] theorem advance_links (script : Script) (es : Events) (c : Client) :
    (advance p script es c).links p = .remote script :=
  setFor_self _ _

theorem advance_nil {script : Script} {c : Client} (h : c.links p = .remote script) :
    advance p script [] c = c := by
  simp [advance, setFor_eq_self h]

theorem run_write_advance (script : Script) (es es' : Events) (c : Client) :
    Flow.run (Flow.write es') (advance p script es c) =
      (.ok (), advance p script (es ++ es') c) := by
  rw [← advance_advance script script]
  simp [advance, Journaling.setJournal, Journaling.journal]

theorem run_ask_of_writable {call : Call} (h : objection? call = none) (script : Script) (n : Nat)
    (es : Events) (c : Client) :
    Flow.run (ask s p call) (advance p (script.after n) es c) =
      (.ok (script.reply n), advance p (script.after (n + 1)) (es ++ [.call call]) c) := by
  unfold ask
  rw [run_bind_of_ok (run_get _), advance_links]
  simp only [send_of_writable h]
  rw [run_bind_of_ok (run_modify _ _), ← advance_advance (script.after n)]
  rfl

theorem run_ask_of_objection {call : Call} {d : Defect} (h : objection? call = some d)
    (c : Client) : Flow.run (ask s p call) c = (.error (.defect d), c) := by
  unfold ask
  rw [run_bind_of_ok (run_get _)]
  cases c.links p with
  | remote script =>
    simp only [send_of_objection h]
    rfl
  | inHouse =>
    simp only [h]
    rfl

/-- The request that a client sends to a service. -/
def callOf (p : Peer) (method path : String) (body : Option Json) (id : Option String) : Call :=
  { service := p.name, method, path, body, correlation := id.filter (· != "") }

section Request

variable {method path : String} {body : Option Json} {id : Option String}

theorem request_eq :
    request s p method path body id =
      ask s p (callOf p method path body id) >>= fun r =>
        Flow.resume (dataOf p (.ofString? id) r) :=
  rfl

theorem run_request_of_writable (h : objection? (callOf p method path body id) = none)
    (script : Script) (n : Nat) (es : Events) (c : Client) :
    Flow.run (request s p method path body id) (advance p (script.after n) es c) =
      (dataOf p (.ofString? id) (script.reply n),
        advance p (script.after (n + 1)) (es ++ [.call (callOf p method path body id)]) c) := by
  rw [request_eq, run_bind_of_ok (run_ask_of_writable s h script n es c)]
  rfl

theorem run_request_of_objection {d : Defect}
    (h : objection? (callOf p method path body id) = some d) (c : Client) :
    Flow.run (request s p method path body id) c = (.error (.defect d), c) := by
  rw [request_eq, run_bind_of_error (run_ask_of_objection s h c)]

/-- The state after the reply with `n` others before it, all of which were failures that allow for
another try after a pause that can be kept; each reply answers one request. -/
structure Answered (p : Peer) (id : Json) (call : Call) (patience : Patience) (script : Script)
    (c : Client) (n : Nat) (c' : Client) : Prop where
  le_retries : n ≤ patience.retries
  earlier : ∀ k < n, isRetried (dataOf p id (script.reply k)) = true ∧
    (patience.pause? (k + 1)).isSome
  state : ∃ es, c' = advance p (script.after (n + 1)) es c ∧
    callsIn es = List.replicate (n + 1) call

/-- How a request to a service came out, the reply after `n` others being the last: it decides,
unless the pause before another try is too long. -/
structure Decided (p : Peer) (id : Json) (call : Call) (patience : Patience) (script : Script)
    (c : Client) (n : Nat) (e : Except Problem Json × Client) : Prop
    extends Answered p id call patience script c n e.2 where
  outcome : e.1 = dataOf p id (script.reply n) ∧ (isRetried e.1 = true → n = patience.retries) ∨
    e.1 = .error (.defect .overflow) ∧ isRetried (dataOf p id (script.reply n)) = true ∧
      n < patience.retries ∧ patience.pause? (n + 1) = none

/-- The state before the attempt with number `n`, which is the first or follows failures. -/
def Pending (p : Peer) (id : Json) (call : Call) (patience : Patience) (script : Script)
    (c : Client) (left n : Nat) (c' : Client) : Prop :=
  ∃ k es, n = k + 1 ∧ left + k = patience.retries ∧ c' = advance p (script.after k) es c ∧
    callsIn es = List.replicate k call ∧
      ∀ j < k, isRetried (dataOf p id (script.reply j)) = true ∧ (patience.pause? (j + 1)).isSome

theorem run_noteFailed (id : Json) (n : Nat) (f : Failure) (script : Script) (es : Events)
    (c : Client) : ∃ r, Flow.run (noteFailed p id n f) (advance p script es c) =
      (.ok (), advance p script (es ++ [.record r]) c) :=
  ⟨_, run_write_advance script es _ c⟩

theorem run_pauseBefore_of_none {patience : Patience} {n : Nat} (h : patience.pause? n = none)
    (c : Client) : Flow.run (pauseBefore patience n) c = (.error (.defect .overflow), c) := by
  unfold pauseBefore
  rw [h]
  rfl

theorem run_pauseBefore_of_some {patience : Patience} {n : Nat} {x : Float}
    (h : patience.pause? n = some x) (script : Script) (es : Events) (c : Client) :
    Flow.run (pauseBefore patience n) (advance p script es c) =
      (.ok (), advance p script (es ++ [.pause x]) c) := by
  unfold pauseBefore
  rw [h]
  exact run_write_advance script es _ c

section Steps

variable {patience : Patience} {script : Script} {c c' : Client} {left n k : Nat}

/-- An attempt takes the next reply. -/
theorem answered_of_pending (hwritable : objection? (callOf p method path body id) = none)
    (h : Pending p (.ofString? id) (callOf p method path body id) patience script c left n c') :
    ∃ k c'', n = k + 1 ∧ left + k = patience.retries ∧
      Flow.run (request s p method path body id) c' =
        (dataOf p (.ofString? id) (script.reply k), c'') ∧
      Answered p (.ofString? id) (callOf p method path body id) patience script c k c'' := by
  obtain ⟨k, es, rfl, hleft, rfl, hes, hearlier⟩ := h
  exact ⟨k, _, rfl, hleft, run_request_of_writable s hwritable script k es c,
    by omega, hearlier, _, rfl, callsIn_snoc hes⟩

/-- Noting a failure changes nothing of what was answered. -/
theorem Answered.noteFailed {id : Json} {call : Call}
    (h : Answered p id call patience script c k c') (n : Nat) (f : Failure) :
    ∃ c'', Flow.run (noteFailed p id n f) c' = (.ok (), c'') ∧
      Answered p id call patience script c k c'' := by
  obtain ⟨es, rfl, hes⟩ := h.state
  obtain ⟨r, hrun⟩ := run_noteFailed (p := p) id n f (script.after (k + 1)) es c
  refine ⟨_, hrun, h.le_retries, h.earlier, _, rfl, ?_⟩
  rw [callsIn_append, callsIn_record, List.append_nil]
  exact hes

/-- After the pause another try is pending. -/
theorem pending_of_answered {id : Json} {call : Call}
    (h : Answered p id call patience script c k c') (hleft : left + 1 + k = patience.retries)
    (hretried : isRetried (dataOf p id (script.reply k)) = true) {x : Float}
    (hpause : patience.pause? (k + 1) = some x) :
    ∃ c'', Flow.run (pauseBefore patience (k + 1)) c' = (.ok (), c'') ∧
      Pending p id call patience script c left (k + 1 + 1) c'' := by
  obtain ⟨es, rfl, hes⟩ := h.state
  refine ⟨_, run_pauseBefore_of_some hpause _ es c, k + 1, _, rfl, by omega, rfl, ?_,
    fun j hj => ?_⟩
  · rw [callsIn_append, callsIn_pause, List.append_nil]
    exact hes
  · rcases Nat.lt_succ_iff_lt_or_eq.1 hj with hlt | rfl
    · exact h.earlier j hlt
    · exact ⟨hretried, Option.isSome_of_eq_some hpause⟩

end Steps

/-- A request that can be written is sent until a reply decides. -/
theorem insist_remote {script : Script} {c : Client} (hlink : c.links p = .remote script)
    (hwritable : objection? (callOf p method path body id) = none) :
    ∃ n, Decided p (.ofString? id) (callOf p method path body id)
      (Patience.ofSettings s.settings) script c n
      (Flow.run (insist s p (.ofString? id) (request s p method path body id)) c) := by
  rw [insist_eq_run]
  set call := callOf p method path body id
  set patience := Patience.ofSettings s.settings
  refine Trial.run_induction _ (Pending p (.ofString? id) call patience script c)
    (fun e => ∃ n, Decided p (.ofString? id) call patience script c n e) ?_ ?_ ?_ _ _ _ ?_
  · -- the reply is no failure that allows for another try
    intro left n c' hpending hfinal
    obtain ⟨k, c'', rfl, -, hrun, hanswered⟩ := answered_of_pending s hwritable hpending
    simp only [trialOf, hrun] at hfinal ⊢
    refine ⟨k, hanswered, .inl ⟨rfl, fun hr => ?_⟩⟩
    rw [hr] at hfinal
    cases hfinal
  · -- no try is left
    intro n c' c'' f hpending hattempt hf
    obtain ⟨k, c'', rfl, hleft, hrun, hanswered⟩ := answered_of_pending s hwritable hpending
    obtain ⟨hreply, rfl⟩ := Prod.mk.inj (hrun.symm.trans hattempt)
    obtain ⟨c₁, hnote, hnoted⟩ := hanswered.noteFailed (k + 1) f
    simp only [trialOf]
    rw [run_bind_of_ok hnote]
    exact ⟨k, hnoted, .inl ⟨hreply.symm, fun _ => by omega⟩⟩
  · -- another try follows, unless the pause before it is too long
    intro left n c' c'' f hpending hattempt hf
    obtain ⟨k, c'', rfl, hleft, hrun, hanswered⟩ := answered_of_pending s hwritable hpending
    obtain ⟨hreply, rfl⟩ := Prod.mk.inj (hrun.symm.trans hattempt)
    obtain ⟨c₁, hnote, hnoted⟩ := hanswered.noteFailed (k + 1) f
    have hretried : isRetried (dataOf p (.ofString? id) (script.reply k)) = true := by
      rw [hreply]
      exact hf
    simp only [trialOf]
    rw [run_bind_of_ok hnote]
    cases hpause : patience.pause? (k + 1) with
    | none =>
      rw [run_pauseBefore_of_none hpause]
      exact ⟨k, hnoted, .inr ⟨rfl, hretried, by omega, hpause⟩⟩
    | some x =>
      obtain ⟨c₂, hpaused, hnext⟩ := pending_of_answered hnoted hleft hretried hpause
      rw [hpaused]
      exact hnext
  · exact ⟨0, [], rfl, rfl, (advance_nil hlink).symm, rfl,
      fun j hj => absurd hj (Nat.not_lt_zero j)⟩

/-- A request that cannot be written is not sent. -/
theorem insist_of_objection {d : Defect}
    (h : objection? (callOf p method path body id) = some d) (c : Client) :
    Flow.run (insist s p (.ofString? id) (request s p method path body id)) c =
      (.error (.defect d), c) := by
  have hrun := run_request_of_objection s h c
  rw [insist_eq_run, Trial.run_of_final]
  · exact hrun
  · change isRetried (Flow.run (request s p method path body id) c).1 = false
    rw [hrun]
    rfl

end Request

end TestScribe.Gateway.Client
