import TestScribe.Proofs.Gateway.Guarded

/-!
# How a stage ends

A stage is a call of one service.  How many requests it sends and what comes of it is read off the
breaker of the service, the time, and the replies of the service in their order (`Stage.requests`,
`Stage.result`), and that is what the call does when it is run (`Stage.run_flow`).  A stage that
passes on a result passes one on that its reader accepted (`Stage.accepts_of_result`).
-/

namespace TestScribe.Gateway.Client

open Transport TestScribe.Flow

/-- A call of one service, and how its data is read. -/
structure Stage (α : Type) where
  peer : Peer
  path : String
  body : Json
  name : String
  reader : Wire.Reader α

namespace Stage

variable {α : Type} (k : Stage α) (id : String)

/-- The request of a stage. -/
def request : Call :=
  callOf k.peer "POST" k.path (some k.body) (some id)

/-- The call of a stage. -/
def flow (s : Service.Surroundings) : Flow Client α :=
  Client.call s k.peer k.path k.body k.name k.reader (some id)

/-! ## The end of a stage, read off the replies -/

/-- What the reply after `n` others amounts to. -/
def answer (script : Script) (n : Nat) : Except Problem Json :=
  dataOf k.peer (.str id) (script.reply n)

/-- How often the request is sent again: as long as tries are left, replies allow for another one
and the pause before it can be kept. -/
def repeats (patience : Patience) (script : Script) : Nat :=
  ((List.range patience.retries).takeWhile fun n =>
    isRetried (k.answer id script n) && (patience.pause? (n + 1)).isSome).length

/-- What the last reply comes to: it decides, unless a pause is due that is too long. -/
def verdict (patience : Patience) (script : Script) : Except Problem α :=
  let n := k.repeats id patience script
  if isRetried (k.answer id script n) ∧ n < patience.retries then .error (.defect .overflow)
  else concluded k.peer k.name k.reader (some id) (k.answer id script n)

variable (s : Service.Surroundings) (b : Breaker Float) (t : Float) (script : Script)

/-- The number of requests of a stage that is asked for at `t` with the breaker `b`. -/
def requests : Nat :=
  if (b.attempt t).2 ∧ objection? (k.request id) = none then
    k.repeats id (Patience.ofSettings s.settings) script + 1
  else 0

/-- What comes of a stage that is asked for at `t` with the breaker `b`. -/
def result : Except Problem α :=
  if (b.attempt t).2 then
    match objection? (k.request id) with
    | some d => .error (.defect d)
    | none => k.verdict id (Patience.ofSettings s.settings) script
  else .error (.failure ((b.attempt t).1.refusal k.peer.name t (.str id)))

/-- A reply holds the data from which a result was read. -/
def Accepts (patience : Patience) (a : α) : Prop :=
  ∃ n ≤ patience.retries, ∃ data, k.answer id script n = .ok data ∧ k.reader data = .ok a

/-! ## Bounds and acceptance -/

theorem repeats_le (patience : Patience) : k.repeats id patience script ≤ patience.retries := by
  unfold repeats
  exact (List.takeWhile_prefix _).length_le.trans_eq List.length_range

/-- A stage sends its request once, and again as often as requests are sent again. -/
theorem requests_le :
    k.requests id s b t script ≤ (Patience.ofSettings s.settings).retries + 1 := by
  unfold requests
  split
  · exact Nat.succ_le_succ (k.repeats_le id script _)
  · exact Nat.zero_le _

theorem accepts_of_concluded {p : Peer} {name : String} {reader : Wire.Reader α}
    {id : Option String} {r : Except Problem Json} {a : α}
    (h : concluded p name reader id r = .ok a) : ∃ data, r = .ok data ∧ reader data = .ok a := by
  rcases r with e | data
  · cases h
  · cases hread : reader data with
    | ok a' =>
      simp only [concluded, hread, Except.ok.injEq] at h
      exact ⟨data, rfl, hread.trans (congrArg _ h)⟩
    | bad issues =>
      simp [concluded, hread] at h

/-- The result of a stage was accepted by its reader. -/
theorem accepts_of_result {a : α} (h : k.result id s b t script = .ok a) :
    k.Accepts id script (Patience.ofSettings s.settings) a := by
  unfold result at h
  split at h
  · split at h
    · cases h
    · unfold verdict at h
      simp only at h
      split at h
      · cases h
      · exact ⟨_, k.repeats_le id script _, accepts_of_concluded h⟩
  · cases h

/-! ## Running a stage -/

/-- The replies that allow for another try are counted from the first on. -/
theorem length_takeWhile_range {p : Nat → Bool} {limit n : Nat} (hle : n ≤ limit)
    (hearlier : ∀ k < n, p k = true) (hlast : n < limit → p n = false) :
    ((List.range limit).takeWhile p).length = n := by
  obtain ⟨m, rfl⟩ := Nat.exists_eq_add_of_le hle
  have hfirst : ∀ k ∈ List.range n, p k = true := fun k hk => hearlier k (List.mem_range.1 hk)
  rw [List.range_add, List.takeWhile_append_of_pos hfirst, List.length_append, List.length_range]
  cases m with
  | zero => rfl
  | succ m =>
    have hstop : p (n + 0) = false := hlast (by omega)
    rw [List.range_succ_eq_map, List.map_cons, List.takeWhile_cons, hstop]
    rfl

variable {k id script}

/-- The reply that decided a request is the last one that the stage counts. -/
theorem eq_verdict_of_decided {patience : Patience} {c : Client} {n : Nat}
    {e : Except Problem Json × Client}
    (h : Decided k.peer (.str id) (k.request id) patience script c n e) :
    k.repeats id patience script = n ∧
      concluded k.peer k.name k.reader (some id) e.1 = k.verdict id patience script := by
  have hearlier : ∀ j < n,
      (isRetried (k.answer id script j) && (patience.pause? (j + 1)).isSome) = true :=
    fun j hj => Bool.and_eq_true_iff.2 (h.earlier j hj)
  rcases h.outcome with ⟨hreply, hspent⟩ | ⟨hoverflow, hretried, hleft, hpause⟩
  · have hfinal : n < patience.retries → isRetried (k.answer id script n) = false := by
      intro hlt
      rw [← Bool.not_eq_true]
      intro hretried
      exact absurd (hspent (hreply ▸ hretried)) hlt.ne
    have hn : k.repeats id patience script = n :=
      length_takeWhile_range h.le_retries hearlier fun hlt => by rw [hfinal hlt, Bool.false_and]
    refine ⟨hn, ?_⟩
    have hdecides : ¬ (isRetried (k.answer id script n) = true ∧ n < patience.retries) := by
      rintro ⟨hretried, hlt⟩
      rw [hfinal hlt] at hretried
      cases hretried
    simp only [verdict, hn]
    rw [if_neg hdecides, hreply]
    rfl
  · have hn : k.repeats id patience script = n :=
      length_takeWhile_range h.le_retries hearlier fun _ => by rw [hpause]; simp
    refine ⟨hn, ?_⟩
    simp only [verdict, hn]
    rw [if_pos ⟨hretried, hleft⟩, hoverflow]
    rfl

variable (k id script)

/-- What is known of the client after a stage: what was sent, and, if the stage passed on a result,
that of clock, links and breakers only those of its own service have changed. -/
structure Left (c c' : Client) : Prop where
  journal : ∃ es, c'.backend.journal = c.backend.journal ++ es ∧
    callsIn es =
      List.replicate (k.requests id s (c.breakers k.peer) c.askedAt script) (k.request id)
  passed : ∀ a, k.result id s (c.breakers k.peer) c.askedAt script = .ok a →
    c'.clock = { c.clock with used := c.clock.used + 1 } ∧
    ∀ p ≠ k.peer, c'.links p = c.links p ∧ c'.breakers p = c.breakers p

/-- What is left after a stage that sent what it was to send, once its end is reported. -/
theorem left_of_reported (c : Client) (rest : Script) {es : Events}
    (hes : callsIn es =
      List.replicate (k.requests id s (c.breakers k.peer) c.askedAt script) (k.request id)) :
    k.Left id s script c
      (Flow.run (report s k.peer (.str id)
        (outcomeOf (k.result id s (c.breakers k.peer) c.askedAt script)))
        (advance k.peer rest es (c.asked k.peer))).2 where
  journal := by
    obtain ⟨told, htold, hnone⟩ := report_journal s k.peer (.str id)
      (outcomeOf (k.result id s (c.breakers k.peer) c.askedAt script))
      (advance k.peer rest es (c.asked k.peer))
    refine ⟨es ++ told, htold.trans (List.append_assoc _ _ _), ?_⟩
    rw [callsIn_append, hnone, List.append_nil, hes]
  passed := by
    intro a ha
    rw [ha]
    refine ⟨rfl, fun p hp => ⟨setFor_of_ne hp _ _, ?_⟩⟩
    exact (setFor_of_ne hp _ _).trans (setFor_of_ne hp _ _)

/-- A stage over the network ends as is read off the replies. -/
theorem run_flow {c : Client} (hlink : c.links k.peer = .remote script) :
    (Flow.run (k.flow id s) c).1 = k.result id s (c.breakers k.peer) c.askedAt script ∧
      k.Left id s script c (Flow.run (k.flow id s) c).2 := by
  rw [flow, call_eq_guarded]
  cases hadmit : c.admits k.peer with
  | false =>
    have hrefused : ((c.breakers k.peer).attempt c.askedAt).2 = false := hadmit
    rw [run_guarded_of_refused s k.peer _ c hadmit]
    have hresult : k.result id s (c.breakers k.peer) c.askedAt script =
        .error (.failure (((c.breakers k.peer).attempt c.askedAt).1.refusal k.peer.name c.askedAt
          (.str id))) := by
      simp [result, hrefused]
    refine ⟨hresult.symm, ⟨[], (List.append_nil _).symm, ?_⟩, fun a ha => ?_⟩
    · simp [requests, hrefused]
    · rw [hresult] at ha
      cases ha
  | true =>
    have hadmitted : ((c.breakers k.peer).attempt c.askedAt).2 = true := hadmit
    rw [run_guarded_of_admitted s k.peer _ c hadmit, run_action]
    cases hobjection : objection? (k.request id) with
    | some d =>
      have hobjection' := hobjection
      rw [request] at hobjection'
      rw [insist_of_objection s hobjection']
      have hresult : k.result id s (c.breakers k.peer) c.askedAt script = .error (.defect d) := by
        simp [result, hadmitted, hobjection]
      refine ⟨hresult.symm, ⟨[], (List.append_nil _).symm, ?_⟩, fun a ha => ?_⟩
      · simp [requests, hobjection]
      · rw [hresult] at ha
        cases ha
    | none =>
      obtain ⟨n, hn⟩ := insist_remote s (c := c.asked k.peer) hlink hobjection
      obtain ⟨hrepeats, hverdict⟩ := eq_verdict_of_decided (k := k) hn
      obtain ⟨es, hstate, hes⟩ := hn.state
      have hresult : k.result id s (c.breakers k.peer) c.askedAt script =
          k.verdict id (Patience.ofSettings s.settings) script := by
        simp [result, hadmitted, hobjection]
      simp only [hverdict, ← hresult, hstate]
      have hcount : k.requests id s (c.breakers k.peer) c.askedAt script = n + 1 := by
        simp [requests, hadmitted, hobjection, hrepeats]
      exact ⟨trivial, left_of_reported k id s script c _ (hcount ▸ hes)⟩

end Stage

end TestScribe.Gateway.Client
