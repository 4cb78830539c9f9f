import TestScribe.Generation.Backend
import TestScribe.Proofs.Generation.Delivery
import TestScribe.Proofs.Transport.RetryLaw

/-!
# Asking the model for text

A request for text is sent again only as long as nothing was handed on.  So what was handed on at
the end is what the last reply delivers, and the replies before it delivered nothing
(`insist_text`); `run_stream` puts the look at the clock before and after around it.
-/

namespace TestScribe.Generation

open Transport

/-! ## How attempts fail -/

/-- What fails an attempt: trouble on the way, an answer with an error, or an error on a line. -/
theorem failed_attemptOf {action : String} {r : Reply} {f : Failure}
    (h : (attemptOf action r).finish = .failed f) :
    (∃ m, f = mishapFailure action m) ∨ (∃ a, f = statusFailure action a) ∨
      ∃ e : Json, f = .plain .serviceFault e.plain := by
  have hending : ∀ {x : Finish} {e : Ending}, finishOf action x e = .failed f →
      x = .failed f ∨ ∃ m, f = mishapFailure action m := by
    intro x e he
    cases e with
    | complete => exact .inl he
    | broken m => exact .inr ⟨m, (Finish.failed.inj he).symm⟩
    | endless => cases he
  cases r with
  | mishap m => exact .inl ⟨m, (Finish.failed.inj h).symm⟩
  | answer a =>
    unfold attemptOf at h
    dsimp only at h
    split at h
    · rcases hending h with hstatus | hmishap
      · exact .inr (.inl ⟨a, (Finish.failed.inj hstatus).symm⟩)
      · exact .inl hmishap
    · unfold attemptOfLines at h
      dsimp only at h
      split at h
      · next e hfollow =>
        obtain rfl := Finish.failed.inj h
        rw [failure_follow] at hfollow
        obtain ⟨v, -, rfl⟩ := Option.map_eq_some_iff.1 hfollow
        exact .inr (.inr ⟨v, rfl⟩)
      · rcases hending h with hdone | hmishap
        · cases hdone
        · exact .inl hmishap

theorem cause_mishapFailure_ne (action : String) (m : Mishap) :
    (mishapFailure action m).cause ≠ .cancelled := by
  unfold mishapFailure
  cases m.trouble with
  | _ => exact Cause.noConfusion

theorem cause_statusFailure_ne (action : String) (a : Answer) :
    (statusFailure action a).cause ≠ .cancelled := by
  unfold statusFailure
  dsimp only
  split
  · exact Cause.noConfusion
  · split
    · exact Cause.noConfusion
    · exact Cause.noConfusion

/-- No attempt fails as if it had been called off. -/
theorem cause_attemptOf_ne {action : String} {r : Reply} {f : Failure}
    (h : (attemptOf action r).finish = .failed f) : f.cause ≠ .cancelled := by
  rcases failed_attemptOf h with ⟨m, rfl⟩ | ⟨a, rfl⟩ | ⟨e, rfl⟩
  · exact cause_mishapFailure_ne action m
  · exact cause_statusFailure_ne action a
  · exact Cause.noConfusion

end TestScribe.Generation

namespace TestScribe.Generation.Backend

open Transport TestScribe.Flow

/-- The request for text. -/
def textCall (s : Settings) (prompt : String) (options : Option Options) : Call :=
  { service := "ollama", method := "POST", path := "/api/generate"
    body := some (payload s prompt options true), correlation := none }

/-- One attempt to get text. -/
def attemptText (s : Settings) (prompt : String) (options : Option Options) (stop : Stop) :
    Flow Backend Unit := do
  let reply ← ask "POST" "/api/generate" (some (payload s prompt options true))
  take stop (attemptOf textAction reply)

/-- The backend after a script went on, chunks were handed on and things were done. -/
def advance (script : Script) (cs : List Chunk) (es : Events) (b : Backend) : Backend :=
  { b with script, handed := cs, journal := b.journal ++ es }

@[simp] theorem advance_advance (script script' : Script) (cs cs' : List Chunk) (es es' : Events)
    (b : Backend) :
    advance script' cs' es' (advance script cs es b) = advance script' cs' (es ++ es') b := by
  simp [advance, List.append_assoc]

theorem run_write_advance (script : Script) (cs : List Chunk) (es es' : Events) (b : Backend) :
    Flow.run (Flow.write es') (advance script cs es b) =
      (.ok (), advance script cs (es ++ es') b) := by
  rw [← advance_advance script script cs cs]
  rfl

/-! ## One attempt -/

/-- How an attempt came out after chunks were handed on. -/
def ended (stop : Stop) (cs : List Chunk) : Finish → Except Problem Unit
  | .done => .ok ()
  | .failed f => .error (.failure f)
  | .hanging =>
    if stop.any fun asked => asked cs then .error (.failure stopped) else .error (.defect .endless)

theorem isRetried_ended_iff {stop : Stop} {cs : List Chunk} {x : Finish} :
    isRetried (ended stop cs x) = true ↔ ∃ f, x = .failed f ∧ f.cause.isRetried = true := by
  cases x with
  | done => simp [ended, isRetried]
  | failed f => simp [ended, isRetried]
  | hanging =>
    by_cases h : (stop.any fun asked => asked cs) = true <;>
      simp [ended, h, isRetried, stopped, Failure.plain, Cause.isRetried]

variable (s : Settings) (prompt : String) (options : Option Options) (stop : Stop)

theorem run_isStopped (b : Backend) :
    Flow.run (isStopped stop) b = (.ok (stop.any fun asked => asked b.handed), b) := rfl

theorem run_take (a : Attempt) (script : Script) (cs : List Chunk) (es : Events) (b : Backend) :
    Flow.run (take stop a) (advance script cs es b) =
      (ended stop (cs ++ a.chunks) a.finish,
        advance script (cs ++ a.chunks) (es ++ a.records.map .record) b) := by
  unfold take
  rw [run_bind_of_ok (run_write_advance script cs es _ b), run_bind_of_ok (run_modify _ _)]
  cases a.finish with
  | done => rfl
  | failed f => rfl
  | hanging =>
    simp only [run_bind_of_ok (run_isStopped stop _), ended]
    change Flow.run (if (stop.any fun asked => asked (cs ++ a.chunks)) = true then _ else _) _ = _
    split <;> rfl

theorem run_ask_of_writable (h : objection? (textCall s prompt options) = none) (script : Script)
    (n : Nat) (cs : List Chunk) (es : Events) (b : Backend) :
    Flow.run (ask "POST" "/api/generate" (some (payload s prompt options true)))
        (advance (script.after n) cs es b) =
      (.ok (script.reply n),
        advance (script.after (n + 1)) cs (es ++ [.call (textCall s prompt options)]) b) := by
  have hsend : send (textCall s prompt options) (advance (script.after n) cs es b).script =
      .ok (script.reply n, script.after (n + 1), [.call (textCall s prompt options)]) :=
    send_of_writable h script n
  unfold textCall at hsend
  rw [← advance_advance (script.after n) (script.after (n + 1)) cs cs]
  simp only [Flow.run, ask, ExceptT.run, hsend]
  rfl

theorem run_attemptText_of_writable (h : objection? (textCall s prompt options) = none)
    (script : Script) (n : Nat) (cs : List Chunk) (es : Events) (b : Backend) :
    ∃ rs : List Journal.Record,
      Flow.run (attemptText s prompt options stop) (advance (script.after n) cs es b) =
        (ended stop (cs ++ delivery (script.reply n))
            (attemptOf textAction (script.reply n)).finish,
          advance (script.after (n + 1)) (cs ++ delivery (script.reply n))
            (es ++ [.call (textCall s prompt options)] ++ rs.map .record) b) := by
  unfold attemptText
  rw [run_bind_of_ok (run_ask_of_writable s prompt options h script n cs es b), run_take,
    chunks_attemptOf]
  exact ⟨_, rfl⟩

theorem run_attemptText_of_objection {d : Defect}
    (h : objection? (textCall s prompt options) = some d) (b : Backend) :
    Flow.run (attemptText s prompt options stop) b = (.error (.defect d), b) := by
  have hask : Flow.run (ask "POST" "/api/generate" (some (payload s prompt options true))) b =
      (.error (.defect d), b) := by
    have hsend : send (textCall s prompt options) b.script = .error d :=
      send_of_objection h b.script
    unfold textCall at hsend
    simp only [Flow.run, ask, ExceptT.run, hsend]
  exact run_bind_of_error hask

/-! ## Attempts one after another -/

/-- What is done before another attempt at something. -/
def againOf (action : String) (patience : Patience) (n : Nat) (f : Failure) :
    Flow Backend Unit := do
  if !(← get).handed.isEmpty then Flow.fail f
  if ← isStopped stop then Flow.fail stopped
  pauseBefore patience action n f

theorem run_againOf (action : String) (patience : Patience) (n : Nat) (f : Failure) (b : Backend) :
    Flow.run (againOf stop action patience n f) b =
      if !b.handed.isEmpty then (.error (.failure f), b)
      else if stop.any fun asked => asked b.handed then (.error (.failure stopped), b)
      else Flow.run (pauseBefore patience action n f) b := by
  unfold againOf
  rw [run_bind_of_ok (run_get b)]
  by_cases hhanded : (!b.handed.isEmpty) = true
  · rw [if_pos hhanded, if_pos hhanded]
    rfl
  · rw [if_neg hhanded, if_neg hhanded]
    dsimp only
    rw [run_bind_of_ok (run_isStopped stop b)]
    split
    · rfl
    · rfl

/-- What is done before another attempt to get text. -/
def againText : Patience → Nat → Failure → Flow Backend Unit :=
  againOf stop textAction

/-- The trial that a request for text is. -/
def trialText : Trial Backend Unit :=
  { attempt := attemptText s prompt options stop
    failed := fun _ _ => pure ()
    again := againText stop (Patience.ofSettings s) }

theorem insist_eq_run :
    insist s textAction stop (attemptText s prompt options stop) =
      (trialText s prompt options stop).run (Patience.ofSettings s).retries 1 :=
  rfl

theorem run_againText (patience : Patience) (n : Nat) (f : Failure) (b : Backend) :
    Flow.run (againText stop patience n f) b =
      if !b.handed.isEmpty then (.error (.failure f), b)
      else if stop.any fun asked => asked b.handed then (.error (.failure stopped), b)
      else Flow.run (pauseBefore patience textAction n f) b :=
  run_againOf stop textAction patience n f b

theorem run_pauseBefore_of_none {patience : Patience} {n : Nat} (h : patience.pause? n = none)
    (f : Failure) (b : Backend) :
    Flow.run (pauseBefore patience textAction n f) b = (.error (.defect .overflow), b) := by
  unfold pauseBefore
  rw [h]
  rfl

theorem run_pauseBefore_of_some {patience : Patience} {n : Nat} {x : Float}
    (h : patience.pause? n = some x) (f : Failure) (script : Script) (cs : List Chunk) (es : Events)
    (b : Backend) :
    ∃ r : Journal.Record, Flow.run (pauseBefore patience textAction n f) (advance script cs es b) =
      (.ok (), advance script cs (es ++ [.record r] ++ [.pause x]) b) := by
  unfold pauseBefore
  rw [h]
  exact ⟨_, (run_bind_of_ok (run_write_advance script cs es _ b)).trans
    (run_write_advance script cs _ _ b)⟩

section Served

variable {s prompt options}

/-- A reply that delivers nothing, and fails in a way that allows for another try. -/
def IsIdle (r : Reply) : Prop :=
  delivery r = [] ∧ ∃ f, (attemptOf textAction r).finish = .failed f ∧ f.cause.isRetried = true

/-- The state after the reply with `n` others before it, all of which were idle and followed by a
pause: what was handed on is what this one delivers.  There are others only if the caller did not
ask to stop before anything was handed on. -/
structure Answered (call : Call) (stop : Stop) (patience : Patience) (b : Backend) (n : Nat)
    (b' : Backend) : Prop where
  le_retries : n ≤ patience.retries
  earlier : ∀ k < n, IsIdle (b.script.reply k)
  unasked : 0 < n → (stop.any fun asked => asked []) = false
  state : ∃ es, b' = advance (b.script.after (n + 1)) (delivery (b.script.reply n)) es b ∧
    callsIn es = List.replicate (n + 1) call ∧
    pausesIn es = (List.range' 1 n).map patience.delay

/-- How a request for text was served, the reply after `n` others being the last: it decides, unless
another try could follow.  Then the caller has asked to stop, or the pause before that try is too
long to be expressed. -/
structure Served (call : Call) (stop : Stop) (patience : Patience) (b : Backend) (n : Nat)
    (e : Except Problem Unit × Backend) : Prop extends Answered call stop patience b n e.2 where
  decided : ¬ (IsIdle (b.script.reply n) ∧ n < patience.retries) →
    e.1 = ended stop (delivery (b.script.reply n)) (attemptOf textAction (b.script.reply n)).finish
  spared : IsIdle (b.script.reply n) → n < patience.retries →
    (stop.any fun asked => asked []) = true → e.1 = .error (.failure stopped)
  unexpressed : IsIdle (b.script.reply n) → n < patience.retries →
    (stop.any fun asked => asked []) = false → e.1 = .error (.defect .overflow)

variable {stop}

section

variable {call : Call} {patience : Patience} {b : Backend} {n : Nat}
  {e : Except Problem Unit × Backend}

/-- The last reply decides, unless another try is called off. -/
theorem Served.outcome (h : Served call stop patience b n e) :
    e.1 = ended stop (delivery (b.script.reply n))
        (attemptOf textAction (b.script.reply n)).finish ∨
      IsIdle (b.script.reply n) ∧
        (e.1 = .error (.failure stopped) ∧ stop.isSome ∨ e.1 = .error (.defect .overflow)) := by
  by_cases hmore : IsIdle (b.script.reply n) ∧ n < patience.retries
  · obtain ⟨hidle, hleft⟩ := hmore
    right
    cases hstop : stop.any fun asked => asked [] with
    | true => exact ⟨hidle, .inl ⟨h.spared hidle hleft hstop, Option.isSome_of_any hstop⟩⟩
    | false => exact ⟨hidle, .inr (h.unexpressed hidle hleft hstop)⟩
  · exact .inl (h.decided hmore)

theorem Served.handed (h : Served call stop patience b n e) :
    e.2.handed = delivery (b.script.reply n) := by
  obtain ⟨es, hstate, -⟩ := h.state
  rw [hstate]
  rfl

theorem Served.journal (h : Served call stop patience b n e) :
    ∃ es, e.2.journal = b.journal ++ es ∧ callsIn es = List.replicate (n + 1) call := by
  obtain ⟨es, hstate, hes, -⟩ := h.state
  exact ⟨es, by rw [hstate]; rfl, hes⟩

theorem Served.clock (h : Served call stop patience b n e) : e.2.clock = b.clock := by
  obtain ⟨es, hstate, -⟩ := h.state
  rw [hstate]
  rfl

theorem ended_eq_ok_iff {cs : List Chunk} {x : Finish} : ended stop cs x = .ok () ↔ x = .done := by
  cases x with
  | done => simp [ended]
  | failed f => simp [ended]
  | hanging => by_cases h : (stop.any fun asked => asked cs) = true <;> simp [ended, h]

/-- A request for text succeeds if the last attempt is done. -/
theorem Served.eq_ok_iff (h : Served call stop patience b n e) :
    e.1 = .ok () ↔ (attemptOf textAction (b.script.reply n)).finish = .done := by
  rcases h.outcome with hend | ⟨⟨-, f, hf, -⟩, ⟨hstopped, -⟩ | hoverflow⟩
  · rw [hend, ended_eq_ok_iff]
  · simp [hstopped, hf]
  · simp [hoverflow, hf]

/-- A failure of the last attempt that allows for no other try is the end of the request. -/
theorem Served.eq_error (h : Served call stop patience b n e) {f : Failure}
    (hf : (attemptOf textAction (b.script.reply n)).finish = .failed f)
    (hfinal : f.cause.isRetried = false) : e.1 = .error (.failure f) := by
  rcases h.outcome with hend | ⟨⟨-, f', hf', hretried⟩, -⟩
  · rw [hend, hf]
    rfl
  · obtain rfl := Finish.failed.inj (hf.symm.trans hf')
    rw [hfinal] at hretried
    cases hretried

/-- A request for text does not wait without end if the last answer comes to an end. -/
theorem Served.ne_endless (h : Served call stop patience b n e)
    (hfinish : (attemptOf textAction (b.script.reply n)).finish ≠ .hanging) :
    e.1 ≠ .error (.defect .endless) := by
  rcases h.outcome with hend | ⟨-, ⟨hstopped, -⟩ | hoverflow⟩
  · rw [hend]
    cases hx : (attemptOf textAction (b.script.reply n)).finish with
    | done => simp [ended]
    | failed f => simp [ended]
    | hanging => exact absurd hx hfinish
  · simp [hstopped]
  · simp [hoverflow]

end

variable (stop)

/-- The state before the attempt with number `n`, which is the first or follows idle replies, after
each of which there was a pause. -/
def Pending (call : Call) (patience : Patience) (b : Backend) (left n : Nat) (b' : Backend) :
    Prop :=
  ∃ k es, n = k + 1 ∧ left + k = patience.retries ∧ b' = advance (b.script.after k) [] es b ∧
    callsIn es = List.replicate k call ∧ pausesIn es = (List.range' 1 k).map patience.delay ∧
    (0 < k → (stop.any fun asked => asked []) = false) ∧ ∀ j < k, IsIdle (b.script.reply j)

section Steps

variable {patience : Patience} {b b' : Backend} {left n : Nat}

/-- An attempt takes the next reply. -/
theorem answered_of_pending (hwritable : objection? (textCall s prompt options) = none)
    (h : Pending stop (textCall s prompt options) patience b left n b') :
    ∃ k b'', n = k + 1 ∧ left + k = patience.retries ∧
      Flow.run (attemptText s prompt options stop) b' =
        (ended stop (delivery (b.script.reply k)) (attemptOf textAction (b.script.reply k)).finish,
          b'') ∧
      Answered (textCall s prompt options) stop patience b k b'' := by
  obtain ⟨k, es, rfl, hleft, rfl, hcalls, hpauses, hunasked, hearlier⟩ := h
  obtain ⟨rs, hrun⟩ :=
    run_attemptText_of_writable s prompt options stop hwritable b.script k [] es b
  refine ⟨k, _, rfl, hleft, hrun, ⟨by omega, hearlier, hunasked, _, rfl, ?_, ?_⟩⟩
  · rw [callsIn_append, callsIn_records, List.append_nil]
    exact callsIn_snoc hcalls
  · rw [pausesIn_append, pausesIn_append, pausesIn_records, pausesIn_call, hpauses,
      List.append_nil, List.append_nil]

/-- An attempt that no other one may follow decides. -/
theorem served_of_ended {call : Call} {k : Nat} (h : Answered call stop patience b k b')
    (hmore : ¬ (IsIdle (b.script.reply k) ∧ k < patience.retries)) :
    Served call stop patience b k (ended stop (delivery (b.script.reply k))
      (attemptOf textAction (b.script.reply k)).finish, b') :=
  { h with
    decided := fun _ => rfl
    spared := fun hidle hleft => absurd ⟨hidle, hleft⟩ hmore
    unexpressed := fun hidle hleft => absurd ⟨hidle, hleft⟩ hmore }

/-- After a failure that allows for another try, that try is pending, unless something was handed on
or the try is called off. -/
theorem again_of_answered {call : Call} {k : Nat} (h : Answered call stop patience b k b')
    (hleft : left + 1 + k = patience.retries) {f : Failure}
    (hend : ended stop (delivery (b.script.reply k))
      (attemptOf textAction (b.script.reply k)).finish = .error (.failure f))
    (hf : f.cause.isRetried = true) :
    (∃ b'', Flow.run (againText stop patience (k + 1) f) b' = (.ok (), b'') ∧
      Pending stop call patience b left (k + 1 + 1) b'') ∨
    ∃ p b'', Flow.run (againText stop patience (k + 1) f) b' = (.error p, b'') ∧
      Served call stop patience b k (.error p, b'') := by
  have hretried : isRetried (ended stop (delivery (b.script.reply k))
      (attemptOf textAction (b.script.reply k)).finish) = true := by
    rw [hend]
    exact hf
  have hfailed := isRetried_ended_iff.1 hretried
  have hless : k < patience.retries := by omega
  obtain ⟨es, rfl, hcalls, hpauses⟩ := h.state
  rw [run_againText]
  by_cases hnone : delivery (b.script.reply k) = []
  · have hempty :
        (advance (b.script.after (k + 1)) (delivery (b.script.reply k)) es b).handed = [] := hnone
    have hidle : IsIdle (b.script.reply k) := ⟨hnone, hfailed⟩
    rw [hempty, if_neg (by simp)]
    by_cases hstop : (stop.any fun asked => asked []) = true
    · rw [if_pos hstop]
      exact .inr ⟨_, _, rfl, { h with
        decided := fun hmore => absurd ⟨hidle, hless⟩ hmore
        spared := fun _ _ _ => rfl
        unexpressed := fun _ _ hunasked => absurd hstop (by simp [hunasked]) }⟩
    · rw [if_neg hstop]
      cases hpause : patience.pause? (k + 1) with
      | none =>
        rw [run_pauseBefore_of_none hpause]
        exact .inr ⟨_, _, rfl, { h with
          decided := fun hmore => absurd ⟨hidle, hless⟩ hmore
          spared := fun _ _ hasked => absurd hasked hstop
          unexpressed := fun _ _ _ => rfl }⟩
      | some x =>
        obtain ⟨r, hrun⟩ := run_pauseBefore_of_some hpause f (b.script.after (k + 1))
          (delivery (b.script.reply k)) es b
        rw [hrun]
        refine .inl ⟨_, rfl, k + 1, _, rfl, by omega, by rw [hnone], ?_, ?_, fun _ => ?_,
          fun j hj => ?_⟩
        · rw [callsIn_append, callsIn_append, callsIn_record, callsIn_pause, List.append_nil,
            List.append_nil]
          exact hcalls
        · rw [pausesIn_append, pausesIn_append, pausesIn_record, pausesIn_pause, List.append_nil,
            hpauses, Patience.eq_delay_of_pause? hpause, List.range'_1_concat, List.map_append,
            Nat.add_comm 1 k]
          rfl
        · exact Bool.eq_false_iff.2 hstop
        · rcases Nat.lt_succ_iff_lt_or_eq.1 hj with hlt | rfl
          · exact h.earlier j hlt
          · exact hidle
  · have hsome :
        (advance (b.script.after (k + 1)) (delivery (b.script.reply k)) es b).handed ≠ [] := hnone
    have hserved := served_of_ended stop h fun hmore => hnone hmore.1.1
    rw [hend] at hserved
    rw [if_pos (by simpa using hsome)]
    exact .inr ⟨_, _, rfl, hserved⟩

end Steps

/-- A request for text that can be written is sent until a reply decides. -/
theorem insist_text {b : Backend} (hhanded : b.handed = [])
    (hwritable : objection? (textCall s prompt options) = none) :
    ∃ n, Served (textCall s prompt options) stop (Patience.ofSettings s) b n
      (Flow.run (insist s textAction stop (attemptText s prompt options stop)) b) := by
  rw [insist_eq_run]
  refine Trial.run_induction _ (Pending stop (textCall s prompt options) (Patience.ofSettings s) b)
    (fun e => ∃ n, Served (textCall s prompt options) stop (Patience.ofSettings s) b n e)
    ?_ ?_ ?_ _ _ _ ?_
  · -- the attempt is not made again
    intro left n b' hpending hfinal
    obtain ⟨k, b'', rfl, -, hrun, hanswered⟩ := answered_of_pending stop hwritable hpending
    change isRetried (Flow.run (attemptText s prompt options stop) b').1 = false at hfinal
    change ∃ n, Served _ _ _ b n (Flow.run (attemptText s prompt options stop) b')
    rw [hrun] at hfinal ⊢
    refine ⟨k, served_of_ended stop hanswered fun hmore => ?_⟩
    rw [isRetried_ended_iff.2 hmore.1.2] at hfinal
    cases hfinal
  · -- no try is left
    intro n b' b'' f hpending hattempt hf
    obtain ⟨k, b'', rfl, hleft, hrun, hanswered⟩ := answered_of_pending stop hwritable hpending
    obtain ⟨hend, rfl⟩ := Prod.mk.inj (hrun.symm.trans hattempt)
    have hserved := served_of_ended stop hanswered fun hmore => by omega
    rw [hend] at hserved
    exact ⟨k, hserved⟩
  · -- another try may follow
    intro left n b' b'' f hpending hattempt hf
    obtain ⟨k, b'', rfl, hleft, hrun, hanswered⟩ := answered_of_pending stop hwritable hpending
    obtain ⟨hend, rfl⟩ := Prod.mk.inj (hrun.symm.trans hattempt)
    have hagain : Flow.run ((trialText s prompt options stop).failed (k + 1) f >>= fun _ =>
        (trialText s prompt options stop).again (k + 1) f) b'' =
      Flow.run (againText stop (Patience.ofSettings s) (k + 1) f) b'' := rfl
    rw [hagain]
    rcases again_of_answered stop hanswered hleft hend hf with
      ⟨b₁, hnext, hpending⟩ | ⟨p, b₁, hnext, hserved⟩
    · rw [hnext]
      exact hpending
    · rw [hnext]
      exact ⟨k, hserved⟩
  · refine ⟨0, [], rfl, rfl, ?_, rfl, rfl, fun h => absurd h (Nat.lt_irrefl 0),
      fun j hj => absurd hj (Nat.not_lt_zero j)⟩
    simp [advance, ← hhanded]

/-- A request for text that cannot be written is not sent. -/
theorem insist_text_of_objection {d : Defect}
    (h : objection? (textCall s prompt options) = some d) (b : Backend) :
    Flow.run (insist s textAction stop (attemptText s prompt options stop)) b =
      (.error (.defect d), b) := by
  have hrun := run_attemptText_of_objection s prompt options stop h b
  rw [insist_eq_run, Trial.run_of_final]
  · exact hrun
  · change isRetried (Flow.run (attemptText s prompt options stop) b).1 = false
    rw [hrun]
    rfl

end Served

/-! ## The whole request -/

/-- The backend when text is asked for: nothing is handed on, and the clock was looked at. -/
def begun (b : Backend) : Backend :=
  { b with handed := [], clock := { b.clock with used := b.clock.used + 1 } }

/-- What is known at the end of the attempts, after another look at the clock. -/
def summarized (s : Settings) (options : Option Options) (b : Backend) :
    Except Problem Unit × Backend → Except Problem Summary × Backend
  | (.error p, b') => (.error p, b')
  | (.ok (), b') =>
    (match Time.milliseconds? (b.clock.reading b.clock.used) (b'.clock.reading b'.clock.used) with
      | some duration => .ok { model := (options.getD .none).modelName s.modelName, duration }
      | none => .error (.defect .overflow),
      { b' with clock := { b'.clock with used := b'.clock.used + 1 } })

theorem run_now (b : Backend) :
    Flow.run now b = (.ok (b.clock.reading b.clock.used),
      { b with clock := { b.clock with used := b.clock.used + 1 } }) := rfl

theorem run_stream (b : Backend) :
    Flow.run (stream s prompt options stop) b =
      summarized s options b
        (Flow.run (insist s textAction stop (attemptText s prompt options stop)) b.begun) := by
  have hstart : Flow.run (stream s prompt options stop) b = Flow.run
      (insist s textAction stop (attemptText s prompt options stop) >>= fun _ => do
        let stop ← now
        match Time.milliseconds? (b.clock.reading b.clock.used) stop with
        | some duration => return { model := (options.getD .none).modelName s.modelName, duration }
        | none => Flow.defect .overflow) b.begun := rfl
  rw [hstart, run_bind]
  rcases Flow.run (insist s textAction stop (attemptText s prompt options stop)) b.begun with
    ⟨p | ⟨⟩, b'⟩
  · rfl
  · simp only [summarized]
    rw [run_bind_of_ok (run_now b')]
    cases Time.milliseconds? (b.clock.reading b.clock.used) (b'.clock.reading b'.clock.used) <;> rfl

section Summarized

variable (b : Backend) (e : Except Problem Unit × Backend)

@[simp] theorem handed_summarized : (summarized s options b e).2.handed = e.2.handed := by
  rcases e with ⟨p | ⟨⟩, b'⟩ <;> rfl

@[simp] theorem journal_summarized : (summarized s options b e).2.journal = e.2.journal := by
  rcases e with ⟨p | ⟨⟩, b'⟩ <;> rfl

theorem summarized_of_error {p : Problem} (h : e.1 = .error p) :
    (summarized s options b e).1 = .error p := by
  rcases e with ⟨q | ⟨⟩, b'⟩
  · exact congrArg Except.error (Except.error.inj h)
  · cases h

/-- A request whose attempts came to an end fails only if the time it took cannot be expressed. -/
theorem summarized_of_ok (h : e.1 = .ok ()) :
    (∃ x, (summarized s options b e).1 = .ok x) ∨
      (summarized s options b e).1 = .error (.defect .overflow) := by
  rcases e with ⟨q | ⟨⟩, b'⟩
  · cases h
  · simp only [summarized]
    cases Time.milliseconds? (b.clock.reading b.clock.used) (b'.clock.reading b'.clock.used) with
    | some duration => exact .inl ⟨_, rfl⟩
    | none => exact .inr rfl

/-- A request whose attempts came to an end succeeds if the time it took can be expressed. -/
theorem summarized_of_clock (h : e.1 = .ok ()) (hclock : e.2.clock = b.begun.clock)
    (htime : (Time.milliseconds? (b.clock.reading b.clock.used)
      (b.clock.reading (b.clock.used + 1))).isSome) :
    ∃ x, (summarized s options b e).1 = .ok x := by
  obtain ⟨duration, hduration⟩ := Option.isSome_iff_exists.1 htime
  rcases e with ⟨q | ⟨⟩, b'⟩
  · cases h
  · have hclock : b'.clock = b.begun.clock := hclock
    refine ⟨{ model := (options.getD .none).modelName s.modelName, duration }, ?_⟩
    simp only [summarized, hclock, begun, hduration]

theorem ok_of_summarized {x : Summary} (h : (summarized s options b e).1 = .ok x) :
    e.1 = .ok () := by
  rcases e with ⟨q | ⟨⟩, b'⟩
  · cases h
  · rfl

end Summarized

/-- A request for text that cannot be written is not sent; any other is served. -/
theorem stream_served (b : Backend) :
    (∃ d, objection? (textCall s prompt options) = some d ∧
      Flow.run (stream s prompt options stop) b = (.error (.defect d), b.begun)) ∨
    ∃ n e, Served (textCall s prompt options) stop (Patience.ofSettings s) b.begun n e ∧
      Flow.run (stream s prompt options stop) b = summarized s options b e := by
  cases hobjection : objection? (textCall s prompt options) with
  | some d =>
    refine .inl ⟨d, rfl, ?_⟩
    rw [run_stream, insist_text_of_objection stop hobjection]
    rfl
  | none =>
    obtain ⟨n, hserved⟩ := insist_text (b := b.begun) stop rfl hobjection
    exact .inr ⟨n, _, hserved, run_stream s prompt options stop b⟩

end TestScribe.Generation.Backend
