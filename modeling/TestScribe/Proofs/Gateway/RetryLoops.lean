import TestScribe.Proofs.Gateway.FailureSources
import TestScribe.Proofs.Generation.Asking
import TestScribe.Proofs.Transport.RetryLaw

/-!
# The two loops that try again

The gateway sends requests to services again, and the client of the model server sends requests to
it again.  Both follow the law of retries, whatever the attempts are (`Client.insist_tried`,
`Backend.insist_tried`), and so on like outcomes they make as many attempts and the same pauses.
Requests over the network, and requests for text or for the models, are attempts of this kind.
-/

namespace TestScribe

open Transport TestScribe.Flow

/-! ## The gateway -/

namespace Gateway.Client

instance : LawfulJournaling Client := ⟨fun _ _ => rfl⟩

/-- A client hands nothing over before a request has come to its end. -/
def handsOver (_ : Client) : Bool := false

variable {s : Service.Surroundings} {p : Peer} {id : Json} {tape : Tape Json}

theorem waits_trialOf (patience : Patience) (attempt : Flow Client Json) :
    Waits handsOver (trialOf p id patience attempt) patience where
  failed _ _ _ := ⟨_, rfl, rfl, rfl⟩
  again n _ c hless _ := by
    show Adds (pauseBefore patience n) c [patience.delay n]
    unfold pauseBefore
    rw [patience.pause?_eq_delay hless]
    exact ⟨_, rfl, rfl, rfl⟩
  ends _ _ _ h := by cases h

theorem insist_tried {attempt : Flow Client Json} {c : Client}
    (hretries : s.settings.retryAttempts < 1024) (htape : tape.Uncancelled)
    (hplays : PlaysFrom handsOver attempt tape c) :
    ∃ n, Tried tape (Patience.ofSettings s.settings) c n (Flow.run (insist s p id attempt) c) := by
  have hless : (Patience.ofSettings s.settings).retries < 1024 := by
    show s.settings.retryAttempts.toNat < 1024
    omega
  exact Trial.tried_run (t := trialOf p id (Patience.ofSettings s.settings) attempt) hplays
    (waits_trialOf _ attempt) htape hless

/-- What comes of sending a request along a script. -/
def tapeOf (p : Peer) (id : Json) (call : Call) (script : Script) : Tape Json :=
  { outcome := fun k => dataOf p id (script.reply (k - 1))
    calls := fun _ => [call]
    hands := fun _ => false }

theorem cause_mishapFailure_ne (p : Peer) (id : Json) (m : Mishap) :
    (mishapFailure p id m).cause ≠ .cancelled := by
  unfold mishapFailure
  cases m.trouble with
  | _ => exact Cause.noConfusion

theorem uncancelled_tapeOf (p : Peer) (id : Json) (call : Call) (script : Script) :
    (tapeOf p id call script).Uncancelled := by
  intro k f h
  refine failure_of_dataOf (P := fun f => f.cause ≠ .cancelled) (cause_mishapFailure_ne p id)
    (fun _ => Cause.noConfusion) (fun a fallback f _ _ hanswer => ?_) h
  exact Failure.cause_ofAnswer_ne hanswer

/-- Requests over the network play the tape of the script of their service. -/
theorem playsFrom_request {method path : String} {body : Option Json} {id : Option String}
    (hwritable : objection? (callOf p method path body id) = none) {script : Script} {c : Client}
    (hlink : c.links p = .remote script) :
    PlaysFrom handsOver (request s p method path body id)
      (tapeOf p (.ofString? id) (callOf p method path body id) script) c := by
  refine ⟨rfl, fun k c => c.links p = .remote (script.after k), ?_, hlink⟩
  refine ⟨fun _ _ _ h => h, fun _ _ => rfl, fun k c hlink _ => ?_⟩
  have hrun := run_request_of_writable s hwritable script k [] c
  rw [advance_nil hlink] at hrun
  exact ⟨_, _, hrun, advance_links _ _ _, rfl, rfl, rfl, rfl⟩

end Gateway.Client

/-! ## The client of the model server -/

namespace Generation.Backend

instance : LawfulJournaling Backend := ⟨fun _ _ => rfl⟩

/-- Whether chunks were handed on. -/
def handsOver (b : Backend) : Bool := !b.handed.isEmpty

variable {α : Type} {s : Settings} {action : String} {stop : Stop} {tape : Tape α}

/-- The trial that a request to the model server is. -/
def trialOf (action : String) (stop : Stop) (patience : Patience) (attempt : Flow Backend α) :
    Trial Backend α :=
  { attempt, failed := fun _ _ => pure (), again := againOf stop action patience }

theorem adds_record_pause (r : Journal.Record) (x : Float) (b : Backend) :
    Adds (Flow.write [.record r] >>= fun _ => Flow.write [.pause x]) b [x] := by
  refine ⟨[.record r] ++ [.pause x], ?_, rfl, rfl⟩
  rw [run_bind_of_ok (run_write b _), run_write]
  simp [Journaling.setJournal, Journaling.journal]

theorem adds_pauseBefore {patience : Patience} {n : Nat} (hless : n < 1024) (f : Failure)
    (b : Backend) : Adds (pauseBefore patience action n f) b [patience.delay n] := by
  unfold pauseBefore
  rw [patience.pause?_eq_delay hless]
  exact adds_record_pause _ _ b

theorem waits_trialOf (hstop : ∀ cs, (stop.any fun asked => asked cs) = false)
    (patience : Patience) (attempt : Flow Backend α) :
    Waits handsOver (trialOf action stop patience attempt) patience where
  failed _ _ b := ⟨[], by simp [trialOf, Journaling.setJournal, Journaling.journal], rfl, rfl⟩
  again n f b hless hhanded := by
    have hadds : Adds (pauseBefore patience action n f) b [patience.delay n] :=
      adds_pauseBefore hless f b
    obtain ⟨es, hrun, hcalls, hpauses⟩ := hadds
    have hnone : ¬ (!b.handed.isEmpty) = true := by
      rw [← handsOver, hhanded]
      exact Bool.false_ne_true
    refine ⟨es, ?_, hcalls, hpauses⟩
    show Flow.run (againOf stop action patience n f) b = _
    rw [run_againOf, if_neg hnone, hstop, if_neg Bool.false_ne_true]
    exact hrun
  ends n f b hhanded := by
    show Flow.run (againOf stop action patience n f) b = _
    have hsome : (!b.handed.isEmpty) = true := hhanded
    rw [run_againOf, if_pos hsome]

theorem insist_tried {attempt : Flow Backend α} {b : Backend} (hretries : s.retryAttempts < 1024)
    (hstop : ∀ cs, (stop.any fun asked => asked cs) = false) (htape : tape.Uncancelled)
    (hplays : PlaysFrom handsOver attempt tape b) :
    ∃ n, Tried tape (Patience.ofSettings s) b n
      (Flow.run (insist s action stop attempt) b) := by
  have hless : (Patience.ofSettings s).retries < 1024 := by
    show s.retryAttempts.toNat < 1024
    omega
  exact Trial.tried_run (t := trialOf action stop (Patience.ofSettings s) attempt) hplays
    (waits_trialOf hstop _ attempt) htape hless

/-- What comes of asking for text along a script. -/
def textTape (s : Settings) (prompt : String) (options : Option Options) (stop : Stop)
    (script : Script) : Tape Unit :=
  { outcome := fun k => ended stop (delivery (script.reply (k - 1)))
      (attemptOf textAction (script.reply (k - 1))).finish
    calls := fun _ => [textCall s prompt options]
    hands := fun k => !(delivery (script.reply (k - 1))).isEmpty }

theorem uncancelled_textTape (hstop : ∀ cs, (stop.any fun asked => asked cs) = false)
    (prompt : String) (options : Option Options) (script : Script) :
    (textTape s prompt options stop script).Uncancelled := by
  intro k f h
  change ended stop _ (attemptOf textAction (script.reply (k - 1))).finish = _ at h
  cases hfinish : (attemptOf textAction (script.reply (k - 1))).finish with
  | done =>
    rw [hfinish] at h
    cases h
  | failed f' =>
    rw [hfinish] at h
    obtain rfl := Problem.failure.inj (Except.error.inj h)
    exact cause_attemptOf_ne hfinish
  | hanging =>
    rw [hfinish] at h
    unfold ended at h
    rw [hstop, if_neg Bool.false_ne_true] at h
    cases h

/-- Requests for text play the tape of the script of the model server. -/
theorem playsFrom_attemptText {prompt : String} {options : Option Options}
    (hwritable : objection? (textCall s prompt options) = none) {b : Backend}
    (hhanded : b.handed = []) :
    PlaysFrom handsOver (attemptText s prompt options stop)
      (textTape s prompt options stop b.script) b := by
  have hnone : ∀ {b : Backend}, handsOver b = false ↔ b.handed = [] := by
    intro b
    simp [handsOver]
  refine ⟨hnone.2 hhanded, fun k b' => b'.script = b.script.after k, ?_, rfl⟩
  refine ⟨fun _ _ _ h => h, fun _ _ => rfl, fun k b' hscript hfirst => ?_⟩
  obtain ⟨rs, hrun⟩ :=
    run_attemptText_of_writable s prompt options stop hwritable b.script k [] [] b'
  have hstart : advance (b.script.after k) [] [] b' = b' := by
    rw [← hscript, ← hnone.1 hfirst]
    simp [advance]
  rw [hstart] at hrun
  refine ⟨_, _, hrun, rfl, rfl, rfl, ?_, ?_⟩
  · rw [callsIn_append, callsIn_records, List.append_nil]
    rfl
  · rw [pausesIn_append, pausesIn_records, List.append_nil]
    rfl

/-- The answer in a reply that is whole and reports no error. -/
def answerIn (action : String) : Reply → Except Problem Answer
  | .mishap m => .error (.failure (mishapFailure action m))
  | .answer a =>
    match a.ending with
    | .broken m => .error (.failure (mishapFailure action m))
    | .endless => .error (.defect .endless)
    | .complete => if isError a.status then .error (.failure (statusFailure action a)) else .ok a

theorem wholeAnswer_eq (action : String) (r : Reply) :
    wholeAnswer action r = Flow.resume (answerIn action r) := by
  unfold wholeAnswer answerIn
  cases r with
  | mishap m => rfl
  | answer a =>
    dsimp only
    cases a.ending with
    | complete =>
      dsimp only
      split
      · rfl
      · rfl
    | _ => rfl

/-- What comes of a request that is answered as a whole, along a script. -/
def wholeTape (action : String) (call : Call) (script : Script) : Tape Answer :=
  { outcome := fun k => answerIn action (script.reply (k - 1))
    calls := fun _ => [call]
    hands := fun _ => false }

theorem uncancelled_wholeTape (action : String) (call : Call) (script : Script) :
    (wholeTape action call script).Uncancelled := by
  intro k f h
  change answerIn action (script.reply (k - 1)) = _ at h
  unfold answerIn at h
  split at h
  · obtain rfl := Problem.failure.inj (Except.error.inj h)
    exact cause_mishapFailure_ne action _
  · split at h
    · obtain rfl := Problem.failure.inj (Except.error.inj h)
      exact cause_mishapFailure_ne action _
    · cases h
    · split at h
      · obtain rfl := Problem.failure.inj (Except.error.inj h)
        exact cause_statusFailure_ne action _
      · cases h

/-- The request for the models. -/
def modelsCall : Call :=
  { service := "ollama", method := "GET", path := "/api/tags", body := none, correlation := none }

/-- One attempt to get the models. -/
def attemptModels : Flow Backend Answer := do
  wholeAnswer "listModels" (← ask "GET" "/api/tags" none)

/-- Requests for the models play the tape of the script of the model server. -/
theorem playsFrom_attemptModels {b : Backend} (hhanded : b.handed = []) :
    PlaysFrom handsOver attemptModels (wholeTape "listModels" modelsCall b.script) b := by
  refine ⟨by rw [handsOver, hhanded]; rfl, fun k b' => b'.script = b.script.after k, ?_, rfl⟩
  refine ⟨fun _ _ _ h => h, fun _ _ => rfl, fun k b' hscript hfirst => ?_⟩
  have hsend : send modelsCall b'.script =
      .ok (b.script.reply k, b.script.after (k + 1), [.call modelsCall]) := by
    rw [hscript]
    exact send_of_writable rfl b.script k
  have hask : Flow.run (ask "GET" "/api/tags" none) b' =
      (.ok (b.script.reply k), { b' with
        script := b.script.after (k + 1), journal := b'.journal ++ [.call modelsCall] }) := by
    unfold modelsCall at hsend
    simp only [Flow.run, ask, ExceptT.run, hsend]
    rfl
  have hrun := run_bind_of_ok (f := wholeAnswer "listModels") hask
  rw [wholeAnswer_eq] at hrun
  exact ⟨_, _, hrun, rfl, hfirst, rfl, rfl, rfl⟩

end Generation.Backend

/-! ## The law of both -/

open Gateway (Client)
open Generation (Backend)

/-- Both loops follow the law of retries, whatever their attempts are: the client of the model
server as long as nobody asks it to stop.  So where the attempts of both come out alike and hand
nothing over, both make as many attempts with the same pauses, and end as one does that is
translated into the other. -/
theorem retries_lawful (w : Service.Surroundings) (hretries : w.settings.retryAttempts < 1024) :
    (∀ (p : Peer) (id : Json) (attempt : Flow Client Json) (tape : Tape Json) (c : Client),
      tape.Uncancelled → PlaysFrom Client.handsOver attempt tape c →
        ∃ n, Tried tape (Patience.ofSettings w.settings) c n
          (Flow.run (Client.insist w p id attempt) c)) ∧
    (∀ (α : Type) (action : String) (stop : Backend.Stop) (attempt : Flow Backend α)
        (tape : Tape α) (b : Backend),
      (∀ cs, (stop.any fun asked => asked cs) = false) → tape.Uncancelled →
        PlaysFrom Backend.handsOver attempt tape b →
        ∃ n, Tried tape (Patience.ofSettings w.settings) b n
          (Flow.run (Backend.insist w.settings action stop attempt) b)) ∧
    ∀ (p : Peer) (id : Json) (attempt : Flow Client Json) (tape : Tape Json) (c : Client)
        (α : Type) (action : String) (stop : Backend.Stop) (attempt' : Flow Backend α)
        (tape' : Tape α) (b : Backend),
      (∀ cs, (stop.any fun asked => asked cs) = false) →
      tape.Uncancelled → tape'.Uncancelled →
      PlaysFrom Client.handsOver attempt tape c → PlaysFrom Backend.handsOver attempt' tape' b →
      (∀ k, isTransient (tape.outcome k) = isTransient (tape'.outcome k)) →
      (∀ k, tape.hands k = false ∧ tape'.hands k = false) →
        ∃ n e e', Flow.run (Client.insist w p id attempt) c = e ∧
          Flow.run (Backend.insist w.settings action stop attempt') b = e' ∧
          Tried tape (Patience.ofSettings w.settings) c n e ∧
          Tried tape' (Patience.ofSettings w.settings) b n e' ∧
          Flow.paused c e.2 = Flow.paused b e'.2 ∧
          ∀ translated : Except Problem Json → Except Problem α,
            (∀ k, tape'.outcome k = translated (tape.outcome k)) → e'.1 = translated e.1 := by
  refine ⟨fun p id attempt tape c htape hplays => Client.insist_tried hretries htape hplays,
    fun α action stop attempt tape b hstop htape hplays =>
      Backend.insist_tried hretries hstop htape hplays, ?_⟩
  intro p id attempt tape c α action stop attempt' tape' b hstop htape htape' hplays hplays' halike
    hhands
  have hclient : ∃ n, Tried tape (Patience.ofSettings w.settings) c n
      (Flow.run (Client.insist w p id attempt) c) := Client.insist_tried hretries htape hplays
  have hbackend : ∃ n, Tried tape' (Patience.ofSettings w.settings) b n
      (Flow.run (Backend.insist w.settings action stop attempt') b) :=
    Backend.insist_tried hretries hstop htape' hplays'
  obtain ⟨n, htried⟩ := hclient
  obtain ⟨n', htried'⟩ := hbackend
  obtain rfl : n = n' := by
    have hfinal : ∀ k, tape.Final (Patience.ofSettings w.settings).retries k ↔
        tape'.Final (Patience.ofSettings w.settings).retries k := by
      intro k
      unfold Tape.Final
      rw [halike k, (hhands k).1, (hhands k).2]
    have hlast := htried.last
    simp only [hfinal] at hlast
    exact hlast.unique htried'.last
  refine ⟨n, _, _, rfl, rfl, htried, htried', ?_, ?_⟩
  · rw [htried.paused, htried'.paused]
  · intro translated htranslated
    rw [htried'.outcome, htried.outcome, htranslated]

/-! ## A service that can be reached at the second attempt -/

/-- Settings under which a request is sent again three times, after pauses that start at a
second. -/
def patient : Service.Surroundings :=
  { Gateway.someSurroundings with
    settings := { Gateway.persistent with retryAttempts := 3, retryBaseDelay := 0.5 } }

/-- No connection at first, and then an answer. -/
def unsteady (text : String) (ending : Ending) : Script :=
  { first := .mishap { trouble := .unreachable, message := "refused" }
    rest := [.answer { status := 200, text, ending }] }

theorem reply_unsteady (text : String) (ending : Ending) (k : Nat) :
    (unsteady text ending).reply (k + 1) = .answer { status := 200, text, ending } :=
  congrArg Script.first (Script.after_of_last rfl k)

/-- A gateway whose services can be reached at the second attempt. -/
def unsteadyClient : Client :=
  Gateway.newClient.over fun _ => unsteady "\x7b\"data\":1\x7d" .complete

/-- A model server that gives its models at the second attempt. -/
def unsteadyModels : Backend :=
  { Gateway.newClient.backend with script := unsteady "\x7b\"models\":[]\x7d" .complete }

/-- A model server whose text breaks off at the second attempt. -/
def breakingModel : Backend :=
  { Gateway.newClient.backend with
    script := unsteady "\x7b\"response\":\"a\"\x7d\n"
      (.broken { trouble := .unreachable, message := "reset" }) }

/-- The text that broke off is not asked for again, and the others come after a pause of a
second. -/
theorem retries_lawful_unsteady :
    patient.settings.retryAttempts < 1024 ∧
    (∃ n, Tried (Client.tapeOf .analysis (.str "c7")
        (Client.callOf .analysis "POST" "/api/analyze" none (some "c7"))
        (unsteady "\x7b\"data\":1\x7d" .complete)) (Patience.ofSettings patient.settings)
      unsteadyClient n (Flow.run (Client.insist patient .analysis (.str "c7")
        (Client.request patient .analysis "POST" "/api/analyze" none (some "c7")))
        unsteadyClient)) ∧
    (∃ n, Tried (Backend.textTape patient.settings "p" none none breakingModel.script)
      (Patience.ofSettings patient.settings) breakingModel n
      (Flow.run (Backend.insist patient.settings Backend.textAction none
        (Backend.attemptText patient.settings "p" none none)) breakingModel)) ∧
    (∃ n e e', Flow.run (Client.insist patient .analysis (.str "c7")
          (Client.request patient .analysis "POST" "/api/analyze" none (some "c7")))
          unsteadyClient = e ∧
        Flow.run (Backend.insist patient.settings "listModels" none Backend.attemptModels)
          unsteadyModels = e' ∧
        Tried (Client.tapeOf .analysis (.str "c7")
          (Client.callOf .analysis "POST" "/api/analyze" none (some "c7"))
          (unsteady "\x7b\"data\":1\x7d" .complete)) (Patience.ofSettings patient.settings)
          unsteadyClient n e ∧
        Tried (Backend.wholeTape "listModels" Backend.modelsCall unsteadyModels.script)
          (Patience.ofSettings patient.settings) unsteadyModels n e' ∧
        Flow.paused unsteadyClient e.2 = Flow.paused unsteadyModels e'.2 ∧
        Flow.paused unsteadyClient e.2 = [1.0] ∧ (Flow.sent unsteadyClient e.2).length = 2) := by
  have hretries : patient.settings.retryAttempts < 1024 := by decide
  have hstop : ∀ cs, ((none : Backend.Stop).any fun asked => asked cs) = false := fun _ => rfl
  have hrequest : PlaysFrom Client.handsOver
      (Client.request patient .analysis "POST" "/api/analyze" none (some "c7"))
      (Client.tapeOf .analysis (.str "c7")
        (Client.callOf .analysis "POST" "/api/analyze" none (some "c7"))
        (unsteady "\x7b\"data\":1\x7d" .complete)) unsteadyClient :=
    Client.playsFrom_request (by decide) rfl
  have hmodels : PlaysFrom Backend.handsOver Backend.attemptModels
      (Backend.wholeTape "listModels" Backend.modelsCall unsteadyModels.script) unsteadyModels :=
    Backend.playsFrom_attemptModels rfl
  have htext : PlaysFrom Backend.handsOver (Backend.attemptText patient.settings "p" none none)
      (Backend.textTape patient.settings "p" none none breakingModel.script) breakingModel :=
    Backend.playsFrom_attemptText (by decide +kernel) rfl
  have halike : ∀ k, isTransient (Client.dataOf .analysis (.str "c7")
      ((unsteady "\x7b\"data\":1\x7d" .complete).reply (k - 1))) =
      isTransient (Backend.answerIn "listModels" (unsteadyModels.script.reply (k - 1))) := by
    intro k
    cases k - 1 with
    | zero => rfl
    | succ j =>
      show _ = isTransient (Backend.answerIn "listModels" ((unsteady _ _).reply (j + 1)))
      rw [reply_unsteady, reply_unsteady]
      decide +kernel
  refine ⟨hretries, ?_, ?_, ?_⟩
  · exact (retries_lawful patient hretries).1 _ _ _ _ _ (Client.uncancelled_tapeOf _ _ _ _) hrequest
  · exact (retries_lawful patient hretries).2.1 _ _ _ _ _ _ hstop
      (Backend.uncancelled_textTape hstop _ _ _) htext
  · obtain ⟨n, e, e', he, he', htried, htried', hpaused, -⟩ :=
      (retries_lawful patient hretries).2.2 .analysis (.str "c7") _ _ unsteadyClient _ "listModels"
        none _ _ unsteadyModels hstop (Client.uncancelled_tapeOf _ _ _ _)
        (Backend.uncancelled_wholeTape _ _ _) hrequest hmodels halike fun k => ⟨rfl, rfl⟩
    refine ⟨n, e, e', he, he', htried, htried', hpaused, ?_⟩
    rw [← he]
    decide +kernel

end TestScribe
