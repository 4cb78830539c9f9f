import TestScribe.Gateway.Desk
import TestScribe.Proofs.Failure.Codes
import TestScribe.Proofs.Gateway.Operations
import TestScribe.Proofs.Service.EndlessAnswers

/-!
# What the gateway waits for

A gateway that reaches the services of the stages over the network answers a request unless it waits
without end, and it does so only for a reply of one of these services that it has taken
(`Desk.exists_endless_of_answer`).  That holds of questions about health as well: they are waited
for together, but one that has an end with a problem ends the wait for the others.
-/

namespace TestScribe.Gateway

open Transport TestScribe.Flow Service

/-- The script of a service that is reached over the network. -/
def Link.script? : Link → Option Script
  | .remote script => some script
  | .inHouse => none

theorem Link.eq_remote_of_script? {l : Link} {script : Script} (h : l.script? = some script) :
    l = .remote script := by
  cases l with
  | remote script' => exact congrArg _ (Option.some.inj h)
  | inHouse => cases h

namespace Client

/-! ## Requests -/

/-- The services of the stages, by which a client is answered. -/
def stageServices : Services Client where
  Kind := Peer
  name := Peer.name
  script? c p := (c.links p).script?
  journal_setJournal _ _ := rfl
  script?_setJournal _ _ := rfl

variable {E : Prop} {α : Type} (w : Surroundings) (p : Peer)

theorem awaits_now : Awaits stageServices E Never now :=
  awaits_of_same (fun _ => ⟨rfl, rfl⟩) fun _ => False.elim

theorem awaits_setBreaker (f : Client → Breaker Float) :
    Awaits stageServices E Never
      (modify fun c : Client => { c with breakers := setFor p (f c) c.breakers }) :=
  awaits_of_same (fun _ => ⟨rfl, rfl⟩) fun _ => False.elim

theorem ne_endless_of_dataIn {id : Json} {a : Answer} {d : Defect}
    (h : dataIn p id a = .error (.defect d)) : d ≠ .endless := by
  unfold dataIn at h
  split at h
  · split at h
    · cases h
    · next d' hd =>
      obtain rfl := Problem.defect.inj (Except.error.inj h)
      by_cases hcompound : Failure.HasCompoundCode (a.body?.getD .null)
      · rw [Failure.ofAnswer_of_compound hcompound] at hd
        cases hd
        nofun
      · obtain ⟨f, hf, -⟩ := Failure.ofAnswer_typed hcompound
        rw [hf] at hd
        cases hd
  · split at h
    · cases h
    · cases h

/-- What is waited for without end is a reply that has none. -/
theorem dataOf_eq_endless_iff {id : Json} {r : Reply} :
    dataOf p id r = .error (.defect .endless) ↔ IsEndless r := by
  constructor
  · intro h
    unfold dataOf at h
    split at h
    · cases h
    · next a =>
      split at h
      · cases h
      · next hending => exact ⟨a, rfl, hending⟩
      · exact absurd rfl (ne_endless_of_dataIn p h)
  · rintro ⟨a, rfl, hending⟩
    simp only [dataOf, hending]

theorem count_callOf (method path : String) (body : Option Json) (id : Option String) (q : Peer) :
    stageServices.count [callOf p method path body id] q = if p = q then 1 else 0 := by
  cases p <;> cases q <;> rfl

/-- A reply is taken from the script of the service that is asked, and from no other. -/
theorem takes_advance {c : Client} {script : Script} (h : c.links p = .remote script)
    (method path : String) (body : Option Json) (id : Option String) :
    stageServices.Takes [callOf p method path body id] c
      (advance p (script.after 1) [.call (callOf p method path body id)] c) where
  journal := ⟨_, rfl, rfl⟩
  known call hcall := ⟨p, by rw [List.mem_singleton.1 hcall]; rfl⟩
  script? (q : Peer) := by
    show Link.script? (setFor p (.remote (script.after 1)) c.links q) =
      (Link.script? (c.links q)).map
        (·.after (stageServices.count [callOf p method path body id] q))
    rw [count_callOf]
    by_cases hq : q = p
    · subst hq
      rw [setFor_self, h, if_pos rfl]
      rfl
    · rw [setFor_of_ne hq, if_neg (Ne.symm hq)]
      exact Option.map_id'.symm

theorem awaits_request (method path : String) (body : Option Json) (id : Option String) :
    Awaits stageServices E Never (request w p method path body id) := by
  intro c hc
  obtain ⟨script, hscript⟩ := Option.isSome_iff_exists.1 (hc p)
  have hlink : c.links p = .remote script := Link.eq_remote_of_script? hscript
  cases hobjection : objection? (callOf p method path body id) with
  | some d =>
    rw [run_request_of_objection w hobjection]
    exact ⟨[], Services.takes_refl c, fun h => absurd h (ne_endless_of_objection hobjection)⟩
  | none =>
    have hrun := run_request_of_writable w hobjection script 0 [] c
    rw [Script.after_zero, advance_nil hlink] at hrun
    have hone : stageServices.count [callOf p method path body id] p = 1 := by
      rw [count_callOf, if_pos rfl]
    rw [hrun]
    refine ⟨_, takes_advance p hlink method path body id, fun h => .inl ?_⟩
    exact ⟨p, script, hscript, 0, hone ▸ Nat.one_pos,
      (dataOf_eq_endless_iff p).1 (waits_never_iff.1 h)⟩

/-! ## Calls -/

theorem awaits_insist (id : Json) {attempt : Flow Client Json}
    (h : Awaits stageServices E Never attempt) :
    Awaits stageServices E Never (insist w p id attempt) := by
  refine h.trial (fun _ _ => awaits_note _ _ _ _) (fun n _ => ?_) _ _
  show Awaits _ _ _ (pauseBefore _ n)
  unfold pauseBefore
  split
  · exact awaits_defect nofun
  · exact awaits_write rfl

theorem awaits_report (id : Json) (o : Option Outcome) :
    Awaits stageServices E Never (report w p id o) := by
  have hlinks : ∀ c, (run (report w p id o) c).2.links = c.links := by
    intro c
    match o with
    | none => rfl
    | some .success => rfl
    | some .failure => rfl
  have hok : ∀ c, (run (report w p id o) c).1 = .ok () := by
    intro c
    match o with
    | none => rfl
    | some .success => rfl
    | some .failure => rfl
  refine awaits_of_nil (fun c => ?_) fun c hwaits => ?_
  · obtain ⟨es, hes, hcalls⟩ := report_journal w p id o c
    exact Services.takes_nil hes hcalls
      (funext fun q => congrArg Link.script? (congrFun (hlinks c) q))
  · rw [hok c] at hwaits
    exact hwaits.elim

/-- What is done behind a breaker is waited for as it would be without one. -/
theorem awaits_guarded (id : Json) {action : Flow Client α}
    (h : ∀ {E : Prop}, Awaits stageServices E Never action) :
    Awaits stageServices E Never (guarded w p id action) := by
  unfold guarded
  refine awaits_now.bind fun t => awaits_get.bind fun c => ?_
  dsimp only
  refine (awaits_setBreaker p fun _ => _).bind fun _ => ?_
  split
  · refine h.outcome.bind fun r => (awaits_report w p id _).bind fun _ => ?_
    exact awaits_resume fun hr => .inl (.inr hr)
  · exact awaits_fail _

theorem awaits_call (path : String) (body : Json) (name : String) (reader : Wire.Reader α)
    (id : Option String) : Awaits stageServices E Never (call w p path body name reader id) := by
  refine awaits_guarded w p _ ?_
  refine (awaits_insist w p _ (awaits_request w p _ _ _ _)).bind fun data => ?_
  split
  · exact awaits_pure False.elim
  · exact awaits_fail _

/-! ## Questions about health -/

theorem ne_endless_of_healthOf {latency : Int} {complaint : Option Json} {d : Defect}
    (h : healthOf p latency complaint = .error d) : d ≠ .endless := by
  unfold healthOf at h
  split at h
  · cases h
  · cases h
  · cases h
    nofun

theorem awaits_judge (start : Float) (complaint : Option Json) :
    Awaits stageServices E Never (judge p start complaint) := by
  unfold judge
  refine awaits_now.bind fun t => ?_
  split
  · exact awaits_defect nofun
  · split
    · exact awaits_pure False.elim
    · next d hd => exact awaits_defect fun h => absurd h (ne_endless_of_healthOf p hd)

theorem awaits_probe (id : Option String) (start : Float) :
    Awaits stageServices E Never (probe w p id start) := by
  refine (awaits_request w p "GET" healthPath none id).outcome.bind fun r => ?_
  match r with
  | .ok _ => exact (awaits_pure (W := Never) False.elim).bind fun _ => awaits_judge p start _
  | .error (.defect d) =>
    exact (awaits_defect (W := Never) .inr).bind fun _ => awaits_judge p start _
  | .error (.failure f) =>
    exact (awaits_note _ _ _ _).bind fun _ => (awaits_pure (W := Never) False.elim).bind fun _ =>
      awaits_judge p start _

/-- A question that has come to its end waits without end. -/
def Inquiry.Hangs : Inquiry → Prop
  | .ended r => Waits Never r
  | .waiting _ => False

theorem awaits_inquire (id : Option String) :
    Awaits stageServices E Inquiry.Hangs (inquire w id p) := by
  unfold inquire
  refine awaits_now.bind fun start => awaits_get.bind fun c => ?_
  split
  · exact (awaits_probe w p id start).outcome.bind fun r => awaits_pure .inr
  · exact awaits_pure False.elim

theorem awaits_await (id : Option String) (i : Inquiry) :
    Awaits stageServices i.Hangs (Waits Never) (await w id p i) := by
  cases i with
  | ended r => exact awaits_pure fun hr => hr
  | waiting start => exact (awaits_probe w p id start).outcome

/-- All questions are waited for together, so a wait without end is one for an answer to them. -/
theorem awaits_checkAll (id : Option String) : Awaits stageServices E Never (checkAll w id) := by
  have hinquire : ∀ p ∈ Peer.all, Awaits stageServices False (fun x : Peer × Inquiry => x.2.Hangs)
      (do return (p, ← inquire w id p)) := fun p _ =>
    (awaits_inquire w p id).bind fun _ => awaits_pure .inr
  have hhangs : (∃ p ∈ Peer.all, False) → E := fun ⟨_, _, h⟩ => h.elim
  unfold checkAll
  refine ((awaits_mapM hinquire).mono hhangs fun _ h => h).bind fun inquiries => ?_
  refine ((awaits_mapM fun x _ => awaits_await w x.1 id x.2).mono .inr fun _ h => h).bind
    fun ends => ?_
  exact (awaits_gather (W := Never) ends).mono .inr nofun

/-! ## Making a test -/

theorem awaits_makeTest (q : Request) (given : Option String)
    (options : Option Generation.Options) :
    Awaits stageServices E Never (makeTest w q given options) := by
  unfold makeTest
  refine (awaits_note _ _ _ _).bind fun _ => ?_
  refine (awaits_call w .analysis _ _ _ _ _).bind fun a => ?_
  refine (awaits_call w .generation _ _ _ _ _).bind fun t => ?_
  refine (awaits_call w .validation _ _ _ _ _).bind fun v => ?_
  exact (awaits_note _ _ _ _).bind fun _ => awaits_pure False.elim

end Client

namespace Desk

variable {E : Prop} {α : Type} (w : Surroundings)

/-! ## The gateway as a service -/

/-- The services of the stages, by which a desk is answered. -/
def stageServices : Services Desk where
  Kind := Peer
  name := Peer.name
  script? d p := (d.client.links p).script?
  journal_setJournal _ _ := rfl
  script?_setJournal _ _ := rfl

theorem awaits_asClient {W : α → Prop} {x : Flow Client α}
    (h : Awaits Client.stageServices E W x) : Awaits stageServices E W (asClient x) :=
  h.within (fun _ hd => hd) (fun _ _ _ htakes => ⟨htakes.journal, htakes.known, htakes.script?⟩)
    fun _ _ hstuck => hstuck

theorem awaits_setLimiters (limiters : ClientLimiters Float) :
    Awaits stageServices E Never (modify fun d : Desk => { d with limiters }) :=
  awaits_of_same (fun _ => ⟨rfl, rfl⟩) fun _ => False.elim

theorem awaits_passLimiter (r : Service.Request) (id : String) :
    Awaits stageServices E Never (passLimiter w r id) := by
  have hlimiter : ∀ {E : Prop}, Awaits stageServices E Never (askLimiter w.settings r.client) :=
    (awaits_asClient Client.awaits_now).bind fun t => awaits_get.bind fun d =>
      (awaits_setLimiters _).bind fun _ => awaits_pure False.elim
  unfold passLimiter
  refine hlimiter.bind fun admission => ?_
  split
  · exact awaits_pure False.elim
  · exact awaits_defect nofun
  · exact (awaits_note _ _ _ _).bind fun _ => awaits_fail _

theorem awaits_validTest (q : Request) (id : String) :
    Awaits stageServices E Never (validTest w q id) := by
  unfold validTest
  refine (awaits_asClient (Client.awaits_makeTest w q (some id) none)).bind fun v => ?_
  split
  · exact awaits_pure False.elim
  · exact awaits_fail _

theorem patient_routes : ∀ t ∈ routes w, ∀ r id, Patient stageServices (t.handle r id) := by
  intro t ht r id
  simp only [routes, List.mem_cons, List.not_mem_nil, or_false] at ht
  rcases ht with rfl | rfl | rfl
  · exact patient_data (awaits_pure False.elim) (healthJson w _)
  · refine patient_data ?_ StatusReport.toJson
    exact (awaits_asClient (Client.awaits_checkAll w (some id))).bind fun _ =>
      awaits_pure False.elim
  · show Patient stageServices (taking (passLimiter w) Request.read
      (fun q id => do return .data (← validTest w q id).toJson) r id)
    exact patient_taking (awaits_passLimiter w r id) fun q =>
      patient_data (awaits_validTest w q id) Generation.TestFile.toJson

/-- A request to the gateway without a response has met with an endless reply of a service. -/
theorem exists_endless_of_answer {r : Service.Request} {d : Desk} {scripts : Peer → Script}
    (hlinks : ∀ p, d.client.links p = .remote (scripts p))
    (h : (Flow.run (answer w r) d).1 = .error (.defect .endless)) :
    ∃ p, ∃ n < (Flow.sent d (Flow.run (answer w r) d).2).countP (fun c => c.service = p.name),
      IsEndless ((scripts p).reply n) := by
  have hscript : ∀ p, (d.client.links p).script? = some (scripts p) := fun p => by
    rw [hlinks p]
    rfl
  have hreached : stageServices.Reached d := fun p => Option.isSome_iff_exists.2 ⟨_, hscript p⟩
  obtain ⟨p, script, hp, n, hn, hendless⟩ := (awaits_serve (patient_routes w)).stuck hreached h
  obtain rfl := Option.some.inj ((hscript p).symm.trans hp)
  exact ⟨p, n, hn, hendless⟩

end Desk

end TestScribe.Gateway
