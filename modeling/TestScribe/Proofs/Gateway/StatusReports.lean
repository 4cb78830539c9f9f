import Mathlib.Data.List.Forall2
import TestScribe.Proofs.Gateway.HealthProbes

/-!
# Reports on all services

The gateway asks all services how they are doing and puts the answers together in the order of the
stages.  The report is there just if each of the answers is, which only depends on the id that goes
with the questions and on the replies to them (`toldAll_checkAll`); and if it is not, the gateway
responds with the report of an error, unless it still waits for a reply without end
(`run_answer_status`).
-/

namespace TestScribe

/-- What is in a list stands against something in the list beside it. -/
theorem exists_mem_of_forall₂ {α β : Type} {R : α → β → Prop} {xs : List α} {ys : List β}
    (h : List.Forall₂ R xs ys) {y : β} (hy : y ∈ ys) : ∃ x ∈ xs, R x y := by
  induction h with
  | nil => exact absurd hy List.not_mem_nil
  | cons hR _ ih =>
    rcases List.mem_cons.1 hy with rfl | hy
    · exact ⟨_, List.mem_cons_self, hR⟩
    · obtain ⟨x, hx, hxy⟩ := ih hy
      exact ⟨x, List.mem_cons_of_mem _ hx, hxy⟩

/-! ## Flows one after another -/

namespace Flow

variable {σ α ι : Type} {f : ι → Flow σ α} {x : ι} {xs : List ι} {s s' s'' : σ}

theorem run_mapM_cons {y : α} {ys : List α} (h : run (f x) s = (.ok y, s'))
    (hs : run (xs.mapM f) s' = (.ok ys, s'')) :
    run ((x :: xs).mapM f) s = (.ok (y :: ys), s'') := by
  rw [List.mapM_cons, run_bind_of_ok h, run_bind_of_ok hs]
  rfl

theorem run_mapM_cons_of_error {p : Problem} (h : run (f x) s = (.error p, s')) :
    run ((x :: xs).mapM f) s = (.error p, s') := by
  rw [List.mapM_cons, run_bind_of_error h]

theorem run_mapM_cons_of_later_error {y : α} {p : Problem} (h : run (f x) s = (.ok y, s'))
    (hs : run (xs.mapM f) s' = (.error p, s'')) :
    run ((x :: xs).mapM f) s = (.error p, s'') := by
  rw [List.mapM_cons, run_bind_of_ok h, run_bind_of_error hs]

/-- Ends that are looked at one after another: all values, or one of the problems. -/
theorem run_resumes (ends : List (Except Problem α)) (s : σ) :
    (∃ as, run (ends.mapM resume) s = (.ok as, s) ∧ ends = as.map .ok) ∨
      ∃ p, run (ends.mapM resume : Flow σ (List α)) s = (.error p, s) ∧ .error p ∈ ends := by
  induction ends with
  | nil => exact .inl ⟨[], rfl, rfl⟩
  | cons r ends ih =>
    cases r with
    | error p => exact .inr ⟨p, run_mapM_cons_of_error rfl, List.mem_cons_self⟩
    | ok a =>
      rcases ih with ⟨as, hrun, rfl⟩ | ⟨p, hrun, hp⟩
      · exact .inl ⟨a :: as, run_mapM_cons rfl hrun, rfl⟩
      · exact .inr ⟨p, run_mapM_cons_of_later_error rfl hrun, List.mem_cons_of_mem _ hp⟩

/-! ## Flows that are waited for together -/

theorem hasEnd_eq_false_iff {r : Except Problem α} :
    hasEnd r = false ↔ r = .error (.defect .endless) := by
  match r with
  | .error (.defect d) => cases d <;> simp [hasEnd]
  | .error (.failure f) => simp [hasEnd]
  | .ok a => simp [hasEnd]

/-- What becomes of a wait for several ends: all the values, a problem, or a wait without end while
no other end is a problem. -/
inductive Gathered (ends : List (Except Problem α)) : Except Problem (List α) → Prop
  | values {as : List α} (hends : ends = as.map .ok) : Gathered ends (.ok as)
  | problem {p : Problem} (hp : .error p ∈ ends) (hend : p ≠ .defect .endless) :
      Gathered ends (.error p)
  | endless (hmem : .error (.defect .endless) ∈ ends)
      (hothers : ∀ r ∈ ends, r = .error (.defect .endless) ∨ ∃ a, r = .ok a) :
      Gathered ends (.error (.defect .endless))

/-- The problems of what has an end come first, so a wait without end leaves values only. -/
theorem gathered_gather (ends : List (Except Problem α)) (s : σ) :
    ∃ x, run (gather ends) s = (x, s) ∧ Gathered ends x := by
  unfold gather
  rcases run_resumes (ends.filter hasEnd) s with ⟨as, hfirst, has⟩ | ⟨p, hfirst, hp⟩
  · rw [run_bind_of_ok hfirst]
    rcases run_resumes ends s with ⟨as, hall, hends⟩ | ⟨p, hall, hp⟩
    · exact ⟨_, hall, .values hends⟩
    · have hothers : ∀ r ∈ ends, r = .error (.defect .endless) ∨ ∃ a, r = .ok a := by
        intro r hr
        cases hend : hasEnd r with
        | false => exact .inl (hasEnd_eq_false_iff.1 hend)
        | true =>
          have hvalue : r ∈ as.map .ok := has ▸ List.mem_filter.2 ⟨hr, hend⟩
          obtain ⟨a, -, rfl⟩ := List.mem_map.1 hvalue
          exact .inr ⟨a, rfl⟩
      have hp' : p = .defect .endless :=
        (hothers _ hp).elim Except.error.inj fun ⟨_, ha⟩ => nomatch ha
      subst hp'
      exact ⟨_, hall, .endless hp hothers⟩
  · rw [run_bind_of_error hfirst]
    obtain ⟨hp, hend⟩ := List.mem_filter.1 hp
    refine ⟨_, rfl, .problem hp ?_⟩
    rintro rfl
    cases hend

end Flow

namespace Gateway

open Transport TestScribe.Flow Service

namespace Client

variable (s : Surroundings) {id : Option String} {scripts : Peer → Script}

/-! ## All questions -/

/-- A question to a service over the network has its end before the next one is asked. -/
theorem run_inquire {p : Peer} {c : Client} {script : Script} (hlink : c.links p = .remote script) :
    Flow.run (inquire s id p) c =
      (.ok (.ended (Flow.run (checkHealth s p id) c).1), (Flow.run (checkHealth s p id) c).2) := by
  set c₀ : Client := { c with clock := c.clock.read.2 }
  have hnow : Flow.run now c = (.ok (c.clock.reading c.clock.used), c₀) := rfl
  have hlink₀ : c₀.links p = .remote script := hlink
  unfold inquire
  rw [run_bind_of_ok hnow, run_bind_of_ok (run_get c₀), hlink₀]
  rfl

/-- What the services that were asked told. -/
abbrev ToldEach (id : Option String) (scripts : Peer → Script) (ps : List Peer)
    (rs : List (Except Problem ServiceHealth)) : Prop :=
  List.Forall₂ (fun p r => Told id p (scripts p).first r) ps rs

/-- By induction on the services that are still to be asked: the one that is asked now is none of
them, so they are reached as before. -/
theorem run_inquiries (id : Option String) {ps : List Peer} (hnodup : ps.Nodup) {c : Client}
    (hlinks : ∀ p ∈ ps, c.links p = .remote (scripts p)) (htimed : Timed c.clock) :
    ∃ xs c', Flow.run (ps.mapM fun p => do return (p, ← inquire s id p)) c = (.ok xs, c') ∧
      List.Forall₂ (fun p x => ∃ r, x = (p, .ended r) ∧ Told id p (scripts p).first r) ps xs := by
  induction ps generalizing c with
  | nil => exact ⟨[], c, rfl, .nil⟩
  | cons p ps ih =>
    obtain ⟨hfresh, hnodup⟩ := List.nodup_cons.1 hnodup
    have hlink := hlinks p List.mem_cons_self
    set c₁ := (Flow.run (checkHealth s p id) c).2
    have haside : aside p c₁ = aside p c := keeps_aside_checkHealth s c
    have hlinks₁ : ∀ q ∈ ps, c₁.links q = .remote (scripts q) := by
      intro q hq
      have hne : q ≠ p := fun h => hfresh (h ▸ hq)
      have hsame := congrFun (congrArg Prod.snd haside) q
      simp only [aside, setFor_of_ne hne] at hsame
      rw [hsame]
      exact hlinks q (List.mem_cons_of_mem p hq)
    have htimed₁ : Timed c₁.clock := by
      have hreading : c₁.clock.reading = c.clock.reading := congrArg Prod.fst haside
      intro n
      rw [hreading]
      exact htimed n
    obtain ⟨xs, c', hrun, hxs⟩ := ih hnodup hlinks₁ htimed₁
    have hfirst : Flow.run (do return (p, ← inquire s id p)) c =
        (.ok (p, .ended (Flow.run (checkHealth s p id) c).1), c₁) := by
      rw [run_bind_of_ok (run_inquire s hlink)]
      rfl
    exact ⟨_, c', run_mapM_cons hfirst hrun, .cons ⟨_, rfl, told_checkHealth s id hlink htimed⟩ hxs⟩

/-- Questions that have their ends are not waited for. -/
theorem run_awaits {ps : List Peer} {xs : List (Peer × Inquiry)} (c : Client)
    (h : List.Forall₂ (fun p x => ∃ r, x = (p, .ended r) ∧ Told id p (scripts p).first r) ps xs) :
    ∃ rs, Flow.run (xs.mapM fun (p, i) => await s id p i) c = (.ok rs, c) ∧
      ToldEach id scripts ps rs := by
  induction h with
  | nil => exact ⟨[], rfl, .nil⟩
  | cons hx _ ih =>
    obtain ⟨r, rfl, hr⟩ := hx
    obtain ⟨rs, hrun, hrs⟩ := ih
    exact ⟨r :: rs, run_mapM_cons rfl hrun, .cons hr hrs⟩

/-- A question about the health of all services is never answered: it can be sent, and while it
waits for a reply that has no end, nothing else stands in its way. -/
structure NeverTold (id : Option String) (scripts : Peer → Script) : Prop where
  sendable : Sendable id
  endless : ∃ p, IsEndless (scripts p).first
  others : ∀ p, IsReadable (scripts p).first ∨ IsEndless (scripts p).first

/-- What comes of the questions to all services: the health that each reply describes, in the order
of the stages, or a defect. -/
abbrev ToldAll (id : Option String) (scripts : Peer → Script) :
    Except Problem (List ServiceHealth) → Prop :=
  HingesOn (Sendable id ∧ ∀ p, IsReadable (scripts p).first) (NeverTold id scripts)
    (List.Forall₂ (fun p h => Describes p (scripts p).first h) Peer.all)

theorem mem_all (p : Peer) : p ∈ Peer.all := by
  cases p <;> decide

/-- What each service told decides what is told of all, by how the wait for them came out. -/
theorem toldAll_of_gathered {ends : List (Except Problem ServiceHealth)}
    {x : Except Problem (List ServiceHealth)} (h : ToldEach id scripts Peer.all ends)
    (hx : Gathered ends x) : ToldAll id scripts x := by
  have hleft : ∀ p, ∃ r ∈ ends, Told id p (scripts p).first r := fun p =>
    exists_mem_of_forall₂ (List.Forall₂.flip h) (mem_all p)
  have hright : ∀ r ∈ ends, ∃ p, Told id p (scripts p).first r := fun r hr =>
    let ⟨p, _, htold⟩ := exists_mem_of_forall₂ h hr
    ⟨p, htold⟩
  cases hx with
  | @values hs hends =>
    subst hends
    have hcan : ∀ p, Sendable id ∧ IsReadable (scripts p).first := by
      intro p
      obtain ⟨r, hr, htold⟩ := hleft p
      obtain ⟨h, -, rfl⟩ := List.mem_map.1 hr
      exact htold.exists_ok_iff.1 ⟨h, rfl⟩
    have hall : Sendable id ∧ ∀ p, IsReadable (scripts p).first :=
      ⟨(hcan .analysis).1, fun p => (hcan p).2⟩
    have hdescribes : List.Forall₂ (fun p h => Describes p (scripts p).first h) Peer.all hs :=
      (List.forall₂_map_right_iff.1 h).imp fun _ _ htold => htold.of_ok rfl
    refine ⟨fun _ => ⟨hs, rfl, hdescribes⟩, fun hnot => absurd hall hnot, iff_of_false nofun ?_⟩
    intro hnever
    obtain ⟨p, hendless⟩ := hnever.endless
    exact (hcan p).2.not_isEndless hendless
  | @problem q hq hend =>
    obtain ⟨p, htold⟩ := hright _ hq
    have hcannot : ¬ (Sendable id ∧ IsReadable (scripts p).first) := fun hcan => by
      obtain ⟨h, hh⟩ := htold.exists_ok_iff.2 hcan
      cases hh
    have hends : ¬ (Sendable id ∧ IsEndless (scripts p).first) := fun hendless =>
      hend (Except.error.inj (htold.endless_iff.2 hendless))
    obtain ⟨d, hd⟩ := htold.defect hcannot
    obtain rfl : q = .defect d := Except.error.inj hd
    refine ⟨fun hcan => absurd ⟨hcan.1, hcan.2 p⟩ hcannot, fun _ => ⟨d, rfl⟩,
      iff_of_false (fun h => hend (Except.error.inj h)) fun hnever => ?_⟩
    rcases hnever.others p with hreadable | hendless
    · exact hcannot ⟨hnever.sendable, hreadable⟩
    · exact hends ⟨hnever.sendable, hendless⟩
  | endless hmem hothers =>
    obtain ⟨p, htold⟩ := hright _ hmem
    obtain ⟨hsend, hendless⟩ := htold.endless_iff.1 rfl
    refine ⟨fun hcan => absurd hendless (hcan.2 p).not_isEndless, fun _ => ⟨_, rfl⟩,
      iff_of_true rfl ⟨hsend, ⟨p, hendless⟩, fun q => ?_⟩⟩
    obtain ⟨r, hr, htold⟩ := hleft q
    rcases hothers r hr with rfl | ⟨h, rfl⟩
    · exact .inr (htold.endless_iff.1 rfl).2
    · exact .inl (htold.exists_ok_iff.1 ⟨h, rfl⟩).2

theorem toldAll_checkAll (id : Option String) {c : Client}
    (hlinks : ∀ p, c.links p = .remote (scripts p)) (htimed : Timed c.clock) :
    ToldAll id scripts (Flow.run (checkAll s id) c).1 := by
  have hnodup : Peer.all.Nodup := by decide
  obtain ⟨xs, c₁, hinquiries, hxs⟩ := run_inquiries s id hnodup (fun p _ => hlinks p) htimed
  obtain ⟨ends, hawaits, hends⟩ := run_awaits s c₁ hxs
  obtain ⟨x, hgather, hx⟩ := gathered_gather ends c₁
  have hrun : Flow.run (checkAll s id) c = (x, c₁) := by
    unfold checkAll
    rw [run_bind_of_ok hinquiries, run_bind_of_ok hawaits, hgather]
  rw [hrun]
  exact toldAll_of_gathered hends hx

end Client

/-! ## The report of the gateway -/

namespace Desk

open Client

variable (w : Surroundings) {r : Service.Request} {scripts : Peer → Script} {d : Desk}

/-- The path of questions about the health of all services. -/
def statusPath : String := "/status"

/-- The report of the gateway on itself and on services with the given health. -/
def reportOn (hs : List ServiceHealth) : StatusReport :=
  { gateway := { service := w.settings.serviceName, healthy := true, timestamp := w.now }
    dependencies := hs }

theorem run_status (id : String) (hlinks : ∀ p, d.client.links p = .remote (scripts p))
    (htimed : Timed d.client.clock) :
    HingesOn (Sendable (some id) ∧ ∀ p, IsReadable (scripts p).first)
      (NeverTold (some id) scripts)
      (fun report => ∃ hs, report = reportOn w hs ∧
        List.Forall₂ (fun p h => Describes p (scripts p).first h) Peer.all hs)
      (Flow.run (status w id) d).1 := by
  have hstatus : (Flow.run (status w id) d).1 =
      (Flow.run (checkAll w (some id)) d.client).1.map (reportOn w) := by
    unfold status
    rw [run_bind, asClient, run_within]
    cases (Flow.run (checkAll w (some id)) d.client).1 <;> rfl
  rw [hstatus]
  exact (toldAll_checkAll w (some id) hlinks htimed).map (reportOn w)

/-- A response to a question about the health of all services: the report, if there is one, which
describes the reply of each service in the order of the stages, or else the report of an error. -/
structure ReportsHealth (id : String) (scripts : Peer → Script) (response : Response) : Prop where
  status_iff : response.status = 200 ↔ Sendable (some id) ∧ ∀ p, IsReadable (scripts p).first
  otherwise : response.status ≠ 200 → response.status = 500
  report : response.status = 200 → ∃ hs,
    response.content = .json (success (reportOn w hs).toJson id) ∧
      List.Forall₂ (fun p h => Describes p (scripts p).first h)
        [.analysis, .generation, .validation] hs

/-- A question to the gateway is answered unless a reply without end is all that it waits for. -/
theorem run_answer_status (hmethod : r.method = "GET") (hpath : r.path = statusPath)
    (hlinks : ∀ p, d.client.links p = .remote (scripts p)) (htimed : Timed d.client.clock) :
    (NeverTold (some (w.idOr r.correlation)) scripts →
      (Flow.run (answer w r) d).1 = .error (.defect .endless)) ∧
    (¬ NeverTold (some (w.idOr r.correlation)) scripts →
      ∃ response d', Flow.run (answer w r) d = (.ok response, d') ∧
        ReportsHealth w (w.idOr r.correlation) scripts response) := by
  set id := w.idOr r.correlation with hid
  have hdispatch : dispatch (routes w) r id = do return .data (← status w id).toJson := by
    unfold dispatch routes healthRoute
    rw [hmethod, hpath]
    rfl
  have hstatus := run_status w id hlinks htimed
  unfold answer serve
  dsimp only
  rw [← hid, hdispatch, run_bind_of_ok (run_outcome d _)]
  constructor
  · intro hnever
    have hrun : ∃ d', Flow.run (status w id) d = (.error (.defect .endless), d') :=
      ⟨_, Prod.ext (hstatus.endless_iff.2 hnever) rfl⟩
    obtain ⟨d', hrun⟩ := hrun
    rw [run_bind_of_error hrun]
    rfl
  · intro hnever
    by_cases hcan : Sendable (some id) ∧ ∀ p, IsReadable (scripts p).first
    · obtain ⟨report, hok, hs, rfl, hhs⟩ := hstatus.value hcan
      obtain ⟨d', hrun⟩ : ∃ d', Flow.run (status w id) d = (.ok (reportOn w hs), d') :=
        ⟨_, Prod.ext hok rfl⟩
      rw [run_bind_of_ok hrun]
      exact ⟨_, _, rfl, iff_of_true rfl hcan, fun hne => absurd rfl hne, fun _ => ⟨hs, rfl, hhs⟩⟩
    · obtain ⟨x, hdefect⟩ := hstatus.defect hcan
      obtain ⟨d', hrun⟩ : ∃ d', Flow.run (status w id) d = (.error (.defect x), d') :=
        ⟨_, Prod.ext hdefect rfl⟩
      have hends : x ≠ .endless := fun hx => hnever (hstatus.endless_iff.1 (hx ▸ hdefect))
      have hne : (500 : Int) ≠ 200 := by decide
      rw [run_bind_of_error hrun]
      dsimp only
      rw [conclude_of_ne_endless hends]
      exact ⟨_, _, rfl, iff_of_false hne hcan, fun _ => rfl, fun h => absurd h hne⟩

end Desk

/-- The gateway tells how a service is doing just if the id that goes with the question can be sent
and the reply can be read, and then it takes the service to be well just if its answer reports no
error and holds data; it tells so of all services, in the order of the stages, just if this holds of
each; and just then it responds to a question about all of them with status 200, and otherwise with
500, or not at all while nothing else stands in the way of waiting for a reply without end. -/
theorem health_is_told_iff (s : Surroundings) :
    (∀ (p : Peer) (id : Option String) (c : Client) (script : Script),
      c.links p = .remote script → Client.Timed c.clock →
      ((∃ h, (Flow.run (Client.checkHealth s p id) c).1 = .ok h) ↔
        Client.Sendable id ∧ Client.IsReadable script.first) ∧
      ∀ h, (Flow.run (Client.checkHealth s p id) c).1 = .ok h →
        Client.Describes p script.first h) ∧
    (∀ (id : Option String) (c : Client) (scripts : Peer → Script),
      (∀ p, c.links p = .remote (scripts p)) → Client.Timed c.clock →
      ((∃ hs, (Flow.run (Client.checkAll s id) c).1 = .ok hs) ↔
        Client.Sendable id ∧ ∀ p, Client.IsReadable (scripts p).first) ∧
      ∀ hs, (Flow.run (Client.checkAll s id) c).1 = .ok hs →
        List.Forall₂ (fun p h => Client.Describes p (scripts p).first h)
          [.analysis, .generation, .validation] hs) ∧
    ∀ (r : Service.Request) (d : Desk) (scripts : Peer → Script),
      r.method = "GET" → r.path = "/status" →
      (∀ p, d.client.links p = .remote (scripts p)) → Client.Timed d.client.clock →
      (Client.NeverTold (some (s.idOr r.correlation)) scripts →
        (Flow.run (Desk.answer s r) d).1 = .error (.defect .endless)) ∧
      (¬ Client.NeverTold (some (s.idOr r.correlation)) scripts →
        ∃ response d', Flow.run (Desk.answer s r) d = (.ok response, d') ∧
          Desk.ReportsHealth s (s.idOr r.correlation) scripts response) := by
  refine ⟨fun p id c script hlink htimed => ?_, fun id c scripts hlinks htimed => ?_,
    fun r d scripts hmethod hpath hlinks htimed => ?_⟩
  · have htold := Client.told_checkHealth s id hlink htimed
    exact ⟨htold.exists_ok_iff, fun h => htold.of_ok⟩
  · have htold := Client.toldAll_checkAll s id hlinks htimed
    exact ⟨htold.exists_ok_iff, fun hs => htold.of_ok⟩
  · exact Desk.run_answer_status s hmethod hpath hlinks htimed

/-! ## Services that are down, and reports that cannot be told -/

open Client Failure

/-- No connection to the analysis, a generation without a report, and a validation that is well. -/
def halfDown : Peer → Script
  | .analysis => refused
  | .generation => Desk.saying 503 "gone"
  | .validation => Desk.saying 200 "\x7b\"data\":\x7b\x7d\x7d"

/-- A question about the health of all services. -/
def someStatusRequest : Service.Request :=
  { method := "GET", path := "/status", correlation := some "c7", contentType := none, body := ""
    client := "10.0.0.1" }

theorem timed_newClient : Timed newClient.clock := by
  intro n
  show (Time.milliseconds? 0.0 0.0).isSome = true
  decide +kernel

theorem sendable_c7 : Sendable (some "c7") := by
  rintro _ ⟨⟩
  have hall : "c7".toList.all (fun ch => decide (ch.toNat < 128)) = true := by decide
  exact fun ch hch => of_decide_eq_true (List.all_eq_true.1 hall ch hch)

/-- An answer whose body is no JSON can be told. -/
theorem canBeTold_of_body?_eq_none {a : Answer} (h : a.body? = none) : CanBeTold (payloadOf a) := by
  rw [payloadOf, h]
  refine ⟨?_, ?_⟩
  · rintro ⟨code, ⟨report, ⟨ms, hms, -⟩, -⟩, -⟩
    cases hms
  · rintro report v ⟨ms, hms, -⟩
    cases hms

theorem isReadable_halfDown (p : Peer) : IsReadable (halfDown p).first := by
  cases p with
  | analysis => trivial
  | generation =>
    have hbody : (bodyOf? "gone").isNone = true := by decide +kernel
    exact ⟨nofun, fun _ _ => canBeTold_of_body?_eq_none (Option.isNone_iff_eq_none.1 hbody)⟩
  | validation => exact ⟨nofun, fun _ h => by cases h⟩

/-- The gateway tells of all services how they are, though two of them are down. -/
theorem health_is_told_iff_halfDown :
    (∀ p, (newClient.over halfDown).links p = .remote (halfDown p)) ∧
    Timed (newClient.over halfDown).clock ∧
    (∃ h, (Flow.run (checkHealth someSurroundings .generation (some "c7"))
      (newClient.over halfDown)).1 = .ok h) ∧
    (∃ hs, (Flow.run (checkAll someSurroundings (some "c7")) (newClient.over halfDown)).1 =
      .ok hs) ∧
    ∃ response d' hs, Flow.run (Desk.answer someSurroundings someStatusRequest)
        (newDesk halfDown) = (.ok response, d') ∧ response.status = 200 ∧
      response.content = .json (success (Desk.reportOn someSurroundings hs).toJson "c7") ∧
      hs.map (·.service) = ["code-analysis", "llm-service", "test-validation"] := by
  have hlinks : ∀ p, (newClient.over halfDown).links p = .remote (halfDown p) := fun _ => rfl
  have htimed : Timed (newClient.over halfDown).clock := timed_newClient
  obtain ⟨hone, hall, hstatus⟩ := health_is_told_iff someSurroundings
  refine ⟨hlinks, htimed, ?_, ?_, ?_⟩
  · exact (hone .generation _ _ _ (hlinks _) htimed).1.2 ⟨sendable_c7, isReadable_halfDown _⟩
  · exact (hall _ _ _ hlinks htimed).1.2 ⟨sendable_c7, isReadable_halfDown⟩
  · have hends : ¬ NeverTold (some (someSurroundings.idOr someStatusRequest.correlation))
        halfDown := by
      intro hnever
      obtain ⟨p, hendless⟩ := hnever.endless
      exact (isReadable_halfDown p).not_isEndless hendless
    obtain ⟨response, d', hrun, hreports⟩ :=
      (hstatus someStatusRequest (newDesk halfDown) halfDown rfl rfl hlinks htimed).2 hends
    have hok := hreports.status_iff.2 ⟨sendable_c7, isReadable_halfDown⟩
    obtain ⟨hs, hcontent, hhs⟩ := hreports.report hok
    refine ⟨response, d', hs, hrun, hok, hcontent, ?_⟩
    have hservices : ∀ {ps : List Peer} {hs : List ServiceHealth},
        List.Forall₂ (fun p h => Describes p (halfDown p).first h) ps hs →
        hs.map (·.service) = ps.map Peer.name := by
      intro ps hs h
      induction h with
      | nil => rfl
      | cons hh _ ih => rw [List.map_cons, List.map_cons, hh.service, ih]
    exact hservices hhs

/-- An answer that reports a failure with a number for its message. -/
def numberedAnswer : Answer :=
  { status := 500, text := "\x7b\"error\":\x7b\"message\":5\x7d\x7d", ending := .complete }

theorem not_isReadable_listedAnswer : ¬ IsReadable (.answer listedAnswer) := by
  rintro ⟨-, h⟩
  exact (h rfl rfl).code hasCompoundCode_listedAnswer

theorem not_isReadable_numberedAnswer : ¬ IsReadable (.answer numberedAnswer) := by
  have hmessage : ((reportIn (payloadOf numberedAnswer)).get? "message").any
      (fun | .int n => n == 5 | _ => false) = true := by
    decide +kernel
  rintro ⟨-, h⟩
  cases hget : (reportIn (payloadOf numberedAnswer)).get? "message" with
  | none =>
    rw [hget] at hmessage
    cases hmessage
  | some v =>
    rw [hget] at hmessage
    obtain ⟨report, hreport, hin⟩ := exists_reports_get?_iff.2 hget
    cases v with
    | int n =>
      obtain rfl : n = 5 := eq_of_beq hmessage
      obtain ⟨text, htext⟩ := (h rfl rfl).message report _ hreport hin rfl
      cases htext
    | _ => cases hmessage

/-- Of a service that reports a failure under a list for its code, or with a number for its message,
the gateway cannot tell how it is, and asked about all services it responds with an error. -/
theorem not_told_of_listedAnswer :
    (¬ ∃ h, (Flow.run (checkHealth someSurroundings .analysis (some "c7"))
      (newClient.over (allSaying listedAnswer))).1 = .ok h) ∧
    (¬ ∃ h, (Flow.run (checkHealth someSurroundings .analysis (some "c7"))
      (newClient.over (allSaying numberedAnswer))).1 = .ok h) ∧
    (¬ ∃ hs, (Flow.run (checkAll someSurroundings (some "c7"))
      (newClient.over (allSaying listedAnswer))).1 = .ok hs) ∧
    ∃ response d', Flow.run (Desk.answer someSurroundings someStatusRequest)
      (newDesk (allSaying listedAnswer)) = (.ok response, d') ∧ response.status = 500 := by
  have hone : ∀ a, ¬ IsReadable (.answer a) →
      ¬ ∃ h, (Flow.run (checkHealth someSurroundings .analysis (some "c7"))
        (newClient.over (allSaying a))).1 = .ok h := by
    intro a hnot
    have hlink : (newClient.over (allSaying a)).links .analysis = .remote (allSaying a .analysis) :=
      rfl
    rw [(told_checkHealth someSurroundings _ hlink timed_newClient).exists_ok_iff]
    exact fun h => hnot h.2
  have hnot : ∀ id : Option String,
      ¬ (Sendable id ∧ ∀ p, IsReadable (allSaying listedAnswer p).first) := fun _ h =>
    not_isReadable_listedAnswer (h.2 .analysis)
  have hlinks : ∀ p, (newDesk (allSaying listedAnswer)).client.links p =
      .remote (allSaying listedAnswer p) := fun _ => rfl
  refine ⟨hone _ not_isReadable_listedAnswer, hone _ not_isReadable_numberedAnswer, ?_, ?_⟩
  · have htold := toldAll_checkAll someSurroundings (some "c7") hlinks timed_newClient
    exact mt htold.exists_ok_iff.1 (hnot _)
  · have hends : ¬ NeverTold (some (someSurroundings.idOr someStatusRequest.correlation))
        (allSaying listedAnswer) := by
      intro hnever
      obtain ⟨_, _, hfirst, hending⟩ := hnever.endless
      obtain rfl := Reply.answer.inj hfirst
      cases hending
    obtain ⟨response, d', hrun, hreports⟩ := (Desk.run_answer_status (r := someStatusRequest)
      someSurroundings rfl rfl hlinks timed_newClient).2 hends
    exact ⟨response, d', hrun, hreports.otherwise (mt hreports.status_iff.1 (hnot _))⟩

end Gateway

end TestScribe
