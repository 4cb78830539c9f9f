import TestScribe.Proofs.Gateway.ErrorAnswers

/-!
# Questions about the health of services

The gateway asks a service how it is doing, and tells from the reply: trouble on the way and answers
that report an error are bad health, and not problems of the gateway (`told_checkHealth`).  What it
cannot tell is a reply that is not `IsReadable`: an error whose code cannot be looked up or whose
message is no text.  A question to one service changes nothing of what another one replies
(`keeps_aside_checkHealth`).
-/

namespace TestScribe

/-! ## Results that hinge on a condition -/

/-- A result is a value in `Q` if the condition `can` holds, and otherwise a defect; it is waited
for without end if the condition `hangs` holds, and only then. -/
structure HingesOn {α : Type} (can hangs : Prop) (Q : α → Prop) (x : Except Problem α) : Prop where
  value : can → ∃ a, x = .ok a ∧ Q a
  defect : ¬ can → ∃ d, x = .error (.defect d)
  endless_iff : x = .error (.defect .endless) ↔ hangs

namespace HingesOn

variable {α β : Type} {can hangs : Prop} {Q : α → Prop} {x : Except Problem α}

theorem exists_ok_iff (h : HingesOn can hangs Q x) : (∃ a, x = .ok a) ↔ can := by
  constructor
  · rintro ⟨a, rfl⟩
    by_contra hnot
    obtain ⟨d, hd⟩ := h.defect hnot
    cases hd
  · intro hcan
    obtain ⟨a, ha, -⟩ := h.value hcan
    exact ⟨a, ha⟩

theorem of_ok {a : α} (h : HingesOn can hangs Q x) (hx : x = .ok a) : Q a := by
  obtain ⟨a', hx', ha'⟩ := h.value (h.exists_ok_iff.1 ⟨a, hx⟩)
  exact Except.ok.inj (hx'.symm.trans hx) ▸ ha'

theorem map (h : HingesOn can hangs Q x) (f : α → β) :
    HingesOn can hangs (fun b => ∃ a, b = f a ∧ Q a) (x.map f) where
  value hcan := by
    obtain ⟨a, rfl, ha⟩ := h.value hcan
    exact ⟨f a, rfl, a, rfl, ha⟩
  defect hcannot := by
    obtain ⟨d, rfl⟩ := h.defect hcannot
    exact ⟨d, rfl⟩
  endless_iff := by
    rw [← h.endless_iff]
    cases x with
    | ok a => exact iff_of_false nofun nofun
    | error p =>
      constructor
      · rintro ⟨⟩
        rfl
      · rintro ⟨⟩
        rfl

end HingesOn

namespace Gateway.Client

open Transport TestScribe.Flow Failure

/-! ## Health in replies -/

/-- A reply of a service that is well: an answer that reports no error and holds data. -/
def IsHealthy : Reply → Prop
  | .mishap _ => False
  | .answer a => a.ending = .complete ∧ isError a.status = false ∧
      ∃ ms data, a.body? = some (.obj ms) ∧ Members.get? ms "data" = some data

/-- The report in a payload can be told: its code is no list and no object, and its message is a
text, unless it counts as false. -/
structure CanBeTold (payload : Json) : Prop where
  code : ¬ HasCompoundCode payload
  message : ∀ report v, Reports payload report → report.get? "message" = some v →
    v.truthy = true → ∃ text, v = .str text

/-- A reply that the gateway can make something of: trouble, or an answer that has an end and, if it
reports an error, does so in a way that can be told. -/
def IsReadable : Reply → Prop
  | .mishap _ => True
  | .answer a => a.ending ≠ .endless ∧
      (a.ending = .complete → isError a.status = true → CanBeTold (payloadOf a))

theorem IsReadable.not_isEndless {r : Reply} (h : IsReadable r) : ¬ IsEndless r := by
  rintro ⟨a, rfl, hending⟩
  exact h.1 hending

/-- What is said about the health of a service fits its reply. -/
structure Describes (p : Peer) (r : Reply) (h : ServiceHealth) : Prop where
  service : h.service = p.name
  healthy : h.healthy = true ↔ IsHealthy r

/-! ## Ends of requests -/

/-- The end of a request to a service that replied with `r`: a reply that can be read is taken for
what it is, and its complaint is a text. -/
structure Understood (r : Reply) (e : Except Problem Json) : Prop where
  readable : IsReadable r →
    (IsHealthy r ∧ ∃ data, e = .ok data) ∨
      ¬ IsHealthy r ∧ ∃ f text, e = .error (.failure f) ∧ f.message = .str text
  unreadable : ¬ IsReadable r →
    (∃ d, e = .error (.defect d)) ∨ ∃ f, e = .error (.failure f) ∧ ∀ text, f.message ≠ .str text

section Replies

variable {p : Peer} {id : Json} {a : Answer}

theorem message_mishapFailure (m : Mishap) :
    ∃ text, (mishapFailure p id m).message = .str text := by
  unfold mishapFailure
  cases m.trouble with
  | _ => exact ⟨_, rfl⟩

/-- The data of an answer that reports no error. -/
theorem understood_of_not_isError (hcomplete : a.ending = .complete)
    (herror : isError a.status = false) : Understood (.answer a) (dataOf p id (.answer a)) := by
  have hreadable : IsReadable (.answer a) := by
    refine ⟨by rw [hcomplete]; exact nofun, fun _ h => ?_⟩
    rw [herror] at h
    cases h
  refine ⟨fun _ => ?_, fun h => absurd hreadable h⟩
  simp only [dataOf, hcomplete, dataIn, herror]
  cases hdata : a.body?.bind fun v => v.get? "data" with
  | some data =>
    obtain ⟨v, hbody, hv⟩ := Option.bind_eq_some_iff.1 hdata
    obtain ⟨ms, hms, hget⟩ := Option.bind_eq_some_iff.1 hv
    cases v with
    | obj ms' =>
      obtain rfl := Option.some.inj hms
      exact .inl ⟨⟨hcomplete, herror, ms', data, hbody, hget⟩, data, rfl⟩
    | _ => cases hms
  | none =>
    refine .inr ⟨?_, _, _, rfl, rfl⟩
    rintro ⟨-, -, ms, data, hbody, hget⟩
    rw [hbody] at hdata
    cases hdata.symm.trans hget

/-- The message of a report is a text, or what stands for it is. -/
theorem message_of_canBeTold {payload : Json} (h : CanBeTold payload) (fallback : String) :
    ∃ text, (telling? (reportIn payload) "message").getD (.str fallback) = .str text := by
  cases hmessage : telling? (reportIn payload) "message" with
  | none => exact ⟨_, rfl⟩
  | some v =>
    obtain ⟨hget, htruthy⟩ := Option.filter_eq_some_iff.1 hmessage
    obtain ⟨report, hreport, hget⟩ := exists_reports_get?_iff.2 hget
    exact h.message report v hreport hget htruthy

theorem not_text_of_not_canBeTold {payload : Json} (hcode : ¬ HasCompoundCode payload)
    (h : ¬ CanBeTold payload) (fallback text : String) :
    (telling? (reportIn payload) "message").getD (.str fallback) ≠ .str text := by
  intro htext
  refine h ⟨hcode, fun report v hreport hget htruthy => ⟨text, ?_⟩⟩
  have hmessage : telling? (reportIn payload) "message" = some v :=
    Option.filter_eq_some_iff.2 ⟨exists_reports_get?_iff.1 ⟨report, hreport, hget⟩, htruthy⟩
  rwa [hmessage] at htext

/-- The failure of an answer that reports an error. -/
theorem understood_of_isError (hcomplete : a.ending = .complete)
    (herror : isError a.status = true) : Understood (.answer a) (dataOf p id (.answer a)) := by
  have hiff : IsReadable (.answer a) ↔ CanBeTold (payloadOf a) := by
    simp [IsReadable, hcomplete, herror]
  have hill : ¬ IsHealthy (.answer a) := by
    rintro ⟨-, h, -⟩
    rw [herror] at h
    cases h
  by_cases hcode : HasCompoundCode (payloadOf a)
  · refine ⟨fun h => absurd hcode (hiff.1 h).code, fun _ => .inl ⟨.wrongType, ?_⟩⟩
    exact dataOf_of_compound id hcomplete herror hcode
  · obtain ⟨f, hf, -, hmessage⟩ := dataOf_typed (p := p) id hcomplete herror hcode
    refine ⟨fun h => .inr ⟨hill, f, ?_⟩, fun h => .inr ⟨f, hf, fun text => ?_⟩⟩
    · obtain ⟨text, htext⟩ :=
        message_of_canBeTold (hiff.1 h) ("Unexpected response from " ++ p.name)
      exact ⟨text, hf, hmessage.trans htext⟩
    · rw [hmessage]
      exact not_text_of_not_canBeTold hcode (mt hiff.2 h) _ text

theorem understood_dataOf (p : Peer) (id : Json) (r : Reply) : Understood r (dataOf p id r) := by
  have htrouble : ∀ m, ∃ f text, dataOf p id (.mishap m) = .error (.failure f) ∧
      f.message = .str text := fun m =>
    ⟨_, _, rfl, (message_mishapFailure m).choose_spec⟩
  match r with
  | .mishap m => exact ⟨fun _ => .inr ⟨nofun, htrouble m⟩, fun h => absurd trivial h⟩
  | .answer a =>
    cases hending : a.ending with
    | complete =>
      cases herror : isError a.status with
      | false => exact understood_of_not_isError hending herror
      | true => exact understood_of_isError hending herror
    | broken m =>
      have hreadable : IsReadable (.answer a) := by simp [IsReadable, hending]
      have hill : ¬ IsHealthy (.answer a) := by simp [IsHealthy, hending]
      refine ⟨fun _ => .inr ⟨hill, ?_⟩, fun h => absurd hreadable h⟩
      simp only [dataOf, hending]
      exact htrouble m
    | endless =>
      have hunreadable : ¬ IsReadable (.answer a) := by simp [IsReadable, hending]
      refine ⟨fun h => absurd h hunreadable, fun _ => .inl ⟨.endless, ?_⟩⟩
      simp only [dataOf, hending]

end Replies

/-! ## One service -/

/-- An id that can be written into a header. -/
def Sendable (id : Option String) : Prop :=
  ∀ text, id = some text → ∀ ch ∈ text.toList, ch.toNat < 128

/-- The time between two readings of a clock that follow each other can be told. -/
def Timed (clock : Time.Clock) : Prop :=
  ∀ n, (Time.milliseconds? (clock.reading n) (clock.reading (n + 1))).isSome

/-- What comes of the question to a service that replies with `r`: the health that the reply
describes, or a defect if the question cannot be sent or the reply not be read. -/
abbrev Told (id : Option String) (p : Peer) (r : Reply) : Except Problem ServiceHealth → Prop :=
  HingesOn (Sendable id ∧ IsReadable r) (Sendable id ∧ IsEndless r) (Describes p r)

variable (s : Service.Surroundings) {p : Peer} {id : Option String} {c : Client} {script : Script}

/-- The question about the health of a service. -/
def healthCall (p : Peer) (id : Option String) : Call :=
  callOf p "GET" Service.healthPath none id

theorem objection?_of_sendable (h : Sendable id) : objection? (healthCall p id) = none := by
  have hid : (id.filter (· != "")).all (fun id => id.toList.all fun ch => ch.toNat < 128) =
      true := by
    rw [Option.all_eq_true]
    intro text htext
    obtain ⟨hid, -⟩ := Option.filter_eq_some_iff.1 htext
    exact List.all_eq_true.2 fun ch hch => decide_eq_true (h text hid ch hch)
  simp [objection?, healthCall, callOf, hid]

theorem objection?_of_not_sendable (h : ¬ Sendable id) :
    objection? (healthCall p id) = some .unwritableHeader := by
  have hid : (id.filter (· != "")).all (fun id => id.toList.all fun ch => ch.toNat < 128) =
      false := by
    by_contra hall
    refine h fun text htext ch hch => ?_
    by_cases hempty : text = ""
    · subst hempty
      cases hch
    · have hall := (Option.all_eq_true _ _).1 (Bool.eq_true_of_not_eq_false hall) text
        (Option.filter_eq_some_iff.2 ⟨htext, bne_iff_ne.2 hempty⟩)
      exact of_decide_eq_true (List.all_eq_true.1 hall ch hch)
  simp [objection?, healthCall, callOf, hid]

theorem run_judge {start : Float} {latency : Int} (complaint : Option Json)
    (h : Time.milliseconds? start (c.clock.reading c.clock.used) = some latency) :
    (Flow.run (judge p start complaint) c).1 =
      (healthOf p latency complaint).mapError .defect := by
  have hnow : Flow.run now c =
      (.ok (c.clock.reading c.clock.used), { c with clock := c.clock.read.2 }) := rfl
  rw [judge, run_bind_of_ok hnow, h]
  dsimp only
  cases healthOf p latency complaint <;> rfl

/-- What is said about a service when the request came out as `e`. -/
theorem run_probe {start : Float} {latency : Int} {e : Except Problem Json} {c' : Client}
    (hrequest : Flow.run (request s p "GET" Service.healthPath none id) c = (e, c'))
    (htime : Time.milliseconds? start (c'.clock.reading c'.clock.used) = some latency) :
    (Flow.run (probe s p id start) c).1 =
      match e with
      | .ok _ => (healthOf p latency none).mapError .defect
      | .error (.failure f) => (healthOf p latency (some f.message)).mapError .defect
      | .error (.defect d) => .error (.defect d) := by
  have houtcome : Flow.run (Flow.outcome (request s p "GET" Service.healthPath none id)) c =
      (.ok e, c') := by
    rw [run_outcome, hrequest]
  unfold probe
  rw [run_bind_of_ok houtcome]
  match e with
  | .ok _ => exact run_judge none htime
  | .error (.defect d) => rfl
  | .error (.failure f) => exact run_judge (c := Journaling.setJournal _ c') (some f.message) htime

theorem healthOf_of_not_text {v : Json} (h : ∀ text, v ≠ .str text) (latency : Int) :
    ∃ d, healthOf p latency (some v) = .error d := by
  cases v with
  | str text => exact absurd rfl (h text)
  | _ => exact ⟨_, rfl⟩

theorem healthOf_ne_endless (latency : Int) (complaint : Option Json) :
    (healthOf p latency complaint).mapError Problem.defect ≠ .error (.defect .endless) := by
  cases h : healthOf p latency complaint with
  | ok _ => exact nofun
  | error d =>
    rintro ⟨⟩
    exact ne_endless_of_healthOf p h rfl

/-- What is said about a service whose reply was understood. -/
theorem told_probe {r : Reply} {start : Float} {latency : Int} {e : Except Problem Json}
    {c' : Client} (hsend : Sendable id) (hunderstood : Understood r e)
    (hendless : e = .error (.defect .endless) ↔ IsEndless r)
    (hrequest : Flow.run (request s p "GET" Service.healthPath none id) c = (e, c'))
    (htime : Time.milliseconds? start (c'.clock.reading c'.clock.used) = some latency) :
    Told id p r (Flow.run (probe s p id start) c).1 := by
  rw [run_probe s hrequest htime]
  constructor
  · rintro ⟨-, hreadable⟩
    rcases hunderstood.readable hreadable with ⟨hwell, data, rfl⟩ | ⟨hill, f, text, rfl, hmessage⟩
    · exact ⟨_, rfl, rfl, iff_of_true rfl hwell⟩
    · dsimp only
      rw [hmessage]
      exact ⟨_, rfl, rfl, iff_of_false nofun hill⟩
  · intro h
    rcases hunderstood.unreadable fun hreadable => h ⟨hsend, hreadable⟩ with
      ⟨d, rfl⟩ | ⟨f, rfl, hne⟩
    · exact ⟨d, rfl⟩
    · obtain ⟨d, hd⟩ := healthOf_of_not_text (p := p) hne latency
      dsimp only
      rw [hd]
      exact ⟨d, rfl⟩
  · rw [and_iff_right hsend, ← hendless]
    match e with
    | .ok _ => exact iff_of_false (healthOf_ne_endless _ _) nofun
    | .error (.failure _) => exact iff_of_false (healthOf_ne_endless _ _) nofun
    | .error (.defect _) =>
      -- the same defect, as the end of a request and as that of a question
      constructor
      · rintro ⟨⟩
        rfl
      · rintro ⟨⟩
        rfl

/-- A question to a service is answered with its health, as far as its reply can be read. -/
theorem told_checkHealth (id : Option String) (hlink : c.links p = .remote script)
    (htimed : Timed c.clock) : Told id p script.first (Flow.run (checkHealth s p id) c).1 := by
  set c₀ : Client := { c with clock := c.clock.read.2 }
  have hlink₀ : c₀.links p = .remote script := hlink
  have hstart : Flow.run (checkHealth s p id) c =
      Flow.run (probe s p id (c.clock.reading c.clock.used)) c₀ := rfl
  -- no request looks at this clock, so the second look follows the first
  obtain ⟨latency, htime⟩ := Option.isSome_iff_exists.1 (htimed c.clock.used)
  rw [hstart]
  by_cases hsend : Sendable id
  · have hrequest :=
      run_request_of_writable s (objection?_of_sendable (p := p) hsend) script 0 [] c₀
    rw [Script.after_zero, advance_nil hlink₀] at hrequest
    exact told_probe s hsend (understood_dataOf p (.ofString? id) script.first)
      (dataOf_eq_endless_iff p) hrequest htime
  · have hrequest := run_request_of_objection s (objection?_of_not_sendable (p := p) hsend) c₀
    rw [run_probe s hrequest htime]
    exact ⟨fun h => absurd h.1 hsend, fun _ => ⟨_, rfl⟩, iff_of_false nofun fun h => hsend h.1⟩

/-! ## What a question leaves alone -/

/-- The readings of the clock, and how all services but one are reached. -/
def aside (p : Peer) (c : Client) : (Nat → Float) × (Peer → Link) :=
  (c.clock.reading, setFor p .inHouse c.links)

theorem keeps_aside_ask (call : Call) : Keeps (aside p) (ask s p call) := by
  intro c
  unfold ask
  rw [run_bind_of_ok (run_get c)]
  split
  · split
    · rfl
    · rw [run_bind_of_ok (run_modify _ _)]
      exact congrArg (Prod.mk c.clock.reading) (setFor_setFor _ _ _)
  · split
    · rfl
    · unfold askInHouse
      refine Keeps.bind (keeps_within ?_ _) (fun _ => keeps_pure _) c
      exact fun _ _ => rfl

theorem keeps_aside_checkHealth : Keeps (aside p) (checkHealth s p id) :=
  keeps_checkHealth s (fun _ => rfl) (fun _ _ => rfl)
    ((keeps_aside_ask s _).bind fun _ => keeps_resume _)

end Gateway.Client

end TestScribe
