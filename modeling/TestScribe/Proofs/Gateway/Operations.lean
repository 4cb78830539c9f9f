import TestScribe.Proofs.Gateway.Guarded

/-!
# Runs of operations on the gateway

The gateway calls the services of the stages and asks them for their health, one operation after
another.  What each operation of a run sends, and what it tells the breakers, is laid down in
`Entry.Lawful`; every entry of every run is lawful, and the breakers at the end are what the entries
told them (`entries_lawful`).
-/

namespace TestScribe

/-- The causes that speak of the health of a service. -/
def Cause.OfService (c : Cause) : Prop :=
  c = .serviceFault ∨ c = .unavailable ∨ c = .timedOut ∨ c = .cancelled ∨ c = .internal ∨
    ∃ status, c = .unexpected status

theorem Cause.blamesService_iff {c : Cause} : c.blamesService = true ↔ c.OfService := by
  cases c <;> simp [blamesService, OfService]

namespace Gateway.Client

open Transport TestScribe.Flow

/-! ## Operations -/

/-- What a caller of the gateway may ask for. -/
inductive Operation
  | analyze (r : Request) (id : Option String)
  | generate (a : Component.Analysis) (options : Option Generation.Options) (id : Option String)
  | validate (t : Generation.TestFile) (a : Option Component.Analysis) (id : Option String)
  | checkHealth (p : Peer) (id : Option String)

/-- What an operation gives back. -/
inductive Product
  | analysis (a : Component.Analysis)
  | testFile (t : Generation.TestFile)
  | verdict (v : Validation.Verdict)
  | health (h : ServiceHealth)

/-- Carry out an operation. -/
def perform (s : Service.Surroundings) : Operation → Flow Client Product
  | .analyze r id => Product.analysis <$> analyze s r id
  | .generate a options id => Product.testFile <$> generate s a options id
  | .validate t a id => Product.verdict <$> validate s t a id
  | .checkHealth p id => Product.health <$> checkHealth s p id

/-- A call of the service of a stage. -/
structure StageCall where
  peer : Peer
  path : String
  body : Json
  name : String
  reader : Wire.Reader Product
  id : Option String

/-- The call that an operation is, unless it is a question about health. -/
def Operation.stageCall? : Operation → Option StageCall
  | .analyze r id =>
    some { peer := .analysis, path := Service.analyzePath, body := analysisBody r
           name := "ComponentAnalysis"
           reader := fun v => (Component.Analysis.read v).map .analysis, id }
  | .generate a options id =>
    some { peer := .generation, path := Service.generatePath, body := generationBody a options
           name := "GeneratedTest"
           reader := fun v => (Generation.TestFile.read v).map .testFile, id }
  | .validate t a id =>
    some { peer := .validation, path := Service.validatePath, body := validationBody t a
           name := "ValidationResult"
           reader := fun v => (Validation.Verdict.read v).map .verdict, id }
  | .checkHealth _ _ => none

/-- Only a question about health is no call of a stage. -/
theorem Operation.eq_checkHealth {op : Operation} (h : op.stageCall? = none) :
    ∃ p id, op = .checkHealth p id := by
  cases op with
  | checkHealth p id => exact ⟨p, id, rfl⟩
  | analyze r id => cases h
  | generate a options id => cases h
  | validate t a id => cases h

variable (s : Service.Surroundings)

section MapCall

variable {α β : Type} (p : Peer) (path : String) (body : Json) (name : String)
  (reader : Wire.Reader α) (id : Option String) (f : α → β)

theorem concluded_map (r : Except Problem Json) :
    concluded p name (fun v => (reader v).map f) id r = (concluded p name reader id r).map f := by
  rcases r with e | v
  · rfl
  · simp only [concluded]
    cases reader v <;> rfl

theorem outcomeOf_map (r : Except Problem α) : outcomeOf (r.map f) = outcomeOf r := by
  match r with
  | .ok _ => rfl
  | .error (.failure _) => rfl
  | .error (.defect _) => rfl

/-- A function of what a call gives back may as well be applied by its reader. -/
theorem map_call :
    f <$> call s p path body name reader id =
      call s p path body name (fun v => (reader v).map f) id := by
  refine funext fun c => (?_ : Flow.run (f <$> call s p path body name reader id) c = _)
  rw [call_eq_guarded, run_map]
  change _ = Flow.run (guarded s p _ (action s p path body name _ id)) c
  cases hadmit : c.admits p with
  | false =>
    rw [run_guarded_of_refused s p _ c hadmit, run_guarded_of_refused s p _ c hadmit]
    rfl
  | true =>
    rw [run_guarded_of_admitted s p _ c hadmit, run_guarded_of_admitted s p _ c hadmit,
      run_action, run_action, concluded_map, outcomeOf_map]

end MapCall

theorem perform_of_stageCall {op : Operation} {k : StageCall} (h : op.stageCall? = some k) :
    perform s op = call s k.peer k.path k.body k.name k.reader k.id := by
  cases op with
  | analyze r id =>
    obtain rfl := Option.some.inj h
    exact map_call s ..
  | generate a options id =>
    obtain rfl := Option.some.inj h
    exact map_call s ..
  | validate t a id =>
    obtain rfl := Option.some.inj h
    exact map_call s ..
  | checkHealth p id => cases h

/-! ## Frames -/

theorem isRemote_iff {c : Client} {p : Peer} :
    c.isRemote p = true ↔ ∃ script, c.links p = .remote script := by
  unfold isRemote
  cases c.links p <;> simp

/-- What no question about health changes: the breakers, and which services are in house. -/
def fixtures (c : Client) : (Peer → Breaker Float) × (Peer → Bool) :=
  (c.breakers, c.isRemote)

theorem fixtures_of_watch {α : Type} {x : Flow Client α} (h : Keeps watch x) : Keeps fixtures x :=
  fun c => congrArg (fun w => (w.1, w.2.2)) (h c)

theorem keeps_now : Keeps fixtures now := fun _ => rfl

/-- What a question about health does once its end is known. -/
def judge (p : Peer) (start : Float) (complaint : Option Json) : Flow Client ServiceHealth := do
  match Time.milliseconds? start (← now) with
  | none => Flow.defect .overflow
  | some latency =>
    match healthOf p latency complaint with
    | .ok h => return h
    | .error d => Flow.defect d

section Probe

variable {γ : Type} {part : Client → γ} (hnow : Keeps part now)

include hnow

theorem keeps_judge (p : Peer) (start : Float) (complaint : Option Json) :
    Keeps part (judge p start complaint) := by
  refine hnow.bind fun t => ?_
  split
  · exact keeps_defect _
  · split
    · exact keeps_pure _
    · exact keeps_defect _

variable (hnote : ∀ es c, part (Journaling.setJournal es c) = part c) {p : Peer}
  {id : Option String} (hrequest : Keeps part (request s p "GET" Service.healthPath none id))

include hnote hrequest

/-- A question about health keeps what its request and a look at the clock keep. -/
theorem keeps_probe (start : Float) : Keeps part (probe s p id start) := by
  refine hrequest.outcome.bind fun r => ?_
  match r with
  | .ok _ => exact (keeps_pure none).bind (keeps_judge hnow p start)
  | .error (.defect d) => exact (keeps_defect d).bind (keeps_judge hnow p start)
  | .error (.failure f) =>
    exact (keeps_note hnote _ _ _ _).bind fun _ =>
      (keeps_pure (some f.message)).bind (keeps_judge hnow p start)

theorem keeps_checkHealth : Keeps part (checkHealth s p id) :=
  hnow.bind fun _ => keeps_probe s hnow hnote hrequest _

end Probe

theorem keeps_fixtures_checkHealth (p : Peer) (id : Option String) :
    Keeps fixtures (checkHealth s p id) :=
  keeps_checkHealth s keeps_now (fun _ _ => rfl) (fixtures_of_watch (keeps_request s p _ _ _ _))

/-! ## Entries of a run -/

/-- An operation of a run: the gateway before it, what came of it, and the gateway after it. -/
structure Entry where
  operation : Operation
  before : Client
  result : Except Problem Product
  after : Client

/-- The entry of an operation. -/
def entryOf (op : Operation) (c : Client) : Entry :=
  let r := Flow.run (perform s op) c
  { operation := op, before := c, result := r.1, after := r.2 }

/-- The entries of operations that are carried out one after another. -/
def entries : List Operation → Client → List Entry
  | [], _ => []
  | op :: ops, c => entryOf s op c :: entries ops (entryOf s op c).after

/-- The gateway after operations. -/
def final (ops : List Operation) (c : Client) : Client :=
  ops.foldl (fun c op => (entryOf s op c).after) c

namespace Entry

variable (e : Entry)

/-- The requests that were sent. -/
def sent : List Call :=
  Flow.sent e.before e.after

/-- What the breaker of a service was told. -/
def told (p : Peer) : List (Breaker.Step Float) :=
  match e.operation.stageCall? with
  | some k => if k.peer = p then e.before.told p e.result else []
  | none => []

end Entry

/-- What is reported for a call that came out as `r`: a failure at `now`, a success, or nothing. -/
structure Reported {α : Type} (r : Except Problem α) (now : Float)
    (report : List (Breaker.Step Float)) : Prop where
  failure : report = [.failure now] ↔ ∃ f, r = .error (.failure f) ∧ f.cause.OfService
  success : report = [.success] ↔
    (∃ a, r = .ok a) ∨ ∃ f, r = .error (.failure f) ∧ ¬ f.cause.OfService
  nothing : report = [] ↔ ∃ d, r = .error (.defect d)

/-- A reply that is no error, but holds no data that the reader takes. -/
def IsUnusable {α : Type} (reader : Wire.Reader α) (r : Reply) : Prop :=
  ∃ a, r = .answer a ∧ a.ending = .complete ∧ isError a.status = false ∧
    ∀ data, (a.body?.bind fun v => v.get? "data") = some data → ∃ issues, reader data = .bad issues

/-- The law of an operation.  A call that is refused sends nothing.  A call that is let through
sends only requests to its own service, and reports once how it came out; an answer without usable
data is a failure.  No other breaker is changed. -/
structure Entry.Lawful (e : Entry) : Prop where
  refused : ∀ k, e.operation.stageCall? = some k → e.before.admits k.peer = false →
    e.sent = [] ∧ e.told k.peer = [.attempt e.before.askedAt] ∧
      ∃ f, e.result = .error (.failure f) ∧ f.cause = .unavailable
  sends : ∀ k, e.operation.stageCall? = some k → e.before.isRemote k.peer = true →
    ∀ call ∈ e.sent, call.service = k.peer.name
  reports : ∀ k, e.operation.stageCall? = some k → e.before.admits k.peer = true →
    ∃ report, e.told k.peer = .attempt e.before.askedAt :: report ∧
      Reported e.result e.before.reportedAt report
  unusable : ∀ k script n, e.operation.stageCall? = some k →
    e.before.links k.peer = .remote script → e.sent.length = n + 1 →
    IsUnusable k.reader (script.reply n) →
    ∃ f, e.result = .error (.failure f) ∧ f.cause = .internal
  breakers : ∀ p, e.after.breakers p = runBreaker s (e.before.breakers p) (e.told p)
  others : ∀ p, (∀ k, e.operation.stageCall? = some k → k.peer ≠ p) →
    e.after.breakers p = e.before.breakers p

/-! ## One operation -/

section Told

variable {α : Type} (c : Client) (p : Peer) (r : Except Problem α)

theorem told_of_refused (h : c.admits p = false) : c.told p r = [.attempt c.askedAt] := by
  simp [Client.told, h]

/-- A call that is let through is reported once. -/
theorem told_of_admitted (h : c.admits p = true) :
    ∃ report, c.told p r = .attempt c.askedAt :: report ∧ Reported r c.reportedAt report := by
  simp only [Client.told, h, if_true]
  refine ⟨_, rfl, ?_⟩
  rcases r with (f | d) | a
  · by_cases hf : f.cause.blamesService = true
    · have hof := Cause.blamesService_iff.1 hf
      constructor <;> simp [outcomeOf, hf, hof]
    · have hof := mt Cause.blamesService_iff.2 hf
      constructor <;> simp [outcomeOf, hf, hof]
  · constructor <;> simp [outcomeOf]
  · constructor <;> simp [outcomeOf]

end Told

section Unusable

variable {α : Type} {p : Peer} {reader : Wire.Reader α} {r : Reply}

/-- The data of an answer without usable data is missing, or its reader rejects it. -/
theorem dataOf_of_isUnusable (h : IsUnusable reader r) (id : Json) :
    (∃ f, dataOf p id r = .error (.failure f) ∧ f.cause = .internal) ∨
      ∃ data issues, dataOf p id r = .ok data ∧ reader data = .bad issues := by
  obtain ⟨a, rfl, hending, hstatus, hdata⟩ := h
  simp only [dataOf, hending, dataIn, hstatus]
  cases hbody : a.body?.bind fun v => v.get? "data" with
  | none => exact .inl ⟨_, rfl, rfl⟩
  | some data =>
    obtain ⟨issues, hissues⟩ := hdata data hbody
    exact .inr ⟨data, issues, rfl, hissues⟩

theorem concluded_of_isUnusable (h : IsUnusable reader r) (name : String) (id : Option String) :
    ∃ f, concluded p name reader id (dataOf p (.ofString? id) r) = .error (.failure f) ∧
      f.cause = .internal := by
  rcases dataOf_of_isUnusable (p := p) h (.ofString? id) with
    ⟨f, hf, hcause⟩ | ⟨v, issues, hv, hbad⟩
  · exact ⟨f, by rw [hf]; rfl, hcause⟩
  · refine ⟨malformed p (.ofString? id) (Wire.headline name issues), ?_, rfl⟩
    rw [hv, concluded, hbad]

theorem not_isRetried_of_isUnusable (h : IsUnusable reader r) (id : Json) :
    isRetried (dataOf p id r) = false := by
  rcases dataOf_of_isUnusable (p := p) h id with ⟨f, hf, hcause⟩ | ⟨v, issues, hv, -⟩
  · rw [hf, isRetried, hcause]
    rfl
  · rw [hv]
    rfl

end Unusable

section Lawful

variable {s} {op : Operation} {k : StageCall} (hk : op.stageCall? = some k) (c : Client)

include hk

theorem entryOf_of_stageCall :
    (entryOf s op c).result =
      (Flow.run (call s k.peer k.path k.body k.name k.reader k.id) c).1 ∧
    (entryOf s op c).after =
      (Flow.run (call s k.peer k.path k.body k.name k.reader k.id) c).2 := by
  rw [← perform_of_stageCall s hk]
  exact ⟨rfl, rfl⟩

theorem told_of_stageCall (p : Peer) :
    (entryOf s op c).told p = if k.peer = p then c.told p (entryOf s op c).result else [] := by
  have hop : (entryOf s op c).operation.stageCall? = some k := hk
  rw [Entry.told, hop]
  rfl

/-- How a call over the network came out, with what was sent. -/
theorem callEnds_of_stageCall {script : Script} (hlink : c.links k.peer = .remote script)
    (h : c.admits k.peer = true) :
    ∃ es, (entryOf s op c).sent = callsIn es ∧
      CallEnds k.peer k.path k.body k.name k.reader k.id script es (entryOf s op c).result := by
  obtain ⟨hresult, hafter⟩ := entryOf_of_stageCall hk c
  obtain ⟨es, hjournal, hends⟩ := call_remote s k.peer k.path k.body k.name k.reader k.id c hlink h
  rw [← hafter] at hjournal
  exact ⟨es, Flow.sent_eq hjournal, hresult ▸ hends⟩

theorem sent_of_refused (h : c.admits k.peer = false) : (entryOf s op c).sent = [] := by
  obtain ⟨-, hafter⟩ := entryOf_of_stageCall hk c
  obtain ⟨-, hjournal⟩ := call_of_refused s k.peer k.path k.body k.name k.reader k.id c h
  rw [← hafter] at hjournal
  exact Flow.sent_of_journal_eq hjournal

/-- A call over the network sends only its own request. -/
theorem eq_callOf_of_mem_sent (hremote : c.isRemote k.peer = true) {call : Call}
    (hcall : call ∈ (entryOf s op c).sent) :
    call = callOf k.peer "POST" k.path (some k.body) k.id := by
  cases hadmit : c.admits k.peer with
  | false =>
    rw [sent_of_refused hk c hadmit] at hcall
    exact absurd hcall List.not_mem_nil
  | true =>
    obtain ⟨script, hlink⟩ := isRemote_iff.1 hremote
    obtain ⟨es, hsent, ⟨hnone, -⟩ | ⟨n, hcalls, -⟩⟩ := callEnds_of_stageCall hk c hlink hadmit
    · rw [hsent, hnone] at hcall
      exact absurd hcall List.not_mem_nil
    · rw [hsent, hcalls] at hcall
      exact List.eq_of_mem_replicate hcall

/-- The reply to the last request decides. -/
theorem result_of_isUnusable {script : Script} {n : Nat} (hlink : c.links k.peer = .remote script)
    (hlength : (entryOf s op c).sent.length = n + 1)
    (hreply : IsUnusable k.reader (script.reply n)) :
    ∃ f, (entryOf s op c).result = .error (.failure f) ∧ f.cause = .internal := by
  cases hadmit : c.admits k.peer with
  | false =>
    rw [sent_of_refused hk c hadmit] at hlength
    cases hlength
  | true =>
    obtain ⟨es, hsent, ⟨hnone, -⟩ | ⟨m, hcalls, hends⟩⟩ :=
      callEnds_of_stageCall hk c hlink hadmit
    · rw [hsent, hnone] at hlength
      cases hlength
    · rw [hsent, hcalls, List.length_replicate, Nat.add_right_cancel_iff] at hlength
      subst hlength
      rcases hends with hresult | ⟨-, hretried⟩
      · rw [hresult]
        exact concluded_of_isUnusable hreply k.name k.id
      · rw [not_isRetried_of_isUnusable hreply] at hretried
        cases hretried

theorem breakers_of_stageCall :
    (entryOf s op c).after.breakers =
      setFor k.peer (runBreaker s (c.breakers k.peer) ((entryOf s op c).told k.peer))
        c.breakers := by
  obtain ⟨hresult, hafter⟩ := entryOf_of_stageCall hk c
  rw [told_of_stageCall hk, if_pos rfl, hresult, hafter]
  exact call_breakers s k.peer k.path k.body k.name k.reader k.id c

theorem lawful_of_stageCall : (entryOf s op c).Lawful s where
  refused k' hk' h := by
    obtain rfl := Option.some.inj (hk.symm.trans hk')
    obtain ⟨hresult, -⟩ := entryOf_of_stageCall hk c
    obtain ⟨hfailure, -⟩ := call_of_refused s k.peer k.path k.body k.name k.reader k.id c h
    refine ⟨sent_of_refused hk c h, ?_, hresult ▸ hfailure⟩
    rw [told_of_stageCall hk, if_pos rfl]
    exact told_of_refused c k.peer _ h
  sends k' hk' hremote request hrequest := by
    obtain rfl := Option.some.inj (hk.symm.trans hk')
    rw [eq_callOf_of_mem_sent hk c hremote hrequest]
    rfl
  reports k' hk' h := by
    obtain rfl := Option.some.inj (hk.symm.trans hk')
    rw [told_of_stageCall hk, if_pos rfl]
    exact told_of_admitted c k.peer _ h
  unusable k' script n hk' hlink hsent hreply := by
    obtain rfl := Option.some.inj (hk.symm.trans hk')
    exact result_of_isUnusable hk c hlink hsent hreply
  breakers p := by
    rw [breakers_of_stageCall hk]
    by_cases hp : p = k.peer
    · subst hp
      exact setFor_self _ _
    · rw [setFor_of_ne hp, told_of_stageCall hk, if_neg (Ne.symm hp)]
      rfl
  others p hp := by
    rw [breakers_of_stageCall hk]
    exact setFor_of_ne (Ne.symm (hp k hk)) _ _

end Lawful

/-! ## Runs of operations -/

theorem lawful_of_checkHealth (p : Peer) (id : Option String) (c : Client) :
    (entryOf s (.checkHealth p id) c).Lawful s := by
  have hbreakers : (entryOf s (.checkHealth p id) c).after.breakers = c.breakers :=
    congrArg Prod.fst ((keeps_fixtures_checkHealth s p id).map Product.health c)
  constructor
  case breakers =>
    intro q
    rw [hbreakers]
    rfl
  case others =>
    intro q _
    rw [hbreakers]
    rfl
  all_goals
    intros
    contradiction

theorem entryOf_lawful (op : Operation) (c : Client) : (entryOf s op c).Lawful s := by
  cases hk : op.stageCall? with
  | some k => exact lawful_of_stageCall hk c
  | none =>
    obtain ⟨p, id, rfl⟩ := op.eq_checkHealth hk
    exact lawful_of_checkHealth s p id c

/-- No operation changes which services are reached over the network. -/
theorem isRemote_entryOf (op : Operation) (c : Client) :
    (entryOf s op c).after.isRemote = c.isRemote := by
  cases hk : op.stageCall? with
  | some k =>
    rw [(entryOf_of_stageCall hk c).2]
    exact call_isRemote s k.peer k.path k.body k.name k.reader k.id c
  | none =>
    obtain ⟨p, id, rfl⟩ := op.eq_checkHealth hk
    exact congrArg Prod.snd ((keeps_fixtures_checkHealth s p id).map Product.health c)

/-- Every operation of a run is lawful, and each breaker at the end is what the operations of the
run have told it, in their order. -/
theorem entries_lawful (ops : List Operation) (c : Client) :
    (∀ e ∈ entries s ops c, e.Lawful s) ∧
      (∀ p, (final s ops c).breakers p =
        runBreaker s (c.breakers p) ((entries s ops c).flatMap fun e => e.told p)) ∧
      ∀ e ∈ entries s ops c, e.before.isRemote = c.isRemote := by
  induction ops generalizing c with
  | nil =>
    refine ⟨fun e he => absurd he List.not_mem_nil, fun p => rfl,
      fun e he => absurd he List.not_mem_nil⟩
  | cons op ops ih =>
    obtain ⟨hlawful, hbreakers, hremote⟩ := ih (entryOf s op c).after
    have hfirst := entryOf_lawful s op c
    refine ⟨?_, fun p => ?_, ?_⟩
    · exact List.forall_mem_cons.2 ⟨hfirst, hlawful⟩
    · have hstep := hbreakers p
      rw [hfirst.breakers p, runBreaker, runBreaker, ← Breaker.run_append] at hstep
      exact hstep
    · refine List.forall_mem_cons.2 ⟨rfl, fun e he => ?_⟩
      rw [hremote e he, isRemote_entryOf]

end Gateway.Client

end TestScribe
