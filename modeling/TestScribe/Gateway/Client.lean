import TestScribe.Gateway.Guard
import TestScribe.Gateway.Health
import TestScribe.Gateway.Request
import TestScribe.Service.Stages
import TestScribe.Transport.Retry

/-!
# The gateway as a client

The gateway reaches each service of a stage over the network or has it in house. It sends a request
for a stage through the breaker of the service, again if need be, and reports to the breaker once,
when it is known how the call ended. Questions about the health of a service go past the breaker.
-/

namespace TestScribe.Gateway

open Transport Service

/-- How a service is reached. -/
inductive Link
  | remote (script : Script)
  | inHouse

/-- The gateway as a client: how it reaches each service, the breakers, a clock, and the model
server for the services in house, with the journal of all that is done. -/
structure Client where
  links : Peer → Link
  breakers : Peer → Breaker Float
  clock : Time.Clock
  backend : Generation.Backend

instance : Journaling Client where
  journal c := c.backend.journal
  setJournal es c := { c with backend := { c.backend with journal := es } }

/-- A family of values with another value for one service. -/
def setFor {α : Type} (p : Peer) (x : α) (f : Peer → α) : Peer → α :=
  fun q => if q = p then x else f q

namespace Client

/-- The part of the program that speaks for the gateway. -/
def part : String := "orchestration.service_client"

/-- Look at the clock. -/
def now : Flow Client Float :=
  fun c => let (t, clock) := c.clock.read
    (.ok t, { c with clock })

/-- The request as a service in house receives it. -/
def incoming (call : Call) : Service.Request :=
  { method := call.method, path := call.path, correlation := call.correlation
    contentType := some "application/json"
    body := match call.body with
      | some v => Json.render .compact v
      | none => ""
    client := "127.0.0.1" }

/-- Have a request answered in house. -/
def askInHouse (s : Surroundings) (p : Peer) (call : Call) : Flow Client Reply := do
  let r ← Flow.within Client.backend (fun b c => { c with backend := b })
    (Service.answer s p (incoming call))
  return .answer { status := r.status, text := r.content.text, ending := .complete }

/-- Send a request to a service and wait for the reply. -/
def ask (s : Surroundings) (p : Peer) (call : Call) : Flow Client Reply := do
  match (← get).links p with
  | .remote script =>
    match send call script with
    | .error d => Flow.defect d
    | .ok (reply, rest, es) =>
      modify fun c => { c with links := setFor p (.remote rest) c.links }
      Flow.write es
      return reply
  | .inHouse =>
    match objection? call with
    | some d => Flow.defect d
    | none => askInHouse s p call

/-! ## Answers -/

/-- The failure of a request that met with trouble on the way. -/
def mishapFailure (p : Peer) (id : Json) (m : Mishap) : Failure :=
  match m.trouble with
  | .late => .late .timedOut p.name id (.str m.message)
  | .unreachable => .unavailable p.name id (.str m.message)
  | .other =>
    { cause := .internal
      message := .str ("Unexpected error while communicating with " ++ p.name)
      details := .str m.message, correlation := id }

/-- The failure of an answer that is not as agreed. -/
def malformed (p : Peer) (id : Json) (details : String) : Failure :=
  { cause := .internal, message := .str ("Malformed response from " ++ p.name ++ ".")
    details := .str details, correlation := id }

/-- How much of a malformed answer is shown. -/
def shownLength : Nat := 500

/-- The data in the envelope of an answer. -/
def dataIn (p : Peer) (id : Json) (a : Answer) : Except Problem Json :=
  if isError a.status then
    match Failure.ofAnswer a.status (a.body?.getD .null) ("Unexpected response from " ++ p.name)
        id with
    | .ok f => .error (.failure f)
    | .error d => .error (.defect d)
  else
    match a.body?.bind fun v => v.get? "data" with
    | some data => .ok data
    | none => .error (.failure (malformed p id (String.ofList (a.text.toList.take shownLength))))

/-- The data in a reply. -/
def dataOf (p : Peer) (id : Json) : Reply → Except Problem Json
  | .mishap m => .error (.failure (mishapFailure p id m))
  | .answer a =>
    match a.ending with
    | .broken m => .error (.failure (mishapFailure p id m))
    | .endless => .error (.defect .endless)
    | .complete => dataIn p id a

/-- Send a request to a service and wait for its data. -/
def request (s : Surroundings) (p : Peer) (method path : String) (body : Option Json)
    (id : Option String) : Flow Client Json := do
  let call : Call :=
    { service := p.name, method, path, body, correlation := id.filter (· != "") }
  Flow.resume (dataOf p (.ofString? id) (← ask s p call))

/-! ## Calls -/

/-- Write down that a request failed and might be sent again. -/
def noteFailed (p : Peer) (id : Json) (n : Nat) (f : Failure) : Flow Client Unit :=
  Flow.note .warning part ("Attempt " ++ toString n ++ " failed for " ++ p.name)
    [("correlation_id", id), ("service", .str p.name), ("attempt", .int n),
      ("code", .str f.cause.code), ("status_code", .int f.cause.status), ("error", f.message)]

/-- Pause before a request is sent again. -/
def pauseBefore (patience : Patience) (n : Nat) : Flow Client Unit :=
  match patience.pause? n with
  | none => Flow.defect .overflow
  | some seconds => Flow.write [.pause seconds]

/-- Send a request, and again if need be. -/
def insist (s : Surroundings) (p : Peer) (id : Json) (attempt : Flow Client Json) :
    Flow Client Json :=
  let patience := Patience.ofSettings s.settings
  let trial : Trial Client Json :=
    { attempt
      failed := noteFailed p id
      again := fun n _ => pauseBefore patience n }
  trial.run patience.retries 1

/-- When the breakers open and for how long. -/
def protection (s : Surroundings) : Protection :=
  { threshold := s.settings.failureThreshold, cooldown := s.settings.cooldown }

/-- Report to the breaker of a service how a call ended. -/
def report (s : Surroundings) (p : Peer) (id : Json) : Option Outcome → Flow Client Unit
  | none => pure ()
  | some .success =>
    modify fun c => { c with breakers := setFor p (c.breakers p).succeed c.breakers }
  | some .failure => do
    let t ← now
    let before := (← get).breakers p
    let after := before.report (protection s) t (some .failure)
    modify fun c => { c with breakers := setFor p after c.breakers }
    Flow.write (Breaker.change p.name before after id)

/-- Do something with a service, if its breaker allows for it, and report how it ended. -/
def guarded {α : Type} (s : Surroundings) (p : Peer) (id : Json) (action : Flow Client α) :
    Flow Client α := do
  let t ← now
  let (b, allowed) := ((← get).breakers p).attempt t
  modify fun c => { c with breakers := setFor p b c.breakers }
  if allowed then
    let r ← Flow.outcome action
    report s p id (outcomeOf r)
    Flow.resume r
  else Flow.fail (b.refusal p.name t id)

/-- Call a service for a stage: send it a body and read what it gives back, which is of the type
`name`. -/
def call {α : Type} (s : Surroundings) (p : Peer) (path : String) (body : Json) (name : String)
    (reader : Wire.Reader α) (id : Option String) : Flow Client α :=
  guarded s p (.ofString? id) do
    let data ← insist s p (.ofString? id) (request s p "POST" path (some body) id)
    match reader data with
    | .ok a => return a
    | .bad issues => Flow.fail (malformed p (.ofString? id) (Wire.headline name issues))

/-! ## Stages -/

/-- What is sent to the analysis: nothing that is null. -/
def analysisBody (r : Request) : Json :=
  .obj ([("code", .str r.code)] ++ Failure.unlessNull "filePath" (.ofString? r.filePath) ++
    Failure.unlessNull "componentName" (.ofString? r.name) ++
    Failure.unlessNull "metadata" (Component.Request.metadataJson r.metadata))

/-- Have a source analyzed. -/
def analyze (s : Surroundings) (r : Request) (id : Option String) :
    Flow Client Component.Analysis :=
  call s .analysis analyzePath (analysisBody r) "ComponentAnalysis" Component.Analysis.read id

/-- What is sent to the generation. -/
def generationBody (a : Component.Analysis) (options : Option Generation.Options) : Json :=
  .obj ([("analysis", a.toJson)] ++
    match options with
    | some o => [("options", o.toShortJson)]
    | none => [])

/-- Have a test generated. -/
def generate (s : Surroundings) (a : Component.Analysis) (options : Option Generation.Options)
    (id : Option String) : Flow Client Generation.TestFile :=
  call s .generation generatePath (generationBody a options) "GeneratedTest"
    Generation.TestFile.read id

/-- What is sent to the validation. -/
def validationBody (t : Generation.TestFile) : Option Component.Analysis → Json
  | none => t.toJson
  | some a =>
    .obj [("generatedTest", t.toJson),
      ("component", .obj [("name", .str a.name), ("complexity", .int a.complexity)])]

/-- Have a test validated. -/
def validate (s : Surroundings) (t : Generation.TestFile) (a : Option Component.Analysis)
    (id : Option String) : Flow Client Validation.Verdict :=
  call s .validation validatePath (validationBody t a) "ValidationResult"
    Validation.Verdict.read id

/-! ## Health -/

/-- The health of a service from the end of a question about it. A message that is no text is a
defect. -/
def healthOf (p : Peer) (latency : Int) : Option Json → Except Defect ServiceHealth
  | none => .ok { service := p.name, healthy := true, latency, message := none }
  | some (.str m) => .ok { service := p.name, healthy := false, latency, message := some m }
  | some v =>
    .error (.invalid "ServiceHealth"
      [{ path := [.key "message"], complaint := .notString, input := v }])

/-- Ask how a service is doing, and see how long it took. -/
def probe (s : Surroundings) (p : Peer) (id : Option String) (start : Float) :
    Flow Client ServiceHealth := do
  let complaint ← match ← Flow.outcome (request s p "GET" healthPath none id) with
    | .ok _ => pure none
    | .error (.defect d) => Flow.defect d
    | .error (.failure f) => do
      Flow.note .warning part ("Health check failed for " ++ p.name)
        [("correlation_id", .ofString? id), ("service", .str p.name), ("error", f.message)]
      pure (some f.message)
  match Time.milliseconds? start (← now) with
  | none => Flow.defect .overflow
  | some latency =>
    match healthOf p latency complaint with
    | .ok h => return h
    | .error d => Flow.defect d

/-- How a service is doing. -/
def checkHealth (s : Surroundings) (p : Peer) (id : Option String) : Flow Client ServiceHealth := do
  probe s p id (← now)

/-- A question about the health of a service: it has an end, or it waits since a time. -/
inductive Inquiry
  | ended (r : Except Problem ServiceHealth)
  | waiting (start : Float)

/-- Begin to ask how a service is doing. A service in house does not answer at once. -/
def inquire (s : Surroundings) (id : Option String) (p : Peer) : Flow Client Inquiry := do
  let start ← now
  match (← get).links p with
  | .remote _ => return .ended (← Flow.outcome (probe s p id start))
  | .inHouse => return .waiting start

/-- Wait for the end of a question. -/
def await (s : Surroundings) (id : Option String) (p : Peer) :
    Inquiry → Flow Client (Except Problem ServiceHealth)
  | .ended r => pure r
  | .waiting start => Flow.outcome (probe s p id start)

/-- How all services are doing. All are asked before the first answer is waited for. -/
def checkAll (s : Surroundings) (id : Option String) : Flow Client (List ServiceHealth) := do
  let inquiries ← Peer.all.mapM fun p => do return (p, ← inquire s id p)
  let ends ← inquiries.mapM fun (p, i) => await s id p i
  Flow.gather ends

end Client

end TestScribe.Gateway
