import TestScribe.Failure.Envelope
import TestScribe.Generation.StreamEvent
import TestScribe.Journal.Flow
import TestScribe.Json.Finite
import TestScribe.Settings
import TestScribe.Time.Instant

/-!
# Requests to a service and its responses

Every request has a correlation id: the one that it brings, or else a fresh one. Whatever becomes of
a request, the response carries this id in its header, and its body says in an envelope whether the
request was met.
-/

namespace TestScribe.Service

open Generation

/-! ## Requests -/

/-- A request that comes in from a client. -/
structure Request where
  method : String
  path : String
  correlation : Option String
  contentType : Option String
  body : String
  client : String

/-- What a service is given for a request: its settings, an id for a request that brings none, and
the time. -/
structure Surroundings where
  settings : Settings
  freshId : String
  now : Time.Instant

/-- The given correlation id, unless it is empty, or else the fresh one. -/
def Surroundings.idOr (s : Surroundings) (given : Option String) : String :=
  (given.filter (· != "")).getD s.freshId

/-! ## Responses -/

/-- What a response holds. -/
inductive Content
  | json (value : Json)
  | events (text : String)
  | empty

/-- The media type of a content. -/
def Content.mediaType? : Content → Option String
  | json _ => some "application/json"
  | events _ => some "text/event-stream; charset=utf-8"
  | empty => none

/-- The text of a content. -/
def Content.text : Content → String
  | json v => Json.render .compact v
  | events s => s
  | empty => ""

/-- A response to a request. -/
structure Response where
  status : Int
  correlation : String
  content : Content

/-- The envelope around the data of a request that was met. -/
def success (data : Json) (id : String) : Json :=
  .obj [("success", .bool true), ("data", data.withoutInfinite), ("correlationId", .str id)]

/-- What becomes of a request: its data, events that follow, a failure that is the client's own
affair, or the advice to ask elsewhere. -/
inductive Outcome (σ : Type)
  | data (value : Json)
  | stream (events : Flow σ (List StreamEvent))
  | rejection (f : Failure)
  | elsewhere

/-! ## Answering -/

/-- The part of the program that answers requests. -/
def part : String := "services.common"

variable {σ : Type} [Journaling σ]

/-- Respond, and record it. -/
def respond (s : Surroundings) (r : Request) (id : String) (status : Int) (content : Content) :
    Flow σ Response := do
  Flow.note .info part (r.method ++ " " ++ r.path ++ " -> " ++ toString status)
    [("correlation_id", .str id), ("service", .str s.settings.serviceName),
      ("method", .str r.method), ("path", .str r.path), ("status_code", .int status)]
  return { status, correlation := id, content }

/-- Respond to a request that met with a defect. -/
def respondDefect (s : Surroundings) (id : String) : Flow σ Response := do
  let f := (Failure.plain .internal "Internal server error.").withCorrelation (.str id)
  Flow.note .error part "Unhandled error"
    [("correlation_id", .str id), ("service", .str s.settings.serviceName)]
  return { status := f.cause.status, correlation := id, content := .json f.envelope }

/-- Respond with the report of a failure. A report that cannot be written is a defect. -/
def respondFailure (s : Surroundings) (r : Request) (id : String) (f : Failure) :
    Flow σ Response :=
  let report := (f.withCorrelation (.str id)).envelope
  if report.isFinite then respond s r id f.cause.status (.json report)
  else respondDefect s id

/-- Record a failure of the service. -/
def noteFailure (s : Surroundings) (id : String) (f : Failure) : Flow σ Unit :=
  Flow.note (if 500 ≤ f.cause.status then .error else .warning) part f.text
    [("correlation_id", .str id), ("service", .str s.settings.serviceName),
      ("code", .str f.cause.code), ("status_code", .int f.cause.status)]

/-- Respond to a request according to what became of it. There is no response as long as something
is waited for without end. -/
def conclude (s : Surroundings) (r : Request) (id : String) :
    Except Problem (Outcome σ) → Flow σ Response
  | .ok (.data v) => respond s r id 200 (.json (success v id))
  | .ok (.stream events) => do
    let response ← respond s r id 200 .empty
    return { response with content := .events (String.join ((← events).map (·.render))) }
  | .ok (.rejection f) => respondFailure s r id f
  | .ok .elsewhere => respond s r id 307 .empty
  | .error (.failure f) => do
    noteFailure s id f
    respondFailure s r id f
  | .error (.defect .endless) => Flow.defect .endless
  | .error (.defect _) => respondDefect s id

end TestScribe.Service
