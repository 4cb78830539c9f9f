import TestScribe.Gateway.Limiter
import TestScribe.Gateway.Pipeline

/-!
# The gateway as a service

The gateway makes tests for its clients, each of which may only ask so often, and tells how it and
the services of the stages are doing.
-/

namespace TestScribe.Gateway

open Service

/-- The gateway as a service: itself as a client, and the limiters of its own clients. -/
structure Desk where
  client : Client
  limiters : ClientLimiters Float

instance : Journaling Desk where
  journal d := Journaling.journal d.client
  setJournal es d := { d with client := Journaling.setJournal es d.client }

namespace Desk

/-- Work of the gateway as a client. -/
def asClient {α : Type} (x : Flow Client α) : Flow Desk α :=
  Flow.within Desk.client (fun c d => { d with client := c }) x

/-! ## Limits -/

/-- How often a client may ask. -/
def quota (s : Settings) : Quota Float :=
  { calls := s.rateLimitMax, window := s.rateLimitWindow }

/-- The failure of a request that came too early. -/
def tooMany (wait : Float) (id : String) : Failure :=
  { cause := .rateLimited, message := .str "Too many requests. Please try again later."
    details := .obj [("retryAfter", .float (Decimal.roundTo 1 wait))], correlation := .str id }

/-- Ask the limiter of a client. -/
def askLimiter (s : Settings) (client : String) : Flow Desk (Admission Float) := do
  let t ← asClient Client.now
  let (admission, limiters) := ClientLimiters.acquire (quota s) client t (← get).limiters
  modify fun d => { d with limiters }
  return admission

/-- Let a request pass, unless its client asks too often. -/
def passLimiter (s : Surroundings) (r : Service.Request) (id : String) : Flow Desk Unit := do
  match ← askLimiter s.settings r.client with
  | .allowed => return ()
  | .never => Flow.defect .badIndex
  | .wait t =>
    Flow.note .warning "services.gateway_app" ("Rate limit exceeded for " ++ r.client)
      [("correlation_id", .str id), ("service", .str s.settings.serviceName)]
    Flow.fail (tooMany t id)

/-! ## Routes -/

/-- How the gateway and the services of the stages are doing. -/
def status (s : Surroundings) (id : String) : Flow Desk StatusReport := do
  let dependencies ← asClient (Client.checkAll s (some id))
  return { gateway := { service := s.settings.serviceName, healthy := true, timestamp := s.now }
           dependencies }

/-- The failure of a test that did not pass the validation. -/
def notValid (issues : List String) (id : String) : Failure :=
  { cause := .badRequest, message := .str "Generated test failed validation."
    details := Component.stringsJson issues, correlation := .str id }

/-- Make a test and give it back if it is valid. -/
def validTest (s : Surroundings) (r : Request) (id : String) : Flow Desk Generation.TestFile := do
  let v ← asClient (makeTest s r (some id) none)
  if v.valid then return v.test else Flow.fail (notValid v.issues id)

/-- The routes of the gateway. -/
def routes (s : Surroundings) : List (Route Desk) := [
  healthRoute s s.settings.serviceName (pure []),
  { method := "GET", path := "/status"
    handle := fun _ id => do return .data (← status s id).toJson },
  { method := "POST", path := "/api/generate-test"
    handle := taking (passLimiter s) Request.read fun r id => do
      return .data (← validTest s r id).toJson }]

/-- Answer a request to the gateway. -/
def answer (s : Surroundings) (r : Service.Request) : Flow Desk Response :=
  serve s (routes s) r

end Desk

end TestScribe.Gateway
