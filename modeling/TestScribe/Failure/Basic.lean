import TestScribe.Json.Plain

/-!
# Failures

A failure says why a request could not be met: its cause, a message, details for the reader and the
correlation id of the request. The cause fixes the code and the status under which the failure goes
over the wire, and whether it speaks of the health of a service and is worth another try.
-/

namespace TestScribe

/-- Why a request failed. -/
inductive Cause
  | unspecified
  | noRoute (status : Nat)
  | badRequest
  | unparsable
  | ambiguous
  | rateLimited
  | serviceFault
  | unavailable
  | timedOut
  | cancelled
  | unexpected (status : Int)
  | internal
  | misconfigured
  deriving DecidableEq

namespace Cause

/-- The code of a failure with an unexpected status. -/
def unexpectedCode : String := "generic_upstream_error"

/-- The code that stands for a cause. -/
def code : Cause → String
  | unspecified => "internal_error"
  | noRoute status => if status == 404 then "not_found" else "http_error"
  | badRequest => "validation_error"
  | unparsable => "parse_error"
  | ambiguous => "ambiguous_component"
  | rateLimited => "rate_limited"
  | serviceFault => "upstream_error"
  | unavailable => "service_unavailable"
  | timedOut => "service_timeout"
  | cancelled => "service_timeout"
  | unexpected _ => unexpectedCode
  | internal => "internal_error"
  | misconfigured => "configuration_error"

/-- The status of an answer that reports a cause. -/
def status : Cause → Int
  | unspecified => 500
  | noRoute status => status
  | badRequest => 400
  | unparsable => 422
  | ambiguous => 422
  | rateLimited => 429
  | serviceFault => 502
  | unavailable => 503
  | timedOut => 504
  | cancelled => 504
  | unexpected status => status
  | internal => 500
  | misconfigured => 500

/-- Whether a cause speaks of the health of a service rather than of the request. -/
def blamesService : Cause → Bool
  | serviceFault | unavailable | timedOut | cancelled | unexpected _ | internal => true
  | _ => false

/-- Whether another try may help. -/
def isTransient : Cause → Bool
  | unavailable | timedOut | cancelled => true
  | _ => false

/-- Whether a request that failed is sent again: an abort is final. -/
def isRetried : Cause → Bool
  | unavailable | timedOut => true
  | _ => false

/-- The causes that a code of an error report stands for by itself. -/
def coded : List Cause :=
  [badRequest, unparsable, ambiguous, rateLimited, serviceFault, unavailable, timedOut, internal,
    misconfigured]

/-- The cause that a code stands for. -/
def ofCode? (code : String) : Option Cause :=
  coded.find? fun c => c.code == code

end Cause

/-- A request that failed. Null stands for no details and for no correlation id. Message and id may
have been taken over from the report of another service, where any value can stand in their
place. -/
structure Failure where
  cause : Cause
  message : Json
  details : Json
  correlation : Json

namespace Failure

/-- A failure with a message alone. -/
def plain (cause : Cause) (message : String) : Failure :=
  { cause, message := .str message, details := .null, correlation := .null }

/-- A failure with details. -/
def detailed (cause : Cause) (message : String) (details : Json) : Failure :=
  { plain cause message with details }

/-- A service that cannot be reached. -/
def unavailable (service : String) (correlation details : Json) : Failure :=
  { cause := .unavailable, message := .str (service ++ " is currently unavailable."), details,
    correlation }

/-- A service that took too long to answer, with the cause of a timeout or an abort. -/
def late (cause : Cause) (service : String) (correlation details : Json) : Failure :=
  { cause, message := .str (service ++ " did not respond in time."), details, correlation }

/-- Attach a correlation id, unless there is one. -/
def withCorrelation (f : Failure) (id : Json) : Failure :=
  match f.correlation with
  | .null => { f with correlation := id }
  | _ => f

/-- The message as text. -/
def text (f : Failure) : String :=
  f.message.plain

/-- A member that is left out when its value is null. -/
def unlessNull (name : String) : Json → Members
  | .null => []
  | v => [(name, v)]

/-- The report of a failure. -/
def report (f : Failure) : Members :=
  [("message", f.message), ("code", .str f.cause.code)] ++
    unlessNull "correlationId" f.correlation ++ unlessNull "details" f.details

/-- The report of a failure as JSON. -/
def toJson (f : Failure) : Json :=
  .obj f.report

end Failure

end TestScribe
