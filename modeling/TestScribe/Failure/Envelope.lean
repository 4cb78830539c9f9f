import TestScribe.Failure.Problem

/-!
# Failures from the answers of services

A service reports a failure in an envelope, an object with the report under `error`. From the report
the failure is made again. Where the report has no code that is known, the status of the answer
decides: a failing service is unavailable, any other status is unexpected.
-/

namespace TestScribe.Failure

/-- The envelope around the report of a failure. -/
def envelope (f : Failure) : Json :=
  .obj [("success", .bool false), ("error", f.toJson)]

/-- The report in an envelope; empty if there is none. -/
def reportIn (payload : Json) : Members :=
  match payload.get? "error" with
  | some (.obj report) => report
  | _ => []

/-- A value of a report, unless it is missing or counts as false. -/
def telling? (report : Members) (name : String) : Option Json :=
  (report.get? name).filter Json.truthy

/-- The cause for an answer with a code that is not known. -/
def causeOfStatus (status : Int) : Cause :=
  if 500 ≤ status then .unavailable else .unexpected status

/-- The cause for an answer whose report has the code `code`. -/
def causeOf (status : Int) (code : String) : Cause :=
  if code == Cause.unexpectedCode then .unexpected status
  else (Cause.ofCode? code).getD (causeOfStatus status)

/-- The failure that an answer reports, with a message and a correlation id to fall back on. A code
that is a list or an object is a defect. -/
def ofAnswer (status : Int) (payload : Json) (fallback : String) (correlation : Json) :
    Except Defect Failure :=
  let report := reportIn payload
  let failure (cause : Cause) : Failure :=
    { cause
      message := (telling? report "message").getD (.str fallback)
      details := (report.get? "details").getD .null
      correlation := (telling? report "correlationId").getD correlation }
  match report.get? "code" with
  | some (.arr _) | some (.obj _) => .error .wrongType
  | some (.str code) => .ok (failure (causeOf status code))
  | _ => .ok (failure (causeOfStatus status))

end TestScribe.Failure
