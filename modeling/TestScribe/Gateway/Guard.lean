import TestScribe.Decimal.Fixed
import TestScribe.Gateway.Breaker
import TestScribe.Journal.Flow

/-!
# Guarded calls

A call to a service goes through the breaker of the service. A call that is refused fails at once.
How a call that was let through ended is reported to the breaker: failures that speak of the health
of the service count against it, all other ones are answers and count as success, and of a defect
nothing is reported.
-/

namespace TestScribe.Gateway

/-- When breakers open and for how long. -/
structure Protection where
  threshold : Int
  cooldown : Float

/-- What the end of a call says about the service. -/
def outcomeOf {α : Type} : Except Problem α → Option Outcome
  | .ok _ => some .success
  | .error (.failure f) => some (if f.cause.blamesService then .failure else .success)
  | .error (.defect _) => none

namespace Breaker

/-- The seconds until the deadline of a breaker, none if there is no deadline or it is at zero. -/
def remaining (b : Breaker Float) (now : Float) : Float :=
  let deadline := match b.deadline with
    | some t => if t == 0.0 then now else t
    | none => now
  let left := deadline - now
  if 0.0 < left then left else 0.0

/-- The failure of a call that the breaker of `service` refuses. -/
def refusal (b : Breaker Float) (service : String) (now : Float) (correlation : Json) : Failure :=
  .unavailable service correlation
    (.str ("Circuit breaker open. Next attempt in " ++ Decimal.fixedText 1 (b.remaining now) ++
      "s"))

/-- The breaker after the outcome of a call at `now`. -/
def report (p : Protection) (b : Breaker Float) (now : Float) : Option Outcome → Breaker Float
  | some .success => b.succeed
  | some .failure => b.fail p.threshold p.cooldown now
  | none => b

/-- The record of a breaker that opens. -/
def opening (b : Breaker Float) (service : String) (correlation : Json) : Journal.Record :=
  { severity := .warning
    source := Journal.partName "orchestration.circuit_breaker"
    message := "Circuit opened for " ++ service
    fields := [("correlation_id", correlation), ("service", .str service),
      ("state", .str b.state.name)] }

/-- What is recorded when a breaker goes from one state to the next. -/
def change (service : String) (before after : Breaker Float) (correlation : Json) : Events :=
  if after.state = .opened ∧ before.state ≠ .opened then
    [.record (after.opening service correlation)]
  else []

end Breaker

end TestScribe.Gateway
