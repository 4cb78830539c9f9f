/-!
# Circuit breakers

A breaker keeps calls from a service that fails. It counts the failures since the last success; at a
threshold it opens and refuses calls until a deadline. The first call after the deadline is let
through as a probe, and so are further ones until the outcome of one is known: a success closes the
breaker, a failure opens it again with a new deadline.

Times may be of any type with an order and an addition.
-/

namespace TestScribe.Gateway

/-- Whether calls are let through. -/
inductive Circuit
  | closed
  | opened
  | halfOpen
  deriving DecidableEq

namespace Circuit

/-- The name of a state. -/
def name : Circuit → String
  | closed => "CLOSED"
  | opened => "OPEN"
  | halfOpen => "HALF_OPEN"

/-- The state of a name. -/
def ofName? (name : String) : Option Circuit :=
  [closed, opened, halfOpen].find? fun c => c.name == name

end Circuit

/-- A breaker: its state, the failures since the last success, and the time at which an open breaker
lets a probe through. -/
structure Breaker (τ : Type) where
  state : Circuit
  failures : Nat
  deadline : Option τ

/-- How a call that was let through came out. -/
inductive Outcome
  | success
  | failure
  deriving DecidableEq

namespace Breaker

variable {τ : Type}

/-- A breaker before the first call. -/
def fresh : Breaker τ :=
  { state := .closed, failures := 0, deadline := none }

/-- The breaker after a call is asked for at `now`, and whether the call is let through. -/
def attempt [LE τ] [DecidableLE τ] (b : Breaker τ) (now : τ) : Breaker τ × Bool :=
  match b.state with
  | .opened =>
    match b.deadline with
    | some t => if t ≤ now then ({ b with state := .halfOpen }, true) else (b, false)
    | none => (b, false)
  | _ => (b, true)

/-- The breaker after a call succeeded. -/
def succeed (_ : Breaker τ) : Breaker τ :=
  fresh

/-- The breaker after a call failed at `now`. -/
def fail [Add τ] (threshold : Int) (cooldown : τ) (b : Breaker τ) (now : τ) : Breaker τ :=
  let failures := b.failures + 1
  if b.state = .halfOpen ∨ threshold ≤ failures then
    { state := .opened, failures, deadline := some (now + cooldown) }
  else { state := .closed, failures, deadline := none }

end Breaker

end TestScribe.Gateway
