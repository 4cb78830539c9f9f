import TestScribe.Decimal.Fixed
import TestScribe.Journal.Flow
import TestScribe.Settings

/-!
# Retries

A request that fails because a service is unavailable or slow is sent again, up to a limit. The
pauses between two attempts double from one to the next.
-/

namespace TestScribe.Transport

/-- How often a request is sent again, and the unit of the pauses. -/
structure Patience where
  retries : Nat
  base : Float

/-- How often requests are sent again by a service with the given settings. -/
def Patience.ofSettings (s : Settings) : Patience :=
  { retries := s.retryAttempts.toNat, base := s.retryBaseDelay }

/-- The pause after the `n`-th failure, if it is not too long to be expressed. -/
def Patience.pause? (p : Patience) (n : Nat) : Option Float :=
  if n < 1024 then some (p.base * Decimal.toFloat false (Nat.pow 2 n) 0) else none

/-- A try, and what is done after its `n`-th failure that allows for another try: first in any case,
then if there is to be another try, unless that ends the flow. -/
structure Trial (σ α : Type) where
  attempt : Flow σ α
  failed : Nat → Failure → Flow σ Unit
  again : Nat → Failure → Flow σ Unit

variable {σ α : Type}

/-- Try, and try again up to `left` times, `n` being the number of the next failure. -/
def Trial.run (t : Trial σ α) : (left : Nat) → (n : Nat) → Flow σ α
  | left, n => do
    match ← Flow.outcome t.attempt with
    | .error (.failure f) =>
      if f.cause.isRetried then
        t.failed n f
        match left with
        | 0 => Flow.fail f
        | left + 1 =>
          t.again n f
          t.run left (n + 1)
      else Flow.fail f
    | r => Flow.resume r

end TestScribe.Transport
