/-!
# Rate limiters

A limiter allows a number of calls in a sliding window. It keeps the times of the calls it allowed
and forgets those that have left the window; a call that is refused leaves no trace. Each client has
a limiter of its own.

Times may be of any type with an order and a subtraction.
-/

namespace TestScribe.Gateway

/-- What a limiter says to a call. A limiter that allows no calls at all has no wait to offer. -/
inductive Admission (τ : Type)
  | allowed
  | wait (time : τ)
  | never
  deriving DecidableEq

/-- How many calls are allowed in a window of which length. -/
structure Quota (τ : Type) where
  calls : Int
  window : τ

/-- The times of the allowed calls, oldest first. -/
abbrev Limiter (τ : Type) := List τ

namespace Limiter

variable {τ : Type} [Sub τ] [LE τ] [DecidableLE τ]

/-- The calls that are in the window that ends at `now`. -/
def recent (q : Quota τ) (l : Limiter τ) (now : τ) : Limiter τ :=
  l.dropWhile fun t => decide (t ≤ now - q.window)

/-- Ask for a call at `now`. A refused call has to wait until the oldest one leaves the window. -/
def acquire (q : Quota τ) (l : Limiter τ) (now : τ) : Admission τ × Limiter τ :=
  let kept := l.recent q now
  if q.calls ≤ kept.length then
    match kept with
    | [] => (.never, kept)
    | oldest :: _ => (.wait (q.window - (now - oldest)), kept)
  else (.allowed, kept ++ [now])

end Limiter

/-- The limiter of each client, in the order in which they came. -/
abbrev ClientLimiters (τ : Type) := List (String × Limiter τ)

namespace ClientLimiters

variable {τ : Type} [Sub τ] [LE τ] [DecidableLE τ]

/-- Ask for a call of a client at `now`. -/
def acquire (q : Quota τ) (client : String) (now : τ) :
    ClientLimiters τ → Admission τ × ClientLimiters τ
  | [] =>
    let (a, l) := Limiter.acquire q [] now
    (a, [(client, l)])
  | (name, l) :: rest =>
    if name = client then
      let (a, l) := Limiter.acquire q l now
      (a, (name, l) :: rest)
    else
      let (a, rest) := acquire q client now rest
      (a, (name, l) :: rest)

end ClientLimiters

end TestScribe.Gateway
