import TestScribe.Failure.Problem
import TestScribe.Journal.Record

/-!
# Computations with a journal

Everything that the program does beside computing its results is written into a journal in the order
in which it happens: log records, requests to other services, pauses. A flow is a computation that
may end in a problem, over a state that holds such a journal; what it has written and changed stays
when it ends in a problem.
-/

namespace TestScribe

/-- A request that is sent to a service. -/
structure Call where
  service : String
  method : String
  path : String
  body : Option Json
  correlation : Option String

/-- Something that the program did. -/
inductive Event
  | record (r : Journal.Record)
  | call (c : Call)
  | pause (seconds : Float)

/-- What the program did, in order. -/
abbrev Events := List Event

/-- A computation that may end in a problem, over a state. -/
abbrev Flow (σ α : Type) := ExceptT Problem (StateM σ) α

namespace Flow

variable {σ τ α : Type}

/-- Run a flow from a state: the result or the problem, and the state after it. -/
def run (x : Flow σ α) (s : σ) : Except Problem α × σ :=
  ExceptT.run x s

/-- A flow with the given result in each state. -/
def of (f : σ → Except Problem α × σ) : Flow σ α :=
  f

/-- End in a failure. -/
def fail (f : Failure) : Flow σ α :=
  throw (.failure f)

/-- End in a defect. -/
def defect (d : Defect) : Flow σ α :=
  throw (.defect d)

/-- The result or the problem of a flow as a value. -/
def outcome (x : Flow σ α) : Flow σ (Except Problem α) :=
  fun s => match run x s with
    | (r, s') => (.ok r, s')

/-- The result of a flow from an outcome. -/
def resume (r : Except Problem α) : Flow σ α :=
  fun s => (r, s)

/-- Whether a flow that came out so has an end. -/
def hasEnd : Except Problem α → Bool
  | .error (.defect .endless) => false
  | _ => true

/-- The results of flows that are waited for together. A problem ends the wait for all of them, so
the problems of those that have an end come before the wait for one that has none. -/
def gather (ends : List (Except Problem α)) : Flow σ (List α) := do
  let _ ← (ends.filter hasEnd).mapM resume
  ends.mapM resume

/-- A flow over a part of the state. -/
def within (part : σ → τ) (put : τ → σ → σ) (x : Flow τ α) : Flow σ α :=
  fun s => match run x (part s) with
    | (r, t) => (r, put t s)

end Flow

/-! ## Writing into the journal -/

/-- A state that keeps a journal. -/
class Journaling (σ : Type) where
  journal : σ → Events
  setJournal : Events → σ → σ

instance : Journaling Events := { journal := id, setJournal := fun es _ => es }

namespace Flow

variable {σ : Type} [Journaling σ] {α : Type}

/-- Write events at the end of the journal. -/
def write (es : Events) : Flow σ Unit :=
  fun s => (.ok (), Journaling.setJournal (Journaling.journal s ++ es) s)

/-- Write a record of a part of the program. -/
def note (severity : Journal.Severity) (part message : String) (fields : Members) : Flow σ Unit :=
  write [.record { severity, source := Journal.partName part, message, fields }]

end Flow

/-- A computation over a journal alone. -/
abbrev Journaled (α : Type) := Flow Events α

/-- A computation over a journal, on the journal of a state. -/
def Journaled.lift {σ : Type} [Journaling σ] {α : Type} (x : Journaled α) : Flow σ α :=
  Flow.within Journaling.journal Journaling.setJournal x

end TestScribe
