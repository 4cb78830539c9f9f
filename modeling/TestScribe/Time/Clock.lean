import TestScribe.Decimal.Binary

/-!
# Clocks

A clock is given by its readings. Every look at it uses up one of them.
-/

namespace TestScribe.Time

/-- The readings of a clock and the number of those that were taken. -/
structure Clock where
  reading : Nat → Float
  used : Nat

namespace Clock

/-- A look at the clock. -/
def read (c : Clock) : Float × Clock :=
  (c.reading c.used, { c with used := c.used + 1 })

/-- The reading after `n` steps of length `step`. -/
def stepped (start step : Float) : Nat → Float
  | 0 => start
  | n + 1 => stepped start step n + step

/-- A clock that goes on by `step` with each look. -/
def steady (start step : Float) : Clock :=
  { reading := stepped start step, used := 0 }

/-- A clock that shows multiples of `step`. -/
def multiples (step : Float) : Clock :=
  { reading := fun n => n.toFloat * step, used := 0 }

end Clock

/-- The milliseconds from one reading to another, cut to an integer; none if there is no end. -/
def milliseconds? (start stop : Float) : Option Int :=
  Decimal.truncate? ((stop - start) * 1000.0)

end TestScribe.Time
