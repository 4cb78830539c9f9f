/-!
# The exact value of a floating-point number

A finite floating-point number is `mantissa · 2 ^ exponent` with a sign. Everything the library
writes about such numbers, and every rounding, starts from this exact value.
-/

namespace TestScribe.Decimal

/-- A finite number `± mantissa · 2 ^ exponent`. `narrow` marks a mantissa below which the numbers
are twice as dense as above it. -/
structure Binary where
  negative : Bool
  mantissa : Nat
  exponent : Int
  narrow : Bool

/-- What a floating-point number stands for. -/
inductive Reading
  | finite (value : Binary)
  | infinite (negative : Bool)
  | notANumber

/-- The reading of the 64 bits of a floating-point number. -/
def Reading.ofBits (bits : Nat) : Reading :=
  let negative := bits / Nat.pow 2 63 == 1
  let exponent : Nat := bits / Nat.pow 2 52 % Nat.pow 2 11
  let fraction := bits % Nat.pow 2 52
  if exponent == 2047 then
    if fraction == 0 then .infinite negative else .notANumber
  else if exponent == 0 then
    .finite { negative, mantissa := fraction, exponent := -1074, narrow := false }
  else
    .finite { negative, mantissa := Nat.pow 2 52 + fraction, exponent := Int.ofNat exponent - 1075,
              narrow := fraction == 0 && exponent != 1 }

/-- The reading of a floating-point number. -/
def Reading.ofFloat (x : Float) : Reading :=
  .ofBits x.toBits.toNat

namespace Binary

/-- The value without its sign as a fraction of natural numbers. -/
def ratio (b : Binary) : Nat × Nat :=
  if 0 ≤ b.exponent then (b.mantissa * Nat.pow 2 b.exponent.toNat, 1)
  else (b.mantissa, Nat.pow 2 (-b.exponent).toNat)

/-- The value cut to an integer, toward zero. -/
def truncate (b : Binary) : Int :=
  let n : Int := (b.ratio.1 / b.ratio.2 : Nat)
  if b.negative then -n else n

/-- Whether the value is an integer. -/
def isInteger (b : Binary) : Bool :=
  b.ratio.1 % b.ratio.2 == 0

end Binary

/-- The quotient rounded to the nearest natural number, a half going to the even neighbour. -/
def roundDiv (num den : Nat) : Nat :=
  let floor := num / den
  let twice := 2 * (num % den)
  if twice < den then floor
  else if den < twice then floor + 1
  else if floor % 2 == 0 then floor else floor + 1

/-- Whether a floating-point number is neither infinite nor without value. -/
def isFinite (x : Float) : Bool :=
  match Reading.ofFloat x with
  | .finite _ => true
  | _ => false

/-- The integer that a finite number is, if it is one. -/
def toInt? (x : Float) : Option Int :=
  match Reading.ofFloat x with
  | .finite b => if b.isInteger then some b.truncate else none
  | _ => none

/-- A finite number cut to an integer toward zero. -/
def truncate? (x : Float) : Option Int :=
  match Reading.ofFloat x with
  | .finite b => some b.truncate
  | _ => none

end TestScribe.Decimal
