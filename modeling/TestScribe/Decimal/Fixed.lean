import TestScribe.Decimal.Shortest

/-!
# Fixed places

A number with a fixed count of places behind the point is the exact value of the floating-point
number rounded to that many places, a tie going to the even neighbour.
-/

namespace TestScribe.Decimal

/-- The value without its sign in units of the last of `places` places. -/
def Binary.scaled (b : Binary) (places : Nat) : Nat :=
  roundDiv (b.ratio.1 * Nat.pow 10 places) b.ratio.2

/-- A count of units of the last place as text with `places` places. -/
def placesText (places units : Nat) : String :=
  let ds := padZeros (places + 1) (toString units)
  let cs := ds.toList
  if places == 0 then ds
  else String.ofList (cs.take (cs.length - places)) ++ "." ++
    String.ofList (cs.drop (cs.length - places))

/-- The text of a floating-point number with `places` places. -/
def fixedText (places : Nat) (x : Float) : String :=
  match Reading.ofFloat x with
  | .finite b => (if b.negative then "-" else "") ++ placesText places (b.scaled places)
  | .infinite negative => if negative then "-inf" else "inf"
  | .notANumber => "nan"

/-- A decimal as the nearest floating-point number. Exponents beyond every finite number are cut
short before they cost any work. -/
def toFloat (negative : Bool) (digits : Nat) (exponent : Int) : Float :=
  let magnitude : Int := exponent + (toString digits).length
  let x : Float :=
    if digits == 0 ∨ magnitude < -400 then 0.0
    else if 400 < magnitude then 1.0 / 0.0
    else if 0 ≤ exponent then Float.ofScientific (digits * Nat.pow 10 exponent.toNat) false 0
    else Float.ofScientific digits true (-exponent).toNat
  if negative then -x else x

/-- The floating-point number rounded to `places` places. -/
def roundTo (places : Nat) (x : Float) : Float :=
  match Reading.ofFloat x with
  | .finite b => toFloat b.negative (b.scaled places) (-places)
  | _ => x

end TestScribe.Decimal
