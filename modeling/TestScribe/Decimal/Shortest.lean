import TestScribe.Decimal.Binary

/-!
# The shortest decimal that reads back

Of the decimals that lie within the rounding interval of a floating-point number, the one with the
fewest digits is chosen; of two of them the nearer one, and the even one on a tie. The interval
reaches half way to the two neighbours and includes its ends when the mantissa is even.
-/

namespace TestScribe.Decimal

/-- A decimal `digits · 10 ^ exponent`. -/
structure Scientific where
  digits : Nat
  exponent : Int

/-- Powers of ten as a fraction. -/
def tenPower (p : Int) : Nat × Nat :=
  if 0 ≤ p then (Nat.pow 10 p.toNat, 1) else (1, Nat.pow 10 (-p).toNat)

namespace Binary

/-- The value and the two ends of its rounding interval in quarters of the last place. -/
def quarters (b : Binary) : Nat × Nat × Nat :=
  (4 * b.mantissa, if b.narrow then 4 * b.mantissa - 1 else 4 * b.mantissa - 2,
    4 * b.mantissa + 2)

/-- The multiple of `10 ^ p` that lies in the rounding interval, the nearer one if both neighbours
of the value do. -/
def onGrid? (b : Binary) (p : Int) : Option Nat :=
  let (value, low, high) := b.quarters
  let (s, t) := tenPower p
  let quarter : Nat × Nat :=
    if 2 ≤ b.exponent then (Nat.pow 2 (b.exponent - 2).toNat, 1)
    else (1, Nat.pow 2 (2 - b.exponent).toNat)
  let weight := quarter.1 * t
  let unit := s * quarter.2
  let inside (c : Nat) : Bool :=
    if b.mantissa % 2 == 0 then low * weight ≤ c * unit && c * unit ≤ high * weight
    else low * weight < c * unit && c * unit < high * weight
  let floor := value * weight / unit
  let nearest := roundDiv (value * weight) unit
  if nearest != 0 && inside nearest then some nearest
  else if floor != 0 && inside floor then some floor
  else if inside (floor + 1) then some (floor + 1)
  else none

/-- The first grid, going to finer ones, that has a point in the rounding interval. -/
def searchGrid (b : Binary) : Nat → Int → Scientific
  | 0, p => { digits := (b.onGrid? p).getD 0, exponent := p }
  | n + 1, p =>
    match b.onGrid? p with
    | some c => { digits := c, exponent := p }
    | none => b.searchGrid n (p - 1)

/-- The shortest decimal that reads back as the value. -/
def shortest (b : Binary) : Scientific :=
  if b.mantissa == 0 then { digits := 0, exponent := 0 }
  else
    let magnitude : Int := b.mantissa.log2 + b.exponent + 1
    b.searchGrid 20 (magnitude * 30103 / 100000 + 1)

end Binary

/-! ## Layout -/

/-- How a number is written: positionally when its leading digit stands at an exponent from `low` up
to (not including) `high`, and with at least `exponentDigits` digits in the exponent otherwise. -/
structure Notation where
  low : Int
  high : Int
  exponentDigits : Nat

/-- Numbers are positional from four places behind the point to sixteen before it, and exponents
have two digits. -/
def Notation.standard : Notation := { low := -4, high := 16, exponentDigits := 2 }

/-- The text padded with zeros on the left. -/
def padZeros (width : Nat) (s : String) : String :=
  String.ofList (List.replicate (width - s.length) '0') ++ s

/-- A decimal without its sign. A number written positionally always has a fraction. -/
def Notation.render (style : Notation) (d : Scientific) : String :=
  let ds := (toString d.digits).toList
  let lead : Int := if d.digits == 0 then 0 else d.exponent + ds.length - 1
  if style.low ≤ lead ∧ lead < style.high then
    if lead < 0 then
      "0." ++ String.ofList (List.replicate (-lead - 1).toNat '0' ++ ds)
    else
      let whole := lead.toNat + 1
      let front := ds.take whole ++ List.replicate (whole - ds.length) '0'
      let back := ds.drop whole
      String.ofList front ++ "." ++ (if back.isEmpty then "0" else String.ofList back)
  else
    let fraction := match ds.drop 1 with
      | [] => ""
      | rest => "." ++ String.ofList rest
    let mark := if lead < 0 then "-" else "+"
    String.ofList (ds.take 1) ++ fraction ++ "e" ++ mark ++
      padZeros style.exponentDigits (toString lead.natAbs)

/-- The shortest text of a floating-point number; the three special values are named. -/
def shortestText (x : Float) : String :=
  match Reading.ofFloat x with
  | .finite b => (if b.negative then "-" else "") ++ Notation.standard.render b.shortest
  | .infinite negative => if negative then "-inf" else "inf"
  | .notANumber => "nan"

end TestScribe.Decimal
