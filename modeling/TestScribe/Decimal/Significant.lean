import TestScribe.Decimal.Fixed

/-!
# Significant digits

A number with a fixed count of significant digits, in scientific notation or in the shorter of the
two notations. As with fixed places, the exact value is rounded and ties go to the even neighbour.
-/

namespace TestScribe.Decimal

/-- The exponent of the leading digit of a positive fraction. -/
def leadExponent (num den : Nat) : Int :=
  let guess : Int := (toString num).length - (toString den).length
  let (s, t) := tenPower guess
  if s * den ≤ num * t then guess else guess - 1

namespace Binary

/-- The value without its sign as `count` significant digits, and the exponent of the first one. -/
def significant (b : Binary) (count : Nat) : Nat × Int :=
  if b.mantissa == 0 then (0, 0)
  else
    let (num, den) := b.ratio
    let lead := leadExponent num den
    let (s, t) := tenPower (lead - count + 1)
    let ds := roundDiv (num * t) (den * s)
    if ds == Nat.pow 10 count then (Nat.pow 10 (count - 1), lead + 1) else (ds, lead)

end Binary

/-- An exponent with its mark, a sign and at least two digits. -/
def exponentText (lead : Int) : String :=
  "e" ++ (if lead < 0 then "-" else "+") ++ padZeros 2 (toString lead.natAbs)

/-- Digits with a point behind the first; with `keepPoint` also if none follow. -/
def pointed (keepPoint : Bool) (ds : List Char) : String :=
  let rest := ds.drop 1
  String.ofList (ds.take 1) ++ (if rest.isEmpty && !keepPoint then "" else ".") ++
    String.ofList rest

/-- Digits without the zeros at their end. -/
def withoutFinalZeros (ds : List Char) : List Char :=
  (ds.reverse.dropWhile (· == '0')).reverse

/-- A number without its sign in scientific notation with `places` digits behind the point. -/
def Binary.scientific (b : Binary) (keepPoint : Bool) (places : Nat) : String :=
  let (ds, lead) := b.significant (places + 1)
  pointed keepPoint (padZeros (places + 1) (toString ds)).toList ++ exponentText lead

/-- A number without its sign with `places` digits behind the point. -/
def Binary.positional (b : Binary) (keepPoint : Bool) (places : Nat) : String :=
  placesText places (b.scaled places) ++ (if places == 0 && keepPoint then "." else "")

/-- The digits behind a point without the zeros at their end, and without a point behind which
nothing is left. -/
def tidy (text : String) : String :=
  let cs := text.toList
  if cs.contains '.' then
    let kept := withoutFinalZeros cs
    String.ofList (if kept.getLast? == some '.' then kept.dropLast else kept)
  else text

/-- A number without its sign with `count` significant digits in the shorter notation; zeros at the
end are left out unless `keepZeros`. -/
def Binary.general (b : Binary) (keepZeros : Bool) (count : Nat) : String :=
  let count := max count 1
  let (ds, lead) := b.significant count
  if -4 ≤ lead ∧ lead < count then
    let text := b.positional keepZeros (count - 1 - lead).toNat
    if keepZeros then text else tidy text
  else
    let digits := (padZeros count (toString ds)).toList
    pointed keepZeros (if keepZeros then digits else digits.take 1 ++
      withoutFinalZeros (digits.drop 1)) ++ exponentText lead

end TestScribe.Decimal
