import TestScribe.Decimal.Binary
import TestScribe.Json.Basic

/-!
# Finite values

JSON has no notation for infinite numbers and for numbers without a value. Where such a number may
still come up, it is either refused or written as null.
-/

namespace TestScribe.Json

mutual

/-- Whether all numbers of a value are finite. -/
def isFinite : Json → Bool
  | .float x => Decimal.isFinite x
  | .arr vs => allFinite vs
  | .obj ms => membersFinite ms
  | _ => true

/-- Whether all numbers of the items are finite. -/
def allFinite : List Json → Bool
  | [] => true
  | v :: vs => isFinite v && allFinite vs

/-- Whether all numbers of the members are finite. -/
def membersFinite : List (String × Json) → Bool
  | [] => true
  | (_, v) :: ms => isFinite v && membersFinite ms

end

mutual

/-- A value with null in the place of each number that is not finite. -/
def withoutInfinite : Json → Json
  | .float x => if Decimal.isFinite x then .float x else .null
  | .arr vs => .arr (itemsWithoutInfinite vs)
  | .obj ms => .obj (membersWithoutInfinite ms)
  | v => v

/-- The items with null in the place of each number that is not finite. -/
def itemsWithoutInfinite : List Json → List Json
  | [] => []
  | v :: vs => withoutInfinite v :: itemsWithoutInfinite vs

/-- The members with null in the place of each number that is not finite. -/
def membersWithoutInfinite : List (String × Json) → List (String × Json)
  | [] => []
  | (k, v) :: ms => (k, withoutInfinite v) :: membersWithoutInfinite ms

end

end TestScribe.Json
