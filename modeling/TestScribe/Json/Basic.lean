/-!
# JSON values

A JSON value keeps the order of the members of an object and tells integers from numbers that have
a fraction or an exponent. An object holds each name once; writing a name again keeps its place.
-/

namespace TestScribe

/-- A JSON value. -/
inductive Json
  | null
  | bool (value : Bool)
  | int (value : Int)
  | float (value : Float)
  | str (value : String)
  | arr (items : List Json)
  | obj (members : List (String × Json))
  deriving Inhabited

/-- The members of an object in order. -/
abbrev Members := List (String × Json)

namespace Members

/-- The value under a name. -/
def get? : Members → String → Option Json
  | [], _ => none
  | (k, v) :: ms, key => if k = key then some v else get? ms key

/-- The members with `value` under `key`: in the place of the old value, or else at the end. -/
def set : Members → String → Json → Members
  | [], key, value => [(key, value)]
  | (k, v) :: ms, key, value => if k = key then (k, value) :: ms else (k, v) :: set ms key value

/-- The members with all of `extra` written over them, in order. -/
def merge (ms extra : Members) : Members :=
  extra.foldl (fun acc m => acc.set m.1 m.2) ms

/-- The members of a list of pairs in which a name may come more than once. -/
def ofList (pairs : List (String × Json)) : Members :=
  merge [] pairs

/-- The members without those under `key`. -/
def erase (ms : Members) (key : String) : Members :=
  ms.filter fun m => m.1 != key

/-- Whether there is a value under `key`. -/
def has (ms : Members) (key : String) : Bool :=
  ms.any fun m => m.1 == key

end Members

namespace Json

/-- The members of an object. -/
def members? : Json → Option Members
  | .obj ms => some ms
  | _ => none

/-- The text of a string. -/
def string? : Json → Option String
  | .str s => some s
  | _ => none

/-- The items of an array. -/
def items? : Json → Option (List Json)
  | .arr xs => some xs
  | _ => none

/-- A string, or null for no string. -/
def ofString? : Option String → Json
  | some s => .str s
  | none => .null

/-- The member `key` of an object. -/
def get? (v : Json) (key : String) : Option Json :=
  v.members?.bind fun ms => Members.get? ms key

/-- Whether a value counts as true: everything but null, false, zero and what is empty. -/
def truthy : Json → Bool
  | .null => false
  | .bool b => b
  | .int n => n != 0
  | .float x => !(x == 0.0)
  | .str s => s != ""
  | .arr xs => !xs.isEmpty
  | .obj ms => !ms.isEmpty

end Json

end TestScribe
