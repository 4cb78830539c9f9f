import TestScribe.Wire.Checked
import TestScribe.Json.Reader
import TestScribe.Text.Blank

/-!
# Reading strings, truth values and numbers

Strings are taken as they are. Truth values and numbers are also read from each other and from
strings, as long as nothing is lost.
-/

namespace TestScribe.Wire

/-! ## Strings -/

/-- Read a string. -/
def text : Reader String
  | .str s => .ok s
  | v => refuse .notString v

/-- Read a string that is not empty. -/
def fullText (v : Json) : Checked String :=
  (text v).andThen fun s => if s == "" then refuse (.tooShort 1) v else .ok s

/-- Read one of some words, each with its meaning. -/
def choice {α : Type} (choices : List (String × α)) (v : Json) : Checked α :=
  let refused := refuse (.notOneOf (choices.map (·.1))) v
  match v with
  | .str s =>
    match choices.find? fun c => c.1 == s with
    | some c => .ok c.2
    | none => refused
  | _ => refused

/-! ## Truth values -/

/-- The words for false. -/
def noWords : List String := ["0", "off", "f", "false", "n", "no"]

/-- The words for true. -/
def yesWords : List String := ["1", "on", "t", "true", "y", "yes"]

/-- The truth value that an integer stands for. -/
def intBool (n : Int) (v : Json) : Checked Bool :=
  if n == 0 then .ok false else if n == 1 then .ok true else refuse .unreadableBool v

/-- Read a truth value. -/
def truth (v : Json) : Checked Bool :=
  match v with
  | .bool b => .ok b
  | .int n => intBool n v
  | .float x =>
    match Decimal.toInt? x with
    | some n => intBool n v
    | none => refuse .notBool v
  | .str s =>
    let word := s.toLower
    if noWords.contains word then .ok false
    else if yesWords.contains word then .ok true
    else refuse .unreadableBool v
  | _ => refuse .notBool v

/-! ## Numbers in strings -/

/-- A sign and the rest of a text. -/
def splitSign : List Char → Bool × List Char
  | '-' :: r => (true, r)
  | '+' :: r => (false, r)
  | r => (false, r)

/-- A text without the single underscores between its other characters; none if one stands at an end
or next to another one. -/
def withoutGaps? (s : List Char) : Option (List Char) :=
  let rec go : List Char → Option (List Char)
    | [] => some []
    | ['_'] => none
    | '_' :: '_' :: _ => none
    | c :: r => (go r).map fun t => if c == '_' then t else c :: t
  match s with
  | '_' :: _ => none
  | s => go s

/-- What is left of an integer behind a zero: zeros do not count, nor do underscores among them, up
to a digit, a sign, or the zero before a point. `before` is the last character passed over. -/
def behindZeros? (before : Char) : List Char → Option (List Char)
  | [] => some [before]
  | c :: r =>
    if c == '0' || c == '_' then behindZeros? c r
    else if Json.isDigit c || c == '-' then some (c :: r)
    else if c == '.' then some (before :: c :: r)
    else none

/-- A text without a plus sign at its beginning, unless a minus sign follows. -/
def withoutPlus : List Char → List Char
  | '+' :: r => if r.head? == some '-' then '+' :: r else r
  | r => r

/-- An integer without the zeros at its beginning; it begins with a digit or a minus sign. -/
def withoutFront? : List Char → Option (List Char)
  | '0' :: r => behindZeros? '0' r
  | c :: r => if Json.isDigit c || c == '-' then some (c :: r) else none
  | [] => none

/-- The part of a number before a point behind which only zeros stand. -/
def withoutZeros (s : List Char) : List Char :=
  let whole := s.takeWhile (· != '.')
  match s.drop whole.length with
  | '.' :: z :: zs => if (z :: zs).all (· == '0') then whole else s
  | _ => s

/-- The integer that plain digits stand for, with a minus sign perhaps; no zero stands before other
digits. -/
def plainInt? (s : List Char) : Option Int :=
  let (negative, digits) := match s with
    | '-' :: r => (true, r)
    | r => (false, r)
  let n : Int := Json.digitsValue digits
  if digits.isEmpty || !digits.all Json.isDigit || (digits.head? == some '0' && digits.length != 1)
  then none
  else some (if negative then -n else n)

/-- The integer that a text stands for. -/
def intOfText? (s : String) : Option Int := do
  let body ← withoutFront? (withoutPlus (Text.trim s.toList))
  plainInt? (← withoutGaps? (withoutZeros body))

/-- The words for numbers that have no digits. -/
def floatOfWord? (negative : Bool) (word : String) : Option Float :=
  if word == "inf" || word == "infinity" then
    some (if negative then -1.0 / 0.0 else 1.0 / 0.0)
  else if word == "nan" then some (0.0 / 0.0)
  else none

/-- The exponent behind a number, zero if there is none. -/
def exponentOf? : List Char → Option Int
  | [] => some 0
  | c :: r =>
    if c == 'e' || c == 'E' then
      let (negative, digits) := splitSign r
      if digits.isEmpty || !digits.all Json.isDigit then none
      else
        let n : Int := Json.digitsValue digits
        some (if negative then -n else n)
    else none

/-- The number that a text without gaps stands for. -/
def plainFloat? (s : List Char) : Option Float :=
  let (negative, body) := splitSign s
  match floatOfWord? negative (String.ofList body).toLower with
  | some x => some x
  | none =>
    let whole := body.takeWhile Json.isDigit
    let rest := body.drop whole.length
    let fraction := match rest with
      | '.' :: r => r.takeWhile Json.isDigit
      | _ => []
    let after := match rest with
      | '.' :: r => r.drop fraction.length
      | r => r
    if whole.isEmpty && fraction.isEmpty then none
    else (exponentOf? after).map fun e =>
      Decimal.toFloat negative (Json.digitsValue (whole ++ fraction)) (e - fraction.length)

/-- The number that a text stands for. -/
def floatOfText? (s : String) : Option Float :=
  (withoutGaps? (Text.trim s.toList)).bind plainFloat?

/-! ## Numbers -/

/-- Read an integer. -/
def integer (v : Json) : Checked Int :=
  match v with
  | .int n => .ok n
  | .bool b => .ok (if b then 1 else 0)
  | .float x =>
    match Decimal.toInt? x with
    | some n => .ok n
    | none => if Decimal.isFinite x then refuse .fractional v else refuse .notFinite v
  | .str s =>
    match intOfText? s with
    | some n => .ok n
    | none => refuse .unreadableInt v
  | _ => refuse .notInt v

/-- The number that an integer is. -/
def floatOfInt (n : Int) : Float :=
  Decimal.toFloat (n < 0) n.natAbs 0

/-- Read a number. -/
def number (v : Json) : Checked Float :=
  match v with
  | .float x => .ok x
  | .int n => .ok (floatOfInt n)
  | .bool b => .ok (if b then 1.0 else 0.0)
  | .str s =>
    match floatOfText? s with
    | some x => .ok x
    | none => refuse .unreadableFloat v
  | _ => refuse .notFloat v

/-! ## Bounds -/

/-- Read an integer above a bound. -/
def integerAbove (bound : Nat) (v : Json) : Checked Int :=
  (integer v).andThen fun n => if (bound : Int) < n then .ok n else refuse (.notGreater bound) v

/-- Read an integer from a bound on. -/
def integerFrom (bound : Nat) (v : Json) : Checked Int :=
  (integer v).andThen fun n => if (bound : Int) ≤ n then .ok n else refuse (.notAtLeast bound) v

/-- Read a number above zero. -/
def positive (v : Json) : Checked Float :=
  (number v).andThen fun x => if 0.0 < x then .ok x else refuse (.notGreater 0) v

/-- Read a number that is not below zero. -/
def nonNegative (v : Json) : Checked Float :=
  (number v).andThen fun x => if 0.0 ≤ x then .ok x else refuse (.notAtLeast 0) v

end TestScribe.Wire
