import TestScribe.Json.Basic
import TestScribe.Decimal.Shortest
import TestScribe.Text.Quoted

/-!
# Writing JSON

JSON is written in printable ASCII: quotes, backslashes and all characters outside `U+0020` to
`U+007E` are escaped, those above `U+FFFF` as a surrogate pair. `Layout` fixes the separators and
the indentation.
-/

namespace TestScribe.Json

/-! ## Strings -/

/-- A code unit as a four-digit escape. -/
def unitEscape (n : Nat) : List Char :=
  '\\' :: 'u' :: Text.hexDigits 4 n

/-- How one character stands in a string. -/
def escapeChar (c : Char) : List Char :=
  if c = '"' then ['\\', '"']
  else if c = '\\' then ['\\', '\\']
  else if c = '\n' then ['\\', 'n']
  else if c = '\r' then ['\\', 'r']
  else if c = '\t' then ['\\', 't']
  else if c.toNat = 0x08 then ['\\', 'b']
  else if c.toNat = 0x0C then ['\\', 'f']
  else if 0x20 ≤ c.toNat ∧ c.toNat < 0x7F then [c]
  else if c.toNat < 0x10000 then unitEscape c.toNat
  else
    let n := c.toNat - 0x10000
    unitEscape (0xD800 + n / 0x400) ++ unitEscape (0xDC00 + n % 0x400)

/-- A string with its quotes. -/
def stringChars (s : String) : List Char :=
  '"' :: s.toList.flatMap escapeChar ++ ['"']

/-! ## Values -/

/-- The text of a number that is no integer. -/
def floatText (x : Float) : String :=
  match Decimal.Reading.ofFloat x with
  | .finite _ => Decimal.shortestText x
  | .infinite negative => if negative then "-Infinity" else "Infinity"
  | .notANumber => "NaN"

/-- How values are laid out: what follows an item, what follows a name, and by how much each level
is indented; without `indent` all stands on one line. -/
structure Layout where
  itemEnd : List Char
  nameEnd : List Char
  indent : Option Nat

/-- One line, a blank after each comma and colon. -/
def Layout.spaced : Layout := { itemEnd := [',', ' '], nameEnd := [':', ' '], indent := none }

/-- One line without blanks. -/
def Layout.compact : Layout := { itemEnd := [','], nameEnd := [':'], indent := none }

/-- One item a line, indented by two blanks a level. -/
def Layout.indented : Layout := { itemEnd := [','], nameEnd := [':', ' '], indent := some 2 }

/-- The line break before an item at a level. -/
def Layout.break (l : Layout) (level : Nat) : List Char :=
  match l.indent with
  | some n => '\n' :: List.replicate (n * level) ' '
  | none => []

mutual

/-- The characters of a value at a level of nesting. -/
def chars (l : Layout) (level : Nat) : Json → List Char
  | .null => "null".toList
  | .bool true => "true".toList
  | .bool false => "false".toList
  | .int n => (toString n).toList
  | .float x => (floatText x).toList
  | .str s => stringChars s
  | .arr [] => ['[', ']']
  | .arr (v :: vs) =>
    '[' :: l.break (level + 1) ++ (chars l (level + 1) v ++ itemChars l (level + 1) vs) ++
      l.break level ++ [']']
  | .obj [] => ['{', '}']
  | .obj ((k, v) :: ms) =>
    '{' :: l.break (level + 1) ++ (stringChars k ++ l.nameEnd ++ chars l (level + 1) v ++
      memberChars l (level + 1) ms) ++ l.break level ++ ['}']

/-- The further items of an array. -/
def itemChars (l : Layout) (level : Nat) : List Json → List Char
  | [] => []
  | v :: vs => l.itemEnd ++ l.break level ++ chars l level v ++ itemChars l level vs

/-- The further members of an object. -/
def memberChars (l : Layout) (level : Nat) : List (String × Json) → List Char
  | [] => []
  | (k, v) :: ms =>
    l.itemEnd ++ l.break level ++ stringChars k ++ l.nameEnd ++ chars l level v ++
      memberChars l level ms

end

/-- The text of a value. -/
def render (l : Layout) (v : Json) : String :=
  String.ofList (chars l 0 v)

end TestScribe.Json
