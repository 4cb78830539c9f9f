import TestScribe.Decimal.Significant
import TestScribe.Failure.Problem
import TestScribe.Json.Plain

/-!
# Message templates

The message of a record may be a template with directives that begin with a percent sign: flags, a
width, a precision and a letter that says how the next argument is shown. A directive may name a
member of a single object instead, and two percent signs stand for one. Too few arguments, too many,
or one of the wrong type are defects.
-/

namespace TestScribe.Journal

/-! ## Directives -/

/-- The flags of a directive. -/
structure Flags where
  left : Bool
  plus : Bool
  gap : Bool
  alternate : Bool
  zero : Bool

/-- A directive: its flags, its least width, its precision and its letter. -/
structure Directive where
  flags : Flags
  width : Nat
  precision : Option Nat
  letter : Char

/-- No flags. -/
def Flags.none : Flags :=
  { left := false, plus := false, gap := false, alternate := false, zero := false }

/-- The flags with that of a character, if it is one. -/
def Flags.add? (f : Flags) (c : Char) : Option Flags :=
  match c with
  | '-' => some { f with left := true }
  | '+' => some { f with plus := true }
  | ' ' => some { f with gap := true }
  | '#' => some { f with alternate := true }
  | '0' => some { f with zero := true }
  | _ => .none

/-! ## Arguments -/

/-- The arguments of a template: a row that is used up one by one, or an object. A value taken out
of the object, or the object itself, can be used once. -/
structure Arguments where
  row : List Json
  members : Option Members

/-- The arguments of a record. A single object that is not empty gives its members by name. -/
def Arguments.of (args : List Json) : Arguments :=
  match args with
  | [.obj (m :: ms)] => { row := args, members := some (m :: ms) }
  | _ => { row := args, members := none }

/-- Reading a template changes the arguments left and may end in a defect. -/
abbrev Reading (α : Type) := ExceptT Defect (StateM Arguments) α

/-- The next argument. -/
def nextArgument : Reading Json := do
  match (← get).row with
  | [] => throw .wrongType
  | v :: vs =>
    modify fun a => { a with row := vs }
    return v

/-! ## Reading a directive -/

/-- A template that ends within a directive. -/
def incomplete : Defect := .badValue "incomplete format"

/-- The name in brackets at the beginning of a text whose bracket is open, `depth` more are. -/
def bracketed (depth : Nat) : List Char → Option (List Char × List Char)
  | [] => none
  | c :: r =>
    if c == ')' && depth == 0 then some ([], r)
    else
      let deeper := if c == '(' then depth + 1 else if c == ')' then depth - 1 else depth
      (bracketed deeper r).map fun (name, rest) => (c :: name, rest)

/-- Take the member that a directive names, if it names one. -/
def takeMember : List Char → Reading (List Char)
  | '(' :: r => do
    match (← get).members with
    | none => throw .wrongType
    | some ms =>
      match bracketed 0 r with
      | none => throw (.badValue "incomplete format key")
      | some (name, rest) =>
        match ms.get? (String.ofList name) with
        | none => throw .missingKey
        | some v =>
          modify fun a => { a with row := [v] }
          return rest
  | r => return r

/-- Flags at the beginning of a text. -/
def readFlags (f : Flags) : List Char → Flags × List Char
  | [] => (f, [])
  | c :: r =>
    match f.add? c with
    | some g => readFlags g r
    | none => (f, c :: r)

/-- What a size is, and the greatest one. -/
structure Measure where
  name : String
  greatest : Nat

/-- The width of a directive. -/
def Measure.width : Measure := { name := "width", greatest := Nat.pow 2 63 - 1 }

/-- The precision of a directive. -/
def Measure.precision : Measure := { name := "precision", greatest := Nat.pow 2 31 - 1 }

/-- A size at the beginning of a text, none if there is none: digits, or a star for an argument. -/
def readSize (m : Measure) : List Char → Reading (Option Int × List Char)
  | '*' :: r => do
    match ← nextArgument with
    | .int n => if m.greatest < n.natAbs then throw .overflow else return (some n, r)
    | .bool b => return (some (if b then 1 else 0), r)
    | _ => throw .wrongType
  | s => do
    let ds := s.takeWhile fun c => '0' ≤ c && c ≤ '9'
    let n := ds.foldl (fun n c => 10 * n + (c.toNat - 48)) 0
    if m.greatest < n then throw (.badValue (m.name ++ " too big"))
    return (if ds.isEmpty then none else some (n : Int), s.drop ds.length)

/-- A precision at the beginning of a text. -/
def readPrecision : List Char → Reading (Option Nat × List Char)
  | '.' :: r => do
    let (size, rest) ← readSize .precision r
    return (some (size.getD 0).toNat, rest)
  | r => return (none, r)

/-- The text without a mark of length, which has no meaning. -/
def skipLength : List Char → List Char
  | c :: r => if c == 'h' || c == 'l' || c == 'L' then r else c :: r
  | [] => []

/-- The directive at the beginning of a text behind its percent sign. -/
def readDirective (s : List Char) : Reading (Directive × List Char) := do
  let s ← takeMember s
  let (flags, s) := readFlags .none s
  if s.isEmpty then throw incomplete
  let (width, s) ← readSize .width s
  let (precision, s) ← readPrecision s
  match skipLength s with
  | [] => throw incomplete
  | letter :: rest =>
    let size := width.getD 0
    let flags := if size < 0 then { flags with left := true } else flags
    return ({ flags, width := size.natAbs, precision, letter }, rest)

/-! ## Showing values -/

/-- The digits of a number in a base, at least `least` of them. -/
def digitsIn (base least n : Nat) : List Char :=
  let ds := Nat.toDigits base n
  List.replicate (least - ds.length) '0' ++ ds

/-- What is shown: a sign if the value is a number, a mark of the base, and the rest. -/
structure Shown where
  sign : Option Bool
  mark : List Char
  body : List Char

/-- Some text. -/
def Shown.words (s : List Char) : Shown :=
  { sign := none, mark := [], body := s }

/-- Text in which everything outside of ASCII is escaped. -/
def asciiOnly (s : List Char) : List Char :=
  s.flatMap fun c =>
    let n := c.toNat
    if n < 0x80 then [c]
    else if n < 0x100 then '\\' :: 'x' :: Text.hexDigits 2 n
    else if n < 0x10000 then '\\' :: 'u' :: Text.hexDigits 4 n
    else '\\' :: 'U' :: Text.hexDigits 8 n

/-- The integer that a directive for integers shows. -/
def integerOf (v : Json) : Except Defect Int :=
  match v with
  | .int n => .ok n
  | .bool b => .ok (if b then 1 else 0)
  | .float x =>
    match Decimal.Reading.ofFloat x with
    | .finite b => .ok b.truncate
    | .infinite _ => .error .overflow
    | .notANumber => .error (.badValue "cannot convert float NaN to integer")
  | _ => .error .wrongType

/-- The integer that a directive in another base shows. -/
def wholeOf (v : Json) : Except Defect Int :=
  match v with
  | .float _ => .error .wrongType
  | v => integerOf v

/-- An integer in a base. -/
def showInteger (d : Directive) (base : Nat) (n : Int) : Shown :=
  let ds := digitsIn base (d.precision.getD 0) n.natAbs
  let upper := d.letter == 'X'
  { sign := some (n < 0)
    mark := if d.flags.alternate && base != 10 then ['0', d.letter] else []
    body := if upper then ds.map Char.toUpper else ds }

/-- The number that a directive for numbers shows. -/
def numberOf (v : Json) : Except Defect Float :=
  match v with
  | .float x => .ok x
  | .bool b => .ok (if b then 1.0 else 0.0)
  | .int n =>
    let x := Decimal.toFloat (n < 0) n.natAbs 0
    if Decimal.isFinite x then .ok x else .error .overflow
  | _ => .error .wrongType

/-- A number in the notation of a letter. -/
def showNumber (d : Directive) (x : Float) : Shown :=
  let places := d.precision.getD 6
  let alternate := d.flags.alternate
  let (negative, text) := match Decimal.Reading.ofFloat x with
    | .notANumber => (false, "nan")
    | .infinite negative => (negative, "inf")
    | .finite b =>
      (b.negative,
        if d.letter == 'e' || d.letter == 'E' then b.scientific alternate places
        else if d.letter == 'f' || d.letter == 'F' then b.positional alternate places
        else b.general alternate places)
  let cs := text.toList
  { sign := some negative, mark := []
    body := if d.letter.isUpper then cs.map Char.toUpper else cs }

/-- The character that a directive for characters shows. -/
def showCharacter (v : Json) : Except Defect Shown :=
  let ofNumber (n : Int) : Except Defect Shown :=
    if 0 ≤ n ∧ n < 0x110000 then .ok (.words [Char.ofNat n.toNat]) else .error .overflow
  match v with
  | .int n => ofNumber n
  | .bool b => ofNumber (if b then 1 else 0)
  | .str s =>
    match s.toList with
    | [c] => .ok (.words [c])
    | _ => .error .wrongType
  | _ => .error .wrongType

/-- Text cut to the precision of a directive. -/
def showText (d : Directive) (s : List Char) : Shown :=
  .words (match d.precision with
    | some n => s.take n
    | none => s)

/-- What a letter that is no directive gives, `index` being its place. -/
def unsupported (letter : Char) (index : Nat) : Defect :=
  let n := letter.toNat
  let shown := if 31 ≤ n ∧ n ≤ 126 then letter else '?'
  let code := String.ofList (Nat.toDigits 16 n)
  .badValue ("unsupported format character '" ++ String.ofList [shown] ++ "' (0x" ++ code ++
    ") at index " ++ toString index)

/-- What a directive shows of a value. -/
def showValue (d : Directive) (index : Nat) (v : Json) : Except Defect Shown :=
  match d.letter with
  | 's' => .ok (showText d v.plain.toList)
  | 'r' => .ok (showText d v.literal.toList)
  | 'a' => .ok (showText d (asciiOnly v.literal.toList))
  | 'd' | 'i' | 'u' => (integerOf v).map (showInteger d 10)
  | 'x' | 'X' => (wholeOf v).map (showInteger d 16)
  | 'o' => (wholeOf v).map (showInteger d 8)
  | 'e' | 'E' | 'f' | 'F' | 'g' | 'G' => (numberOf v).map (showNumber d)
  | 'c' => showCharacter v
  | letter => .error (unsupported letter index)

/-- The sign that stands before a number. -/
def signText (f : Flags) : Option Bool → List Char
  | some true => ['-']
  | some false => if f.plus then ['+'] else if f.gap then [' '] else []
  | none => []

/-- What is shown, brought to the width of a directive: with zeros behind the sign of a number, or
with blanks on either side. -/
def padded (d : Directive) (s : Shown) : List Char :=
  let front := signText d.flags s.sign ++ s.mark
  let gap := d.width - (front.length + s.body.length)
  if d.flags.left then front ++ s.body ++ List.replicate gap ' '
  else if d.flags.zero && s.sign.isSome then front ++ List.replicate gap '0' ++ s.body
  else List.replicate gap ' ' ++ front ++ s.body

/-! ## Templates -/

/-- Fill a template of `whole` characters; `fuel` bounds the directives. -/
def fill (whole : Nat) : Nat → List Char → Reading (List Char)
  | _, [] => do
    let a ← get
    if a.members.isNone && !a.row.isEmpty then throw .wrongType else return []
  | 0, s => return s
  | fuel + 1, '%' :: '%' :: r => return '%' :: (← fill whole fuel r)
  | fuel + 1, '%' :: r => do
    let (d, rest) ← readDirective r
    let v ← nextArgument
    match showValue d (whole - rest.length - 1) v with
    | .error e => throw e
    | .ok s => return padded d s ++ (← fill whole fuel rest)
  | fuel + 1, c :: r => return c :: (← fill whole fuel r)

/-- The message of a record: the template as it is if there are no arguments. -/
def message (template : String) (args : List Json) : Except Defect String :=
  if args.isEmpty then .ok template
  else
    let s := template.toList
    (fill s.length s.length s (Arguments.of args)).1.map String.ofList

end TestScribe.Journal
