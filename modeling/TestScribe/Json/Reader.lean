import TestScribe.Json.Basic
import TestScribe.Decimal.Fixed

/-!
# Reading JSON

A text is read as one JSON value with blanks around it. Beyond the standard, `NaN`, `Infinity` and
`-Infinity` are numbers; of members with the same name the last value counts, in the place of the
first. A text that is no value is refused with the cause and the position at which reading stopped.

Texts are made of characters, and a surrogate that stands alone is none: an escape for one is read
as `U+FFFD`. This is a limit. A reader whose texts can hold lone surrogates would keep it, and a
response that holds one could then not be encoded; what becomes of such texts is not said here.
-/

namespace TestScribe.Json

/-- Why a text is not JSON. -/
inductive Refusal
  | value
  | name
  | colon
  | comma
  | openString
  | controlCharacter
  | escape
  | unicodeEscape
  | extraData
  | byteOrderMark

/-- The words for a refusal. -/
def Refusal.message : Refusal → String
  | .value => "Expecting value"
  | .name => "Expecting property name enclosed in double quotes"
  | .colon => "Expecting ':' delimiter"
  | .comma => "Expecting ',' delimiter"
  | .openString => "Unterminated string starting at"
  | .controlCharacter => "Invalid control character at"
  | .escape => "Invalid \\escape"
  | .unicodeEscape => "Invalid \\uXXXX escape"
  | .extraData => "Extra data"
  | .byteOrderMark => "Unexpected UTF-8 BOM (decode using utf-8-sig)"

/-- A refusal and the number of characters that were left where it arose. -/
structure Stop where
  refusal : Refusal
  left : Nat

/-- A reader takes a value off the front of a text. -/
abbrev Reader (α : Type) := List Char → Except Stop (α × List Char)

/-- Refuse at the front of `rest`. -/
def stop {α : Type} (refusal : Refusal) (rest : List Char) : Except Stop α :=
  .error { refusal, left := rest.length }

/-- A character that may stand between the parts of a value. -/
def isGap (c : Char) : Bool :=
  c == ' ' || c == '\n' || c == '\t' || c == '\r'

/-- The text without the gap at its front. -/
def skipGap (s : List Char) : List Char :=
  s.dropWhile isGap

/-! ## Strings -/

/-- The value of a hexadecimal digit. -/
def hexValue? (c : Char) : Option Nat :=
  let n := c.toNat
  if 48 ≤ n && n ≤ 57 then some (n - 48)
  else if 97 ≤ n && n ≤ 102 then some (n - 87)
  else if 65 ≤ n && n ≤ 70 then some (n - 55)
  else none

/-- Four hexadecimal digits as a code unit. -/
def hexUnit? : List Char → Option Nat
  | [a, b, c, d] => do
    let a ← hexValue? a
    let b ← hexValue? b
    let c ← hexValue? c
    let d ← hexValue? d
    return a * 0x1000 + b * 0x100 + c * 0x10 + d
  | _ => none

/-- The code point of two surrogates. -/
def joinSurrogates (high low : Nat) : Nat :=
  0x10000 + (high - 0xD800) * 0x400 + (low - 0xDC00)

/-- The character of a code unit that stands alone; a lone surrogate is read as `U+FFFD`. -/
def unitChar (n : Nat) : Char :=
  if 0xD800 ≤ n ∧ n < 0xE000 then Char.ofNat 0xFFFD else Char.ofNat n

/-- The character of an escape by a single letter. -/
def shortEscape? (c : Char) : Option Char :=
  if c = '"' ∨ c = '\\' ∨ c = '/' then some c
  else if c = 'b' then some (Char.ofNat 8)
  else if c = 'f' then some (Char.ofNat 12)
  else if c = 'n' then some '\n'
  else if c = 'r' then some '\r'
  else if c = 't' then some '\t'
  else none

/-- The characters of a string up to its closing quote. `whole` is the length of the text from the
opening quote on, where a string without an end is reported. A step reads one character, `n` bounds
the steps, and `read` holds the characters read so far, the last one first. -/
def readString (whole : Nat) : Nat → List Char → Reader (List Char)
  | 0, _, _ => .error { refusal := .openString, left := whole }
  | _, _, [] => .error { refusal := .openString, left := whole }
  | _ + 1, read, '"' :: rest => .ok (read.reverse, rest)
  | _ + 1, _, ['\\'] => .error { refusal := .openString, left := whole }
  | n + 1, read, '\\' :: 'u' :: rest =>
    if (rest.drop 4).isEmpty then stop .unicodeEscape ('u' :: rest)
    else match hexUnit? (rest.take 4) with
      | none => stop .unicodeEscape ('u' :: rest)
      | some high =>
        let after := rest.drop 4
        match after with
        | '\\' :: 'u' :: second =>
          if 0xD800 ≤ high ∧ high < 0xDC00 ∧ !(second.drop 4).isEmpty then
            match hexUnit? (second.take 4) with
            | none => stop .unicodeEscape ('u' :: second)
            | some low =>
              if 0xDC00 ≤ low ∧ low < 0xE000 then
                readString whole n (Char.ofNat (joinSurrogates high low) :: read) (second.drop 4)
              else readString whole n (unitChar high :: read) after
          else readString whole n (unitChar high :: read) after
        | _ => readString whole n (unitChar high :: read) after
  | n + 1, read, '\\' :: c :: rest =>
    match shortEscape? c with
    | some d => readString whole n (d :: read) rest
    | none => stop .escape ('\\' :: c :: rest)
  | n + 1, read, c :: rest =>
    if c.toNat < 0x20 then stop .controlCharacter (c :: rest)
    else readString whole n (c :: read) rest

/-- A string whose opening quote has been read. -/
def readText (rest : List Char) : Except Stop (String × List Char) := do
  let (cs, after) ← readString (rest.length + 1) (rest.length + 1) [] rest
  return (String.ofList cs, after)

/-! ## Numbers -/

/-- A digit of a number. -/
def isDigit (c : Char) : Bool :=
  '0' ≤ c && c ≤ '9'

/-- The number that digits stand for. -/
def digitsValue (ds : List Char) : Nat :=
  ds.foldl (fun n c => n * 10 + (c.toNat - 48)) 0

/-- The digits of an integer: a zero alone, or digits that do not begin with zero. -/
def readWhole : List Char → Option (List Char × List Char)
  | '0' :: rest => some (['0'], rest)
  | c :: rest =>
    if isDigit c then some (c :: rest.takeWhile isDigit, rest.dropWhile isDigit) else none
  | [] => none

/-- A point with digits behind it, or nothing. -/
def readFraction : List Char → List Char × List Char
  | '.' :: c :: rest =>
    if isDigit c then (c :: rest.takeWhile isDigit, rest.dropWhile isDigit)
    else ([], '.' :: c :: rest)
  | rest => ([], rest)

/-- The digits of an exponent. -/
def readExponentDigits (negative : Bool) (rest : List Char) : Option (Int × List Char) :=
  match rest.takeWhile isDigit with
  | [] => none
  | ds =>
    let n : Int := digitsValue ds
    some (if negative then -n else n, rest.dropWhile isDigit)

/-- A mark with a sign and digits behind it, or nothing. -/
def readExponent : List Char → Option (Int × List Char)
  | c :: rest =>
    if c = 'e' ∨ c = 'E' then
      match rest with
      | '+' :: digits => readExponentDigits false digits
      | '-' :: digits => readExponentDigits true digits
      | digits => readExponentDigits false digits
    else none
  | [] => none

/-- A number whose sign has been read. -/
def readNumber (negative : Bool) (s : List Char) : Option (Json × List Char) := do
  let (whole, rest) ← readWhole s
  let (fraction, rest) := readFraction rest
  match readExponent rest with
  | some (e, after) =>
    let x := Decimal.toFloat negative (digitsValue (whole ++ fraction)) (e - fraction.length)
    return (.float x, after)
  | none =>
    if fraction.isEmpty then
      let n : Int := digitsValue whole
      return (.int (if negative then -n else n), rest)
    else
      let x := Decimal.toFloat negative (digitsValue (whole ++ fraction)) (-fraction.length)
      return (.float x, rest)

/-! ## Values -/

/-- The words that are values, each with its value. -/
def constants : List (List Char × Json) := [
  ("null".toList, .null), ("true".toList, .bool true), ("false".toList, .bool false),
  ("NaN".toList, .float (0.0 / 0.0)), ("Infinity".toList, .float (1.0 / 0.0)),
  ("-Infinity".toList, .float (-1.0 / 0.0))]

/-- A value that is neither a string nor an array nor an object. -/
def readScalar (s : List Char) : Except Stop (Json × List Char) :=
  match constants.find? fun c => c.1.isPrefixOf s with
  | some (word, v) => .ok (v, s.drop word.length)
  | none =>
    let number := match s with
      | '-' :: rest => readNumber true rest
      | _ => readNumber false s
    match number with
    | some result => .ok result
    | none => stop .value s

mutual

/-- A value; `n` bounds the nesting. -/
def readValue : Nat → Reader Json
  | 0, s => stop .value s
  | n + 1, s =>
    match s with
    | '"' :: rest => do
      let (t, after) ← readText rest
      return (.str t, after)
    | '[' :: rest =>
      match skipGap rest with
      | ']' :: after => .ok (.arr [], after)
      | inner => do
        let (items, after) ← readItems n inner
        return (.arr items, after)
    | '\x7b' :: rest =>
      match skipGap rest with
      | '\x7d' :: after => .ok (.obj [], after)
      | inner => do
        let (pairs, after) ← readMembers n inner
        return (.obj (Members.ofList pairs), after)
    | _ => readScalar s

/-- The items of an array and its closing bracket. -/
def readItems : Nat → Reader (List Json)
  | 0, s => stop .value s
  | n + 1, s => do
    let (v, rest) ← readValue n s
    match skipGap rest with
    | ']' :: after => return ([v], after)
    | ',' :: more => do
      let (vs, after) ← readItems n (skipGap more)
      return (v :: vs, after)
    | other => stop .comma other

/-- The members of an object and its closing brace. -/
def readMembers : Nat → Reader (List (String × Json))
  | 0, s => stop .value s
  | n + 1, s =>
    match s with
    | '"' :: rest => do
      let (k, rest) ← readText rest
      match skipGap rest with
      | ':' :: rest => do
        let (v, rest) ← readValue n (skipGap rest)
        match skipGap rest with
        | '\x7d' :: after => return ([(k, v)], after)
        | ',' :: more => do
          let (ms, after) ← readMembers n (skipGap more)
          return ((k, v) :: ms, after)
        | other => stop .comma other
      | other => stop .colon other
    | _ => stop .name s

end

/-! ## Texts -/

/-- A refusal and the position, in characters, at which it arose. -/
structure ReadError where
  refusal : Refusal
  position : Nat

/-- The value of a text in which no byte order mark stands. -/
def readAll (s : List Char) : Except Stop Json := do
  let inner := skipGap s
  let (v, rest) ← readValue (inner.length + 1) inner
  match skipGap rest with
  | [] => return v
  | extra => stop .extraData extra

/-- The value of a text. -/
def read (text : String) : Except ReadError Json :=
  let s := text.toList
  match s with
  | '\uFEFF' :: _ => .error { refusal := .byteOrderMark, position := 0 }
  | _ => (readAll s).mapError fun e => { refusal := e.refusal, position := s.length - e.left }

/-- The value of a text, if it has one. -/
def read? (text : String) : Option Json :=
  (read text).toOption

end TestScribe.Json
