/-!
# Lexemes

How long the word, number, string, comment and so on is that stands at the front of a text. A length
of zero means that there is none.
-/

namespace TestScribe.Grammar.Lexeme

/-! ## Characters -/

/-- A blank between tokens. -/
def isGap (c : Char) : Bool :=
  let n := c.toNat
  (0x09 ≤ n && n ≤ 0x0D) || n == 0x20 || n == 0x85 || n == 0xA0 || n == 0x1680 ||
    (0x2000 ≤ n && n ≤ 0x200B) || n == 0x2028 || n == 0x2029 || n == 0x202F || n == 0x205F ||
    n == 0x2060 || n == 0x3000 || n == 0xFEFF

/-- A character that ends a line comment. -/
def endsLine (c : Char) : Bool :=
  c == '\n' || c == '\r' || c.toNat == 0x2028 || c.toNat == 0x2029

/-- A decimal digit. -/
def isDigit (c : Char) : Bool :=
  '0' ≤ c && c ≤ '9'

/-- A hexadecimal digit. -/
def isHexDigit (c : Char) : Bool :=
  isDigit c || ('a' ≤ c && c ≤ 'f') || ('A' ≤ c && c ≤ 'F')

/-- A character that words are made of: everything but blanks, controls and punctuation. -/
def isWordChar (c : Char) : Bool :=
  0x20 ≤ c.toNat && !isGap c && !(":;\x60\"'@#.,|^&<=>+-*/\\%?!~()[]\x7b\x7d".toList.contains c)

/-! ## Words -/

/-- The length of the escape of one character at the front of a text, the backslash included. -/
def codeEscape : List Char → Nat
  | '\\' :: 'u' :: '\x7b' :: rest =>
    let digits := rest.takeWhile isHexDigit
    if digits.isEmpty then 0
    else if (rest.drop digits.length).head? == some '\x7d' then digits.length + 4 else 0
  | '\\' :: 'u' :: a :: b :: c :: d :: _ => if [a, b, c, d].all isHexDigit then 6 else 0
  | _ => 0

/-- The length of the rest of a word; `skip` characters belong to an escape already seen. -/
def wordTail : Nat → List Char → Nat
  | _, [] => 0
  | skip + 1, _ :: rest => 1 + wordTail skip rest
  | 0, c :: rest =>
    if isWordChar c then 1 + wordTail 0 rest
    else match codeEscape (c :: rest) with
      | 0 => 0
      | n + 1 => 1 + wordTail n rest

/-- The length of the word at the front. -/
def word : List Char → Nat
  | [] => 0
  | c :: rest => if isDigit c then 0 else wordTail 0 (c :: rest)

/-- The word at the front, empty if there is none. -/
def wordText (s : List Char) : String :=
  String.ofList (s.take (word s))

/-! ## Strings -/

/-- An octal digit. -/
def isOctal (c : Char) : Bool :=
  '0' ≤ c && c ≤ '7'

/-- The length of the escape sequence at the front of a text. -/
def escape : List Char → Nat
  | '\\' :: 'x' :: a :: b :: _ => if isHexDigit a && isHexDigit b then 4 else 0
  | '\\' :: 'u' :: rest => codeEscape ('\\' :: 'u' :: rest)
  | '\\' :: '\r' :: '\n' :: _ => 3
  | '\\' :: c :: rest =>
    if isOctal c then 1 + 1 + ((rest.take 2).takeWhile isOctal).length
    else if c == 'x' then 0
    else 2
  | _ => 0

/-- The length of a string from behind its opening quote to its closing quote, both ends of the
count included; `skip` characters belong to an escape. -/
def stringTail (quote : Char) : Nat → List Char → Option Nat
  | _, [] => none
  | skip + 1, _ :: rest => (stringTail quote skip rest).map (· + 1)
  | 0, c :: rest =>
    if c == quote then some 1
    else if c == '\n' || c == '\r' then none
    else if c == '\\' then
      match escape (c :: rest) with
      | 0 => none
      | n + 1 => (stringTail quote n rest).map (· + 1)
    else (stringTail quote 0 rest).map (· + 1)

/-- The length of the string at the front. -/
def string : List Char → Nat
  | c :: rest =>
    if c == '"' || c == '\'' then ((stringTail c 0 rest).map (· + 1)).getD 0 else 0
  | [] => 0

/-! ## Numbers -/

/-- The length of a row of digits, single underscores between them allowed. -/
def digitRow (p : Char → Bool) : List Char → Nat
  | '_' :: c :: rest => if p c then 2 + digitRow p rest else 0
  | c :: rest => if p c then 1 + digitRow p rest else 0
  | [] => 0

/-- The length of a row of digits that begins with a digit. -/
def digits (p : Char → Bool) : List Char → Nat
  | c :: rest => if p c then 1 + digitRow p rest else 0
  | [] => 0

/-- The length of an exponent, zero if there is none. -/
def exponent : List Char → Nat
  | c :: rest =>
    if c == 'e' || c == 'E' then
      let sign := match rest with
        | s :: _ => if s == '+' || s == '-' then 1 else 0
        | [] => 0
      match digits isDigit (rest.drop sign) with
      | 0 => 0
      | n => 1 + sign + n
    else 0
  | [] => 0

/-- One more for the letter that marks a big integer. -/
def bigMark (n : Nat) (s : List Char) : Nat :=
  if (s.drop n).head? == some 'n' then n + 1 else n

/-- The length of a number in a base that two characters announce. -/
def basedNumber (s : List Char) : Nat :=
  let digit? : Option (Char → Bool) := match s with
    | '0' :: c :: _ =>
      if c == 'x' || c == 'X' then some isHexDigit
      else if c == 'o' || c == 'O' then some isOctal
      else if c == 'b' || c == 'B' then some fun d => d == '0' || d == '1'
      else none
    | _ => none
  match digit? with
  | none => 0
  | some p =>
    match digits p (s.drop 2) with
    | 0 => 0
    | n => bigMark (n + 2) s

/-- The length of a decimal number. -/
def decimalNumber (s : List Char) : Nat :=
  let whole := digits isDigit s
  let after := s.drop whole
  match after with
  | '.' :: rest =>
    let fraction := digits isDigit rest
    if whole == 0 && fraction == 0 then 0
    else whole + 1 + fraction + exponent (rest.drop fraction)
  | _ =>
    if whole == 0 then 0
    else match exponent after with
      | 0 => bigMark whole s
      | n => whole + n

/-- The length of the number at the front. -/
def number (s : List Char) : Nat :=
  match basedNumber s with
  | 0 => decimalNumber s
  | n => n

/-! ## Regular expressions -/

/-- The length of a pattern up to and including its closing slash; `inClass` inside brackets. -/
def patternTail : Bool → List Char → Option Nat
  | _, [] => none
  | inClass, '\\' :: c :: rest =>
    if c == '\n' then none else (patternTail inClass rest).map (· + 2)
  | inClass, c :: rest =>
    if c == '\n' || c == '\\' then none
    else if inClass then (patternTail (c != ']') rest).map (· + 1)
    else if c == '/' then some 1
    else (patternTail (c == '[') rest).map (· + 1)

/-- The length of the regular expression at the front, its flags included. -/
def regex : List Char → Nat
  | '/' :: rest =>
    match patternTail false rest with
    | none => 0
    | some n =>
      if n == 1 then 0
      else 1 + n + ((rest.drop n).takeWhile fun c => 'a' ≤ c && c ≤ 'z').length
  | _ => 0

/-! ## Templates and markup -/

/-- The length of the plain text at the front of a template. -/
def templateText : List Char → Nat
  | [] => 0
  | '$' :: '\x7b' :: _ => 0
  | c :: rest => if c.toNat == 0x60 || c == '\\' then 0 else 1 + templateText rest

/-- The length of the text at the front of markup, up to the next tag, brace or entity. -/
def markupText : List Char → Nat
  | [] => 0
  | c :: rest =>
    if c == '<' || c == '>' || c == '\x7b' || c == '\x7d' || c == '&' then 0
    else 1 + markupText rest

/-- The length of the entity at the front. -/
def entity : List Char → Nat
  | '&' :: '#' :: rest =>
    let (lead, body, limit, p) := match rest with
      | c :: more =>
        if c == 'x' || c == 'X' then (3, more, 6, isHexDigit) else (2, rest, 5, isDigit)
      | [] => (2, rest, 5, isDigit)
    let n := (body.takeWhile p).length
    if 1 ≤ n && n ≤ limit && (body.drop n).head? == some ';' then lead + n + 1 else 0
  | '&' :: rest =>
    let n := (rest.takeWhile fun c => c.isAlpha).length
    if 1 ≤ n && n ≤ 30 && (rest.drop n).head? == some ';' then n + 2 else 0
  | _ => 0

/-- The length of the value of an attribute from behind its opening quote to its closing quote; all
characters stand for themselves, entities excepted. -/
def attributeTail (quote : Char) : List Char → Option Nat
  | [] => none
  | c :: rest =>
    if c == quote then some 1
    else if c == '&' && (rest.head?.any fun d => d == '#' || d.isAlpha) &&
        entity (c :: rest) == 0 then none
    else (attributeTail quote rest).map (· + 1)

/-- The length of the value of an attribute between quotes, line breaks included. -/
def attributeString : List Char → Nat
  | c :: rest =>
    if c == '"' || c == '\'' then ((attributeTail c rest).map (· + 1)).getD 0 else 0
  | [] => 0

/-! ## Comments -/

/-- The length of a block comment from behind its opening to its end. -/
def blockTail : List Char → Option Nat
  | [] => none
  | '*' :: '/' :: _ => some 2
  | _ :: rest => (blockTail rest).map (· + 1)

/-- The length of the comment at the front. -/
def comment : List Char → Nat
  | '/' :: '/' :: rest => 2 + (rest.takeWhile fun c => !endsLine c).length
  | '/' :: '*' :: rest => ((blockTail rest).map (· + 2)).getD 0
  | _ => 0

/-- The length of the line at the front if it begins like a comment of a markup page. -/
def pageComment (s : List Char) : Nat :=
  if "<!--".toList.isPrefixOf s then (s.takeWhile fun c => !endsLine c).length else 0

end TestScribe.Grammar.Lexeme
