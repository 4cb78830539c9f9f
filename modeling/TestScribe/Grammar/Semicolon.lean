import TestScribe.Grammar.Piece

/-!
# Semicolons that the text leaves out

A semicolon may be left out at the end of the text, before a closing brace and at the end of a line
whose successor cannot carry the statement on. `Omission` tells what stands in front: after an
expression, an opening parenthesis or bracket on the next line carries on; after a type it does not;
after the head of a function, an opening brace does.
-/

namespace TestScribe.Grammar

/-- What a semicolon would follow. -/
inductive Omission
  | expression
  | type
  | signature
  deriving DecidableEq

namespace Omission

/-- A blank that may stand before the end of a line. -/
def isSpace (c : Char) : Bool :=
  Lexeme.isGap c

/-- The text behind blanks and comments; none if a slash stands there that opens no comment. -/
def afterComments : Nat → List Char → Option (List Char)
  | 0, s => some s
  | n + 1, s =>
    let s := s.dropWhile isSpace
    match s with
    | '/' :: _ =>
      match Lexeme.comment s with
      | 0 => none
      | size => afterComments n (s.drop size)
    | _ => some s

/-- Whether the next line, which begins with these characters, begins a new statement. -/
def startsAnew (o : Omission) : List Char → Bool
  | [] => true
  | c :: rest =>
    if "\x60,.;*%><=?^|&/:".toList.contains c then false
    else if c == '\x7b' then o != .signature
    else if c == '(' || c == '[' then o != .expression
    else if c == '+' then rest.head? == some '+'
    else if c == '-' then rest.head? == some '-'
    else if c == '!' then rest.head? != some '='
    else
      let word := Lexeme.wordText (c :: rest)
      word != "in" && word != "instanceof"

/-- Whether a semicolon is left out between this text and what is in front of it. -/
def applies (o : Omission) (left : Nat) : List Char → Bool
  | [] => true
  | c :: rest =>
    if c == '\x7d' then
      o == .expression || (rest.dropWhile isSpace).head? != some ':'
    else if c == '\n' then
      match afterComments (left + 1) rest with
      | none => false
      | some next => o.startsAnew next
    else if isSpace c then o.applies left rest
    else false

end Omission

namespace Parser

/-- Whether a semicolon is left out here. -/
def omitted (o : Omission) : Parser Bool := fun k =>
  some (o.applies k.left k.rest, k)

/-- The place of a semicolon that is left out. -/
def omission (o : Omission) : Parser Piece := fun k =>
  if o.applies k.left k.rest then some ({ lead := [], node := none, span := k.spanTo k }, k)
  else none

/-- A comment as a piece. -/
def commentPiece : Parser Piece := fun k =>
  let start := k.skipGap
  match start.comment? with
  | none => none
  | some (kind, size) =>
    let stop := start.skip size
    let node := Cursor.leaf kind true start stop
    some ({ lead := [], node := some node, span := node.span }, stop)

/-- The end of a statement: comments on the same line and then a semicolon, written or left out. The
pieces are in the order of the text. -/
def semicolon (o : Omission) : Parser (List Piece) := do
  if ← omitted o then
    return [← omission o]
  match ← option (token ";") with
  | some t => return [t]
  | none =>
    let comments ← many do
      require !(← omitted o)
      commentPiece
    require !comments.isEmpty
    return comments ++ [← omission o]

/-- A semicolon left out behind comments on the same line, or nothing. -/
def closing (o : Omission) : Parser (List Piece) := fun k =>
  let trailing : Parser (List Piece) := do
    let comments ← many do
      require !(← omitted o)
      commentPiece
    let last ← omission o
    return comments ++ [last]
  match trailing k with
  | some r => some r
  | none => some ([], k)

end Parser

end TestScribe.Grammar
