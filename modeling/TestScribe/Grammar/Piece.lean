import TestScribe.Grammar.Cursor
import TestScribe.Grammar.Lexeme

/-!
# Pieces of a tree

A piece is a node just parsed, or a token that leaves no node, with the comments found in front of
it. When pieces are assembled to a node, its children are the nodes of the pieces and the comments
between them; the comments in front of the first piece stay in front of the new one. So a comment
ends up in the smallest node that has a token on either side of it.
-/

namespace TestScribe.Grammar

open Syntax

/-- Something parsed, and the comments in front of it. A token that the text leaves out is a piece
without a node. -/
structure Piece where
  lead : List Node
  node : Option Node
  span : Span

namespace Piece

/-- The piece as the filler of a field. -/
def inField (name : String) (p : Piece) : Piece :=
  { p with node := p.node.map (·.inField name) }

/-- The kind of the node, empty if there is none. -/
def kind (p : Piece) : String :=
  (p.node.map (·.kind)).getD ""

/-- The piece under another kind. -/
def withKind (kind : String) (p : Piece) : Piece :=
  { p with node := p.node.map (·.withKind kind) }

/-- The comments in front and the node. -/
def nodes (p : Piece) : List Node :=
  p.lead ++ p.node.toList

/-- The node of a kind made of pieces. -/
def assemble (kind : String) (first : Piece) (more : List Piece) : Piece :=
  let last := (more.getLast?.map (·.span)).getD first.span
  let span : Span := { first.span with stop := last.stop, endPoint := last.endPoint }
  let children := first.node.toList ++ more.flatMap nodes
  { lead := first.lead, node := some (.mk kind true none false false span children), span }

/-- The node of a kind made of a list of pieces that is not empty. -/
def assemble? (kind : String) : List Piece → Parser Piece
  | [] => failure
  | first :: more => pure (assemble kind first more)

end Piece

/-! ## Gaps -/

namespace Cursor

/-- The place behind the blanks. -/
def skipGap : Cursor → Cursor
  | { rest := [], left, offset, point } => { rest := [], left, offset, point }
  | { rest := c :: rest, left, offset, point } =>
    if Lexeme.isGap c then
      skipGap (past c rest { rest := c :: rest, left, offset, point })
    else { rest := c :: rest, left, offset, point }
termination_by k => k.rest.length
decreasing_by simp [past]

/-- The length of the comment here, and its kind. -/
def comment? (k : Cursor) : Option (String × Nat) :=
  match Lexeme.comment k.rest with
  | 0 =>
    match Lexeme.pageComment k.rest with
    | 0 => none
    | n => some ("html_comment", n)
  | n => some ("comment", n)

/-- The node that covers a stretch of text. -/
def leaf (kind : String) (isNamed : Bool) (k stop : Cursor) : Node :=
  .mk kind isNamed none false false (k.spanTo stop) []

/-- The comments from here on, at most `n` of them, and the place of the next token. -/
def commentsUpTo : Nat → Cursor → List Node × Cursor
  | 0, k => ([], k.skipGap)
  | n + 1, k =>
    let k := k.skipGap
    match k.comment? with
    | none => ([], k)
    | some (kind, size) =>
      let stop := k.skip size
      let (more, next) := commentsUpTo n stop
      (leaf kind true k stop :: more, next)

/-- The comments in front of the next token, and its place. -/
def comments (k : Cursor) : List Node × Cursor :=
  commentsUpTo (k.left + 1) k

/-- The place of the next token. -/
def next (k : Cursor) : Cursor :=
  k.comments.2

end Cursor

/-! ## Tokens -/

namespace Parser

/-- The text from the next token on. -/
def upcoming : Parser (List Char) := fun k =>
  some (k.next.rest, k)

/-- The next token is a word: which one. -/
def upcomingWord : Parser String := do
  return Lexeme.wordText (← upcoming)

/-- The character at the front of the next token. -/
def upcomingChar : Parser (Option Char) := do
  return (← upcoming).head?

/-- Whether the text from the next token on begins so. -/
def follows (text : String) : Parser Bool := do
  return text.toList.isPrefixOf (← upcoming)

/-- Whether a line ends between here and the next token. -/
def lineBreakFollows : Parser Bool := fun k =>
  some (k.point.row != k.next.point.row, k)

/-- The next token as a node of a kind, if `size` finds it to have a length. -/
def lexeme (kind : String) (isNamed : Bool) (size : List Char → Nat) : Parser Piece := fun k =>
  let (lead, start) := k.comments
  match size start.rest with
  | 0 => none
  | n =>
    let stop := start.skip n
    let node := Cursor.leaf kind isNamed start stop
    some ({ lead, node := some node, span := node.span }, stop)

/-- A token written as it is named. -/
def token (text : String) : Parser Piece :=
  lexeme text false fun s => if text.toList.isPrefixOf s then text.length else 0

/-- A token written as it is named, when what comes behind it is none of the given characters. -/
def tokenBut (text : String) (refused : String) : Parser Piece :=
  lexeme text false fun s =>
    if text.toList.isPrefixOf s &&
        !((s.drop text.length).head?.any fun c => refused.toList.contains c) then text.length
    else 0

/-- A word written as it is named. -/
def keyword (text : String) : Parser Piece :=
  lexeme text false fun s => if Lexeme.wordText s == text then text.length else 0

/-- One of the given words. -/
def oneWord (words : List String) : Parser Piece := do
  let w ← upcomingWord
  require (words.contains w)
  keyword w

/-- A word as a node of a kind, `refused` ones excepted. -/
def name (kind : String) (refused : List String) : Parser Piece :=
  lexeme kind true fun s => if refused.contains (Lexeme.wordText s) then 0 else Lexeme.word s

/-- Items with separators between them, and the separators. -/
def separated (item separator : Parser Piece) : Parser (List Piece) := do
  let first ← item
  let more ← many do
    let s ← separator
    let x ← item
    return [s, x]
  return first :: more.flatten

/-- Items with separators between them; one more separator may follow. -/
def separatedEnd (item separator : Parser Piece) : Parser (List Piece) := do
  let items ← separated item separator
  let last ← option separator
  return items ++ last.toList

/-- Optional items with separators between them. -/
def sparse (item separator : Parser Piece) : Parser (List Piece) := do
  let first ← option item
  let more ← many do
    let s ← separator
    let x ← option item
    return s :: x.toList
  return first.toList ++ more.flatten

end Parser

end TestScribe.Grammar
