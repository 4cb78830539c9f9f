import TestScribe.Syntax.Source
import TestScribe.Text.Blank
import TestScribe.Text.Lines

/-!
# Comments that describe a member

The comments above a member describe it, except those that begin on the line on which the member
before it ends.
-/

namespace TestScribe.Component

open Syntax

/-- The first `n` characters cut off, if they are `part`. -/
def withoutStart (part s : List Char) : List Char :=
  if part.isPrefixOf s then s.drop part.length else s

/-- The last characters cut off, if they are `part`. -/
def withoutEnd (part s : List Char) : List Char :=
  if part.isSuffixOf s then s.take (s.length - part.length) else s

/-- The text of a comment without its marks: the rest of a line comment, or the lines of a block
comment without leading stars, empty ones left out. -/
def commentText (raw : String) : String :=
  let s := raw.toList
  if "//".toList.isPrefixOf s then String.ofList (Text.trim (s.drop 2))
  else
    let body := withoutEnd "*/".toList (withoutStart "/*".toList s)
    let lines := (Text.lines body).map fun l =>
      String.ofList (Text.trim ((Text.trim l).dropWhile (· == '*')))
    "\n".intercalate (lines.filter (· != ""))

/-- A mark between two members. -/
def isSeparator (n : Node) : Bool :=
  n.kind == ";" || n.kind == ","

/-- Whether a comment belongs to what stands before it (`before`, nearest first): it begins on the
line on which a member ends. -/
def trails (comment : Node) (before : List Node) : Bool :=
  match before.dropWhile isSeparator with
  | [] => false
  | n :: _ =>
    !n.isComment && n.kind != "\x7b" && n.span.endPoint.row == comment.span.startPoint.row

/-- The comments directly above a member, nearest first, from what stands before it. -/
def commentsAbove : List Node → List Node
  | [] => []
  | n :: before =>
    if n.isComment then
      if trails n before then [] else n :: commentsAbove before
    else if isSeparator n then commentsAbove before
    else []

/-- The description of a member, from what stands before it. -/
def description? (s : Source) (before : List Node) : Option String :=
  let texts := (commentsAbove before).reverse.map fun n => commentText (s.text n)
  match texts.filter (· != "") with
  | [] => none
  | ts => some ("\n".intercalate ts)

end TestScribe.Component
