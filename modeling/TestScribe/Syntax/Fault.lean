import TestScribe.Syntax.Source
import TestScribe.Text.Blank
import TestScribe.Text.Lines
import TestScribe.Text.Quoted

/-!
# The first syntax error of a tree

The first node that is an error or missing is searched in document order, only under nodes that are
marked as erroneous. It is described in a few words and with its place.
-/

namespace TestScribe.Syntax

/-- A description of a syntax error and its place, lines counted from one. -/
structure Fault where
  description : String
  line : Nat
  column : Nat
  deriving DecidableEq

namespace Fault

/-- The words for an error of which nothing is known. -/
def unknown : String := "Unexpected token"

/-- The error of a text of which no tree could be made: no token is named, and line zero stands for
no place at all. -/
def unlocated : Fault := { description := unknown, line := 0, column := 0 }

/-- The description followed by the place. -/
def message (f : Fault) : String :=
  f.description ++ " (" ++ toString f.line ++ ":" ++ toString f.column ++ ")"

/-- The number of characters of the offending text that a description shows. -/
def shownLength : Nat := 30

end Fault

namespace Node

/-- A node that is itself an error. -/
def isFault (n : Node) : Bool :=
  n.kind == "ERROR" || n.missing

mutual

/-- The first faulty node at or under a node. -/
def firstFault? : Node → Option Node
  | mk k n f m e s cs =>
    if (mk k n f m e s cs).isFault then some (mk k n f m e s cs)
    else if e then firstFaultIn? cs
    else none

/-- The first faulty node in a row of siblings. -/
def firstFaultIn? : List Node → Option Node
  | [] => none
  | c :: cs =>
    match firstFault? c with
    | some n => some n
    | none => firstFaultIn? cs

end

end Node

namespace Source

/-- What is wrong at a faulty node. -/
def describe (s : Source) (n : Node) : String :=
  if n.missing then "Missing " ++ Text.quoted n.kind
  else match Text.lines (Text.trim (s.text n).toList) with
    | [] => "Unexpected end of input"
    | first :: _ =>
      let shown :=
        if Fault.shownLength < first.length then first.take Fault.shownLength ++ "...".toList
        else first
      Fault.unknown ++ " " ++ Text.quoted (String.ofList shown)

/-- The first syntax error of a tree, if the root is marked as erroneous. -/
def fault? (s : Source) (root : Node) : Option Fault :=
  if root.hasError then
    let (node, description) := match root.firstFault? with
      | some n => (n, s.describe n)
      | none => (root, Fault.unknown)
    some {
      description, line := node.span.startPoint.row + 1, column := node.span.startPoint.column }
  else none

end Source

end TestScribe.Syntax
