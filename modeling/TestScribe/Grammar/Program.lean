import TestScribe.Grammar.Statement

/-!
# Programs

Here the parsers of all goals are tied together. Every goal that is reached inside another one costs
one unit of depth; a text cannot nest deeper than a fixed multiple of its length.
-/

namespace TestScribe.Grammar

open Syntax Grammar.Parser

/-- The parser of a goal, given parsers for the goals inside it. -/
def goalBody (g : Rules) : Goal → Parser Piece
  | .statement => g.statementBody
  | .block => g.blockBody
  | .sequence c => g.sequenceBody c
  | .expression c => g.expressionBody c
  | .operand c => g.operandBody c
  | .callee c => g.calleeBody c
  | .pattern => g.patternBody
  | .type => g.typeBody
  | .typeOperand => g.typeOperand
  | .element => g.elementBody

/-- The parser of a goal, `depth` goals deep at most. -/
def goal (d : Dialect) : Nat → Goal → Parser Piece
  | 0, _ => failure
  | depth + 1, x => goalBody { dialect := d, parse := goal d depth } x

/-- The first line of a script that names its interpreter. -/
def interpreterLine : Parser Piece :=
  lexeme "hash_bang_line" true fun s =>
    if "#!".toList.isPrefixOf s then (s.takeWhile fun c => c != '\n').length else 0

mutual

/-- Whether no default of a property stands in an object that is no pattern. -/
def settled : Node → Bool
  | .mk kind _ _ _ _ _ cs =>
    (kind != "object" || !(cs.any fun c => c.kind == "object_assignment_pattern")) && settledAll cs

/-- Whether this holds of all nodes of a row. -/
def settledAll : List Node → Bool
  | [] => true
  | c :: cs => settled c && settledAll cs

end

/-- A whole text. -/
def program (d : Dialect) (depth : Nat) : Parser Node := do
  let first ← option interpreterLine
  let ss ← many (goal d depth .statement)
  let k ← get
  let (last, stop) := k.comments
  require stop.rest.isEmpty
  let children := (first.toList ++ ss).flatMap Piece.nodes ++ last
  let start := (children.head?.map fun n => n.span).getD (stop.spanTo stop)
  let span : Span := { start with stop := stop.offset, endPoint := stop.point }
  return .mk "program" true none false false span children

/-- The tree of a text, if the text belongs to the language. -/
def parse? (d : Dialect) (text : String) : Option Node := do
  let k := Cursor.ofText text.toList
  let (root, _) ← (program d (8 * (k.left + 2))).run k
  if settled root then some root else none

end TestScribe.Grammar
