import TestScribe.Grammar.Types

/-!
# Patterns

What a value can be bound to: names, and arrays and objects of patterns. A pattern in front of an
assignment is first read as the literal that it looks like; `Node.toPattern?` turns the literal into
the pattern.
-/

namespace TestScribe.Grammar

open Syntax Grammar.Parser

/-! ## From literals to patterns -/

mutual

/-- The pattern that an expression in front of an assignment stands for. -/
def toPattern? : Node → Option Node
  | .mk kind n f m e s cs =>
    if kind == "array" then (toPatterns? cs).map (.mk "array_pattern" n f m e s ·)
    else if kind == "object" then (toPatterns? cs).map (.mk "object_pattern" n f m e s ·)
    else if kind == "spread_element" then (toPatterns? cs).map (.mk "rest_pattern" n f m e s ·)
    else if kind == "pair" then (toValuePattern? cs).map (.mk "pair_pattern" n f m e s ·)
    else if kind == "shorthand_property_identifier" then
      some (.mk "shorthand_property_identifier_pattern" n f m e s cs)
    else if kind == "assignment_expression" then some (.mk "assignment_pattern" n f m e s cs)
    else if !n || ["identifier", "member_expression", "subscript_expression", "comment",
        "non_null_expression", "array_pattern", "object_pattern", "object_assignment_pattern",
        "undefined"].contains kind then
      some (.mk kind n f m e s cs)
    else none

/-- The patterns of a row of nodes. -/
def toPatterns? : List Node → Option (List Node)
  | [] => some []
  | c :: cs => do
    let p ← toPattern? c
    let ps ← toPatterns? cs
    return p :: ps

/-- A row of nodes with a pattern for the node in the field `value`. -/
def toValuePattern? : List Node → Option (List Node)
  | [] => some []
  | c :: cs => do
    let p ← if c.field == some "value" then toPattern? c else some c
    let ps ← toValuePattern? cs
    return p :: ps

end

/-- What can stand on the left of an assignment. -/
def toTarget? (n : Node) : Option Node :=
  if n.kind == "parenthesized_expression" then some n
  else if ["assignment_expression", "object_assignment_pattern", "spread_element", "pair",
      "comment", "shorthand_property_identifier"].contains n.kind then none
  else if !n.isNamed then none
  else toPattern? n

namespace Rules

variable (g : Rules)

/-! ## Bindings -/

/-- An equals sign and a value. -/
def initializer (c : Context) : Parser (List Piece) := do
  let e ← tokenBut "=" "=>"
  let v ← g.parse (.expression c)
  return [e, v.inField "value"]

/-- A pattern with an optional default. -/
def patternWithDefault : Parser Piece := do
  let p ← g.parse .pattern
  match ← option (tokenBut "=" "=>") with
  | none => return p
  | some e =>
    let v ← g.inner
    return .assemble "assignment_pattern" (p.inField "left") [e, v.inField "right"]

/-- Three points and a pattern for all the rest. -/
def restPattern : Parser Piece := do
  let dots ← token "..."
  let p ← g.parse .pattern
  return .assemble "rest_pattern" dots [p]

/-- An element of an array pattern. -/
def arrayPatternItem : Parser Piece :=
  orElse g.restPattern fun _ => g.patternWithDefault

/-- A property of an object pattern. -/
def objectPatternItem : Parser Piece :=
  orElse g.restPattern fun _ => orElse (do
      let k ← g.propertyName
      let colon ← token ":"
      let v ← g.patternWithDefault
      return .assemble "pair_pattern" (k.inField "key") [colon, v.inField "value"])
    fun _ => do
      let n ← name "shorthand_property_identifier_pattern" []
      match ← option (tokenBut "=" "=>") with
      | none => return n
      | some e =>
        let v ← g.inner
        return .assemble "object_assignment_pattern" (n.inField "left") [e, v.inField "right"]

/-- A pattern that takes a value apart. -/
def destructuring : Parser Piece := do
  match ← upcomingChar with
  | some '[' =>
    let o ← token "["
    let items ← sparse g.arrayPatternItem (token ",")
    let c ← token "]"
    return .assemble "array_pattern" o (items ++ [c])
  | some '\x7b' =>
    let o ← token "\x7b"
    let items ← sparse g.objectPatternItem (token ",")
    let c ← token "\x7d"
    return .assemble "object_pattern" o (items ++ [c])
  | _ => failure

/-- What a variable or a parameter can be bound to. -/
def patternBody : Parser Piece :=
  orElse g.destructuring fun _ => do
    if g.dialect.typed && (← upcomingWord) == "this" then lexeme "this" true Lexeme.word
    else identifier g

/-! ## Parameters -/

/-- Words that make a parameter a property of the class. -/
def parameterWords : List String := ["public", "private", "protected", "override", "readonly"]

/-- A word in front of a parameter. -/
def parameterWord : Parser Piece := do
  let w ← oneWord parameterWords
  let next ← upcoming
  require (Lexeme.word next != 0 || next.head? == some '\x7b' || next.head? == some '[')
  return w

/-- A decorator in front of a class, a member or a parameter. -/
def decorator : Parser Piece := do
  let a ← token "@"
  let e ← orElse (do
      let o ← token "("
      let e ← g.inner
      let c ← token ")"
      return Piece.assemble "parenthesized_expression" o [e, c])
    fun _ => g.parse (.callee .brackets)
  let call ← option do
    require !(← lineBreakFollows)
    let o ← token "("
    let items ← sparse (orElse (do
        let dots ← token "..."
        return .assemble "spread_element" dots [← g.inner]) fun _ => g.inner) (token ",")
    let c ← token ")"
    return Piece.inField "arguments" (.assemble "arguments" o (items ++ [c]))
  let what := match call with
    | some args => .assemble "call_expression" (e.inField "function") [args]
    | none => e
  return Piece.inField "decorator" (.assemble "decorator" a [what])

/-- A parameter. -/
def parameter : Parser Piece := do
  if g.dialect.typed then
    let ds ← many g.decorator
    let ws ← many parameterWord
    let p ← orElse g.restPattern fun _ => g.parse .pattern
    let mark ← option (token "?")
    let t ← option g.annotation
    let value ← option (g.initializer .brackets)
    let kind := if mark.isSome then "optional_parameter" else "required_parameter"
    Piece.assemble? kind (ds ++ ws ++ [p.inField "pattern"] ++ mark.toList ++
      (t.map (·.inField "type")).toList ++ value.toList.flatten)
  else orElse g.restPattern fun _ => g.patternWithDefault

/-- Parameters in parentheses. -/
def parameters : Parser Piece := do
  let o ← token "("
  let ps ← option (separatedEnd g.parameter (token ","))
  let c ← token ")"
  return Piece.inField "parameters" (.assemble "formal_parameters" o (ps.toList.flatten ++ [c]))

/-- The head of a function behind its name: type parameters, parameters and result. -/
def signature : Parser (List Piece) := do
  let tps ← g.typedOption g.typeParameters
  let ps ← g.parameters
  let r ← g.typedOption g.resultAnnotation
  return tps ++ [ps] ++ r.map (·.inField "return_type")

end Rules

end TestScribe.Grammar
