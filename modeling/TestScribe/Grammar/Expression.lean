import TestScribe.Grammar.Literal

/-!
# Expressions

Operands with what stands in front of and behind them, the operators between operands, and choices.
Operands and operators are first read in a row; `climb` then builds the tree by precedence.
-/

namespace TestScribe.Grammar.Rules

open Syntax Grammar.Parser

variable (g : Rules)

/-! ## Primary expressions -/

/-- An expression in parentheses. -/
def parenthesized : Parser Piece := do
  let o ← token "("
  let e ← g.parse (.sequence .brackets)
  let t ← g.typedOption g.annotation
  let c ← token ")"
  return .assemble "parenthesized_expression" o ([e] ++ t.map (·.inField "type") ++ [c])

/-- A word that is a property of the language itself, with the name behind the point. -/
def metaProperty (word property : String) : Parser Piece := do
  let w ← keyword word
  let dot ← token "."
  let n ← keyword property
  return .assemble "meta_property" w [dot, n]

/-- The words that are expressions of their own kind. -/
def constantWords : List String := ["this", "super", "true", "false", "null", "undefined"]

/-- The words that begin an expression but are none. -/
def operatorWords : List String := ["typeof", "void", "delete", "await"]

/-- A new object of a class. -/
def newExpression (c : Context) : Parser Piece :=
  orElse (metaProperty "new" "target") fun _ => do
    let n ← keyword "new"
    let k ← g.parse (.callee c)
    let ts ← g.typedOption do
      let ts ← g.typeArguments
      return ts
    let args ← option g.arguments
    return .assemble "new_expression" n ([k.inField "constructor"] ++ ts ++ args.toList)

/-- An expression that begins with a word. -/
def wordExpression (c : Context) : Parser Piece := do
  let w ← upcomingWord
  if constantWords.contains w then lexeme w true Lexeme.word
  else match w with
    | "function" => g.functionExpression
    | "async" => orElse g.functionExpression fun _ => identifier g
    | "class" => g.classExpression
    | "new" => g.newExpression c
    | "import" =>
      orElse (metaProperty "import" "meta") fun _ => do
        let i ← lexeme "import" true Lexeme.word
        require (← follows "(")
        return i
    | _ => do
      require !(operatorWords.contains w)
      identifier g

/-- An expression that nothing in front of it and nothing behind it changes. -/
def primary (c : Context) : Parser Piece := do
  match ← upcoming with
  | [] => failure
  | d :: rest =>
    if d == '(' then g.parenthesized
    else if d == '[' then g.array
    else if d == '\x7b' then g.object
    else if d == '"' || d == '\'' then string
    else if d.toNat == 0x60 then g.template
    else if d == '/' then lexeme "regex" true Lexeme.regex
    else if d == '@' then g.classExpression
    else if d == '#' then
      let n ← privateName
      require ((← upcomingWord) == "in")
      return n
    else if Lexeme.isDigit d || (d == '.' && rest.head?.any Lexeme.isDigit) then number
    else g.wordExpression c

/-! ## What stands behind an expression -/

/-- A point and a name behind an object. -/
def memberStep (object : Piece) : Parser Piece := do
  let next ← upcoming
  require !((next.drop 1).head?.any fun d => d == '.' || Lexeme.isDigit d)
  let dot ← token "."
  let n ← orElse privateName fun _ => name "property_identifier" []
  return .assemble "member_expression" (object.inField "object") [dot, n.inField "property"]

/-- An index behind an object. -/
def subscriptStep (object : Piece) (front : List Piece) : Parser Piece := do
  let o ← token "["
  let i ← g.parse (.sequence .brackets)
  let c ← token "]"
  return .assemble "subscript_expression" (object.inField "object")
    (front ++ [o, i.inField "index", c])

/-- Arguments behind a function. -/
def callStep (function : Piece) (front : List Piece) : Parser Piece := do
  let args ← g.arguments
  return .assemble "call_expression" (function.inField "function") (front ++ [args])

/-- A template behind a function. -/
def tagStep (function : Piece) (front : List Piece) : Parser Piece := do
  let t ← g.template
  return .assemble "call_expression" (function.inField "function")
    (front ++ [t.inField "arguments"])

/-- A name, an index or arguments that are skipped if the object is not there. -/
def optionalStep (object : Piece) : Parser Piece := do
  let next ← upcoming
  require !((next.drop 2).head?.any Lexeme.isDigit)
  let q ← lexeme "optional_chain" true fun s => if "?.".toList.isPrefixOf s then 2 else 0
  match ← upcomingChar with
  | some '(' => g.callStep object [q]
  | some '[' => g.subscriptStep object [q]
  | some '<' =>
    let ts ← g.typeArguments
    g.callStep object [q, ts]
  | _ =>
    let n ← orElse privateName fun _ => name "property_identifier" []
    return .assemble "member_expression" (object.inField "object") [q, n.inField "property"]

/-- Type arguments behind a function, with the arguments of a call or alone. -/
def typeArgumentStep (function : Piece) : Parser Piece := do
  g.typedOnly
  let ts ← g.typeArguments
  match ← upcoming with
  | '(' :: _ => g.callStep function [ts]
  | c :: _ =>
    if c.toNat == 0x60 then g.tagStep function [ts]
    else
      require (")],;:.?|&=\x7d".toList.contains c || (← lineBreakFollows))
      return .assemble "instantiation_expression" function [ts]
  | [] => return .assemble "instantiation_expression" function [ts]

/-- One step of what stands behind an expression. -/
def trailStep (c : Context) (e : Piece) : Parser Piece := do
  if !c.bracketed then
    require !(← omitted .expression)
  match ← upcoming with
  | '.' :: _ => memberStep e
  | '[' :: _ => g.subscriptStep e []
  | '(' :: _ => g.callStep e []
  | '?' :: '.' :: _ => g.optionalStep e
  | '<' :: _ => g.typeArgumentStep e
  | '!' :: next => do
    g.typedOnly
    require (next.head? != some '=' && !(← lineBreakFollows))
    return .assemble "non_null_expression" e [← token "!"]
  | '+' :: '+' :: _ => do
    require !(← lineBreakFollows)
    return .assemble "update_expression" (e.inField "argument") [← token "++"]
  | '-' :: '-' :: _ => do
    require !(← lineBreakFollows)
    return .assemble "update_expression" (e.inField "argument") [← token "--"]
  | d :: _ => do
    require (d.toNat == 0x60)
    g.tagStep e []
  | [] => failure

/-- A function without the arguments of its call. -/
def calleeBody (c : Context) : Parser Piece := do
  let first ← g.primary c
  extend (fun e => orElse (memberStep e) fun _ => g.subscriptStep e []) first

/-! ## Operands -/

/-- The operators that combine an assignment with another operation. -/
def augmentedOperators : List String :=
  [">>>=", ">>=", "<<=", "**=", "&&=", "||=", "??=", "+=", "-=", "*=", "/=", "%=", "^=", "&=",
    "|="]

/-- The kinds that such an operator can have on its left. -/
def augmentedTargets : List String :=
  ["identifier", "member_expression", "subscript_expression", "parenthesized_expression",
    "non_null_expression"]

/-- An assignment to what has been read, or just that. -/
def assignment (c : Context) (e : Piece) : Parser Piece := do
  let s ← upcoming
  match s with
  | '=' :: next =>
    if next.head? == some '=' || next.head? == some '>' then return e
    else match e.node.bind toTarget? with
      | none => return e
      | some target =>
        let left : Piece := { e with node := some target }
        let eq ← token "="
        let right ← g.parse (.expression c)
        return .assemble "assignment_expression" (left.inField "left")
          [eq, right.inField "right"]
  | _ =>
    match augmentedOperators.find? fun o => o.toList.isPrefixOf s with
    | none => return e
    | some o =>
      if augmentedTargets.contains e.kind then
        let eq ← token o
        let right ← g.parse (.expression c)
        return .assemble "augmented_assignment_expression" (e.inField "left")
          [eq.inField "operator", right.inField "right"]
      else return e

/-- An expression with what stands behind it, or an assignment to it. -/
def trailed (c : Context) (first : Parser Piece) : Parser Piece := do
  let e ← extend (g.trailStep c) (← first)
  if !c.bracketed && (← omitted .expression) then return e
  else g.assignment c e

/-- An operator in front of an operand. -/
def unary (c : Context) (kind : String) (operator : Parser Piece) : Parser Piece := do
  let o ← operator
  let e ← g.parse (.operand c)
  return .assemble kind o [e.inField "argument"]

/-- A value that a generator hands out. -/
def yieldExpression (c : Context) : Parser Piece := do
  let y ← keyword "yield"
  if !c.bracketed && (← omitted .expression) then return .assemble "yield_expression" y []
  else
    let star ← option (token "*")
    let e ← option (g.parse (.expression c))
    require (star.isNone || e.isSome)
    return .assemble "yield_expression" y (star.toList ++ e.toList)

/-- An expression whose type is claimed in front of it. -/
def typeAssertion (c : Context) : Parser Piece := do
  let ts ← g.typeArguments
  let e ← g.parse (.operand c)
  return .assemble "type_assertion" ts [e]

/-- An expression that begins with an angle bracket. -/
def angled (c : Context) : Parser Piece := do
  let plain : Parser Piece :=
    if g.dialect.markup then g.trailed c (g.parse .element) else g.typeAssertion c
  if g.dialect.typed then orElse (g.arrowFunction c) fun _ => plain else plain

/-- An operand: an expression with what stands in front of it and behind it. -/
def operandBody (c : Context) : Parser Piece := do
  let plain := g.trailed c (g.primary c)
  match ← upcoming with
  | '<' :: _ => g.angled c
  | '(' :: _ => orElse (g.arrowFunction c) fun _ => plain
  | '!' :: _ => g.unary c "unary_expression" (token "!")
  | '~' :: _ => g.unary c "unary_expression" (token "~")
  | '+' :: '+' :: _ => g.unary c "update_expression" (token "++")
  | '-' :: '-' :: _ => g.unary c "update_expression" (token "--")
  | '+' :: _ => g.unary c "unary_expression" (token "+")
  | '-' :: _ => g.unary c "unary_expression" (token "-")
  | _ =>
    let w ← upcomingWord
    if w == "" then plain
    else if w == "yield" then g.yieldExpression c
    else if w == "await" then g.unary c "await_expression" (keyword w)
    else if operatorWords.contains w then g.unary c "unary_expression" (keyword w)
    else orElse (g.arrowFunction c) fun _ => plain

/-! ## Operators -/

/-- An operator between operands: its text, how strongly it binds, and whether it binds to the right
first. -/
structure Operator where
  text : String
  strength : Nat
  rightFirst : Bool

/-- The operators, those in front that another one is the beginning of. -/
def operators : List Operator := [
  ⟨">>>", 8, false⟩, ⟨"===", 6, false⟩, ⟨"!==", 6, false⟩, ⟨">>", 8, false⟩, ⟨"<<", 8, false⟩,
  ⟨"==", 6, false⟩, ⟨"!=", 6, false⟩, ⟨"<=", 7, false⟩, ⟨">=", 7, false⟩, ⟨"&&", 2, false⟩,
  ⟨"||", 1, false⟩, ⟨"??", 0, false⟩, ⟨"**", 11, true⟩, ⟨"+", 9, false⟩, ⟨"-", 9, false⟩,
  ⟨"*", 10, false⟩, ⟨"/", 10, false⟩, ⟨"%", 10, false⟩, ⟨"<", 7, false⟩, ⟨">", 7, false⟩,
  ⟨"&", 5, false⟩, ⟨"^", 4, false⟩, ⟨"|", 3, false⟩]

/-- The operators that are words. -/
def wordOperators : List Operator := [
  ⟨"in", 7, false⟩, ⟨"instanceof", 7, false⟩, ⟨"as", 7, false⟩, ⟨"satisfies", 7, false⟩]

/-- The operator that comes next. -/
def upcomingOperator (c : Context) : Parser Operator := do
  let s ← upcoming
  let w := Lexeme.wordText s
  if w == "" then
    match operators.find? fun o => o.text.toList.isPrefixOf s with
    | none => failure
    | some o =>
      require ((s.drop o.text.length).head? != some '=')
      return o
  else
    match wordOperators.find? fun o => o.text == w with
    | none => failure
    | some o =>
      require !(w == "in" && c.noIn)
      require (g.dialect.typed || (w != "as" && w != "satisfies"))
      return o

/-- An operator and its right operand. -/
def operation (c : Context) : Parser (Operator × Piece × Piece) := do
  if !c.bracketed then
    require !(← omitted .expression)
  let o ← g.upcomingOperator c
  let t ← token o.text
  let right ←
    if o.text == "as" || o.text == "satisfies" then g.parse .type
    else g.parse (.operand c)
  return (o, t, right)

/-- The node of an operation. -/
def Operator.node (o : Operator) (left sign right : Piece) : Piece :=
  if o.text == "as" then .assemble "as_expression" left [sign, right]
  else if o.text == "satisfies" then .assemble "satisfies_expression" left [sign, right]
  else .assemble "binary_expression" (left.inField "left")
    [sign.inField "operator", right.inField "right"]

/-- The tree of a row of operations. `left` has been read; operations that bind at least as strongly
as `least` are taken in, at most `n` of them. -/
def climb : Nat → Nat → Piece → List (Operator × Piece × Piece) →
    Piece × List (Operator × Piece × Piece)
  | 0, _, left, ops => (left, ops)
  | _ + 1, _, left, [] => (left, [])
  | n + 1, least, left, (o, sign, right) :: ops =>
    if o.strength < least then (left, (o, sign, right) :: ops)
    else
      let (operand, rest) := climb n (if o.rightFirst then o.strength else o.strength + 1) right ops
      climb n least (o.node left sign operand) rest

/-- The question mark of a choice. -/
def questionMark : Parser Piece :=
  lexeme "?" false fun s =>
    match s with
    | '?' :: rest =>
      match rest with
      | '?' :: _ => 0
      | '.' :: d :: _ => if Lexeme.isDigit d then 1 else 0
      | _ =>
        let next := (rest.dropWhile Lexeme.isGap).head?
        if next == some ':' || next == some ')' || next == some ',' then 0 else 1
    | _ => 0

/-- The first branch of a choice and the colon behind it. -/
def consequence : Parser (Piece × Piece) := do
  let branch (noResultType : Bool) : Parser (Piece × Piece) := do
    let yes ← g.parse (.expression { bracketed := true, noIn := false, noResultType })
    let colon ← token ":"
    return (yes, colon)
  let next ← upcoming
  if next.head? == some '(' || next.head? == some '<' || Lexeme.wordText next == "async" then
    orElse (branch false) fun _ => branch true
  else branch false

/-- An expression. -/
def expressionBody (c : Context) : Parser Piece := do
  let first ← g.parse (.operand c)
  let ops ← many (g.operation c)
  let (e, _) := climb (2 * ops.length + 1) 0 first ops
  if !c.bracketed && (← omitted .expression) then return e
  match ← option questionMark with
  | none => return e
  | some q =>
    let (yes, colon) ← g.consequence
    let no ← g.parse (.expression c)
    return .assemble "ternary_expression" (e.inField "condition")
      [q, yes.inField "consequence", colon, no.inField "alternative"]

/-- Expressions with commas between them. -/
def sequenceBody (c : Context) : Parser Piece := do
  match ← separated (g.parse (.expression c)) (token ",") with
  | [] => failure
  | [e] => return e
  | first :: more => return .assemble "sequence_expression" first more

end TestScribe.Grammar.Rules
