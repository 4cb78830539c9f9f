import TestScribe.Grammar.Markup

/-!
# Literals, functions and classes

The expressions that are written between brackets, and functions and classes in all their forms.
-/

namespace TestScribe.Grammar.Rules

open Syntax Grammar.Parser

variable (g : Rules)

/-! ## Blocks and functions -/

/-- A block of statements, with the semicolon that may be left out behind it. -/
def blockBody : Parser Piece := do
  let o ← token "\x7b"
  let ss ← many (g.parse .statement)
  let c ← token "\x7d"
  let last ← closing .type
  return .assemble "statement_block" o (ss ++ [c] ++ last)

/-- The block of a function. -/
def functionBody : Parser Piece := do
  return Piece.inField "body" (← g.parse .block)

/-- The words in front of the name of a function, and the star of a generator. -/
def functionHead : Parser (List Piece × Bool) := do
  let async ← option do
    let a ← keyword "async"
    require !(← lineBreakFollows)
    return a
  let f ← keyword "function"
  let star ← option (token "*")
  return (async.toList ++ [f] ++ star.toList, star.isSome)

/-- A function as an expression. -/
def functionExpression : Parser Piece := do
  let (front, generator) ← functionHead
  let n ← option (identifier g)
  let s ← g.signature
  let b ← g.functionBody
  Piece.assemble? (if generator then "generator_function" else "function_expression")
    (front ++ (n.map (·.inField "name")).toList ++ s ++ [b])

/-- What an arrow function gives: a block or an expression. -/
def arrowBody (c : Context) : Parser Piece := do
  if ← follows "\x7b" then g.functionBody
  else return Piece.inField "body" (← g.parse (.expression c))

/-- An arrow function. -/
def arrowFunction (c : Context) : Parser Piece := do
  let async ← option do
    let a ← keyword "async"
    require !(← lineBreakFollows)
    let next ← upcoming
    require (next.head? == some '(' || next.head? == some '<' || Lexeme.word next != 0)
    require ((← upcomingWord) != "function")
    return a
  let front ← orElse (do
      let n ← identifier g
      return [n.inField "parameter"])
    fun _ => do
      let tps ← g.typedOption g.typeParameters
      let ps ← g.parameters
      let r ← if c.noResultType then pure [] else g.typedOption g.resultAnnotation
      return tps ++ [ps] ++ r.map (·.inField "return_type")
  let arrow ← token "=>"
  let body ← g.arrowBody c
  Piece.assemble? "arrow_function" (async.toList ++ front ++ [arrow, body])

/-! ## Arrays, arguments and templates -/

/-- Three points and a value of which all items are taken. -/
def spread : Parser Piece := do
  let dots ← token "..."
  let e ← g.inner
  return .assemble "spread_element" dots [e]

/-- An item of an array or an argument. -/
def item : Parser Piece :=
  orElse g.spread fun _ => g.inner

/-- An array. -/
def array : Parser Piece := do
  let o ← token "["
  let items ← sparse g.item (token ",")
  let c ← token "]"
  return .assemble "array" o (items ++ [c])

/-- Arguments in parentheses. -/
def arguments : Parser Piece := do
  let o ← token "("
  let items ← sparse g.item (token ",")
  let c ← token ")"
  return Piece.inField "arguments" (.assemble "arguments" o (items ++ [c]))

/-- A template string. -/
def template : Parser Piece :=
  templateOf "template_string" "template_substitution" (g.parse (.sequence .brackets))

/-! ## Objects -/

/-- The words that qualify a method. -/
def methodWords : List String :=
  ["async", "get", "set", "static", "public", "private", "protected", "override", "readonly"]

/-- The parts of a method behind its qualifiers. -/
def methodParts (n : Piece) : Parser (List Piece) := do
  let mark ← g.typedOption (token "?")
  let s ← g.signature
  let b ← g.functionBody
  return [n.inField "name"] ++ mark ++ s ++ [b]

/-- A property of an object. -/
def property : Parser Piece := do
  if ← follows "..." then g.spread
  else
    let ws ← modifiers methodWords
    let star ← option (token "*")
    let n ← g.propertyName
    let front := ws ++ star.toList
    match ← upcoming with
    | ':' :: _ =>
      require front.isEmpty
      let colon ← token ":"
      let v ← g.inner
      return .assemble "pair" (n.inField "key") [colon, v.inField "value"]
    | c :: _ =>
      if c == '(' || c == '<' || c == '?' then
        let parts ← g.methodParts n
        Piece.assemble? "method_definition" (front ++ parts)
      else
        require (front.isEmpty && n.kind == "property_identifier")
        match ← option (tokenBut "=" "=>") with
        | some e =>
          let v ← g.inner
          let left := n.withKind "shorthand_property_identifier_pattern"
          return .assemble "object_assignment_pattern" (left.inField "left")
            [e, v.inField "right"]
        | none => return n.withKind "shorthand_property_identifier"
    | [] => failure

/-- An object. -/
def object : Parser Piece := do
  let o ← token "\x7b"
  let items ← sparse g.property (token ",")
  let c ← token "\x7d"
  return .assemble "object" o (items ++ [c])

/-! ## Classes -/

/-- The words that qualify a member of a class. -/
def classWords : List String :=
  ["declare", "public", "private", "protected", "static", "override", "abstract", "readonly",
    "accessor", "async", "get", "set"]

/-- A block that is run when the class is made. -/
def staticBlock : Parser Piece := do
  let s ← keyword "static"
  let b ← g.functionBody
  return .assemble "class_static_block" s [b]

/-- What ends a member that has no block of its own. -/
def classMemberEnd (o : Omission) : Parser (List Piece) :=
  orElse (do
      g.typedOnly
      return [← token ","])
    fun _ => semicolon o

/-- A method without a body or a field, with the semicolon behind it. -/
def memberWithEnd (kind : String) (parts : List Piece) (o : Omission) : Parser (List Piece) := do
  let m ← Piece.assemble? kind parts
  return m :: (← g.classMemberEnd o)

/-- A member of a class. -/
def classMember : Parser (List Piece) := do
  match ← option (token ";") with
  | some s => return [s]
  | none =>
    if ← follows "@" then return [← g.decorator]
    orElse (do return [← g.staticBlock]) fun _ => orElse (do
        g.typedOnly
        let statics ← option do
          let w ← keyword "static"
          require (← isAhead g.indexSignature)
          return w
        let i ← g.indexSignature
        return statics.toList ++ [i] ++ (← g.classMemberEnd .type))
      fun _ => do
        let ws ← modifiers classWords
        let star ← option (token "*")
        let n ← g.propertyName
        let mark ← g.typedOption (orElse (token "?") fun _ => tokenBut "!" "=")
        let front := ws ++ star.toList ++ [n.inField "name"] ++ mark
        if (← follows "(") || (← follows "<") then
          let s ← g.signature
          if ← follows "\x7b" then
            let b ← g.functionBody
            let m ← Piece.assemble? "method_definition" (front ++ s ++ [b])
            let sep ← option (token ";")
            return m :: sep.toList
          else
            g.typedOnly
            let kind := if ws.any (·.kind == "abstract") then "abstract_method_signature"
              else "method_signature"
            g.memberWithEnd kind (front ++ s) .signature
        else
          let t ← g.typedOption g.annotation
          let value ← option (g.initializer .statement)
          let kind := if g.dialect.typed then "public_field_definition" else "field_definition"
          g.memberWithEnd kind
            (front ++ t.map (·.inField "type") ++ value.toList.flatten)
            (if value.isSome then .expression else .type)

/-- The members of a class between braces. -/
def classBody : Parser Piece := do
  let o ← token "\x7b"
  let ms ← many g.classMember
  let c ← token "\x7d"
  return Piece.inField "body" (.assemble "class_body" o (ms.flatten ++ [c]))

/-- A class that another class extends, with its type arguments. -/
def superclass : Parser (List Piece) := do
  let e ← g.parse (.callee .brackets)
  let e ← extend (fun f => do
    let ts ← g.typedOption g.typeArguments
    let args ← g.arguments
    return .assemble "call_expression" (f.inField "function") (ts ++ [args])) e
  let ts ← g.typedOption g.typeArguments
  return [e.inField "value"] ++ ts

/-- What a class extends and implements. -/
def heritage : Parser Piece := do
  let clause ← option do
    let e ← keyword "extends"
    let first ← g.superclass
    if g.dialect.typed then
      let more ← many do
        let comma ← token ","
        let s ← g.superclass
        return comma :: s
      return Piece.assemble "extends_clause" e (first ++ more.flatten)
    else return Piece.assemble "class_heritage" e first
  if g.dialect.typed then
    let implements ← option do
      let i ← keyword "implements"
      let ts ← separated (g.parse .type) (token ",")
      return Piece.assemble "implements_clause" i ts
    Piece.assemble? "class_heritage" (clause.toList ++ implements.toList)
  else match clause with
    | some c => return c
    | none => failure

/-- The parts of a class behind the word `class`. -/
def classParts (n : Option Piece) : Parser (List Piece) := do
  let tps ← g.typedOption g.typeParameters
  let h ← option g.heritage
  let b ← g.classBody
  return (n.map (·.inField "name")).toList ++ tps ++ h.toList ++ [b]

/-- The name of a class. -/
def className : Parser Piece :=
  name (if g.dialect.typed then "type_identifier" else "identifier") ["extends", "implements"]

/-- A class as an expression. -/
def classExpression : Parser Piece := do
  let ds ← many g.decorator
  let c ← keyword "class"
  let n ← option g.className
  let parts ← g.classParts n
  Piece.assemble? "class" (ds ++ [c] ++ parts)

end TestScribe.Grammar.Rules
