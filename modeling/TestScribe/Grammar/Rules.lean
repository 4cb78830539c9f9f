import TestScribe.Grammar.Semicolon

/-!
# Dialects, goals and rules

The grammar refers to itself at a few places. Each such place is a `Goal`; `Rules` carries the
parser of every goal, so that the parts of the grammar can be written one after another and tied
together at the end.
-/

namespace TestScribe.Grammar

/-- The three dialects of the language: with markup, with types, and with both. -/
inductive Dialect
  | javascript
  | typescript
  | tsx
  deriving DecidableEq

namespace Dialect

/-- Whether the dialect has types. -/
def typed (d : Dialect) : Bool :=
  d != .javascript

/-- Whether the dialect has markup. -/
def markup (d : Dialect) : Bool :=
  d != .typescript

/-- The name of a dialect. -/
def name : Dialect → String
  | .javascript => "javascript"
  | .typescript => "typescript"
  | .tsx => "tsx"

/-- All dialects, in the order of their names. -/
def all : List Dialect := [.javascript, .tsx, .typescript]

/-- The dialect of a name. -/
def ofName? (name : String) : Option Dialect :=
  all.find? fun d => d.name == name

end Dialect

/-- Where an expression stands. Inside brackets no semicolon can be left out; in the head of a loop
`in` is no operator; between the marks of a choice a colon may end the expression, so that an arrow
function there may have to do without a result type. -/
structure Context where
  bracketed : Bool
  noIn : Bool
  noResultType : Bool

namespace Context

/-- The context of a statement. -/
def statement : Context := { bracketed := false, noIn := false, noResultType := false }

/-- The context between brackets. -/
def brackets : Context := { bracketed := true, noIn := false, noResultType := false }

end Context

/-- A place at which the grammar refers to itself. -/
inductive Goal
  | statement
  | block
  | sequence (c : Context)
  | expression (c : Context)
  | operand (c : Context)
  | callee (c : Context)
  | pattern
  | type
  | typeOperand
  | element

/-- A dialect and the parsers of all goals. -/
structure Rules where
  dialect : Dialect
  parse : Goal → Parser Piece

namespace Rules

variable (g : Rules)

/-- An expression between brackets. -/
def inner : Parser Piece :=
  g.parse (.expression .brackets)

/-- Fail unless the dialect has types. -/
def typedOnly : Parser Unit :=
  Parser.require g.dialect.typed

/-- An optional part that only a dialect with types has. -/
def typedOption (p : Parser Piece) : Parser (List Piece) := do
  if g.dialect.typed then
    return (← Parser.option p).toList
  else return []

end Rules

/-! ## Names -/

namespace Parser

/-- A string between quotes. -/
def string : Parser Piece :=
  lexeme "string" true Lexeme.string

/-- A number. -/
def number : Parser Piece :=
  lexeme "number" true Lexeme.number

/-- A name that belongs to its class alone. -/
def privateName : Parser Piece :=
  lexeme "private_property_identifier" true fun s =>
    match s with
    | '#' :: rest =>
      match Lexeme.word rest with
      | 0 => 0
      | n => n + 1
    | _ => 0

/-- The words that no name can be where a dialect keeps them apart. -/
def reservedWords : List String := [
  "break", "case", "catch", "class", "const", "continue", "debugger", "default", "delete", "do",
  "else", "enum", "export", "extends", "false", "finally", "for", "function", "if", "import", "in",
  "instanceof", "new", "null", "return", "super", "switch", "this", "throw", "true", "try",
  "typeof", "var", "void", "while", "with"]

/-- A name that is bound or used as a variable. -/
def identifier (g : Rules) : Parser Piece :=
  name "identifier" (if g.dialect.typed then [] else reservedWords)

/-- Whether the name of a property comes next. -/
def propertyNameFollows : Parser Bool := do
  match ← upcoming with
  | [] => return false
  | c :: rest =>
    return c == '[' || c == '#' || c == '"' || c == '\'' || Lexeme.isDigit c ||
      Lexeme.word (c :: rest) != 0

/-- Words that qualify a member, each of them only where a name comes behind it. -/
def modifiers (words : List String) : Parser (List Piece) :=
  many do
    let w ← oneWord words
    let star ← follows "*"
    let named ← propertyNameFollows
    require (named || star)
    return w

end Parser

namespace Rules

variable (g : Rules)

open Grammar.Parser

/-- An expression in brackets that gives the name of a property. -/
def computedName : Parser Piece := do
  let o ← token "["
  let e ← g.inner
  let c ← token "]"
  return .assemble "computed_property_name" o [e, c]

/-- The name of a property. -/
def propertyName : Parser Piece := do
  match ← upcomingChar with
  | some '[' => g.computedName
  | some '#' => privateName
  | some '"' | some '\'' => string
  | _ => orElse (name "property_identifier" []) fun _ => number

end Rules

end TestScribe.Grammar
