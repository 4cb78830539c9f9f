import TestScribe.Grammar.Pattern

/-!
# Markup

Elements with their attributes and children. Text between tags stands for itself up to the next tag,
brace or entity, and comments are text there. The name of a closing tag need not be that of the
opening one.
-/

namespace TestScribe.Grammar

open Syntax Grammar.Parser

/-- The length of a name with a hyphen in it. -/
def hyphenName (s : List Char) : Nat :=
  match s with
  | c :: rest =>
    if c.isAlpha || c == '_' || c == '$' then
      let n := 1 + (rest.takeWhile fun d => d.isAlphanum || d == '_' || d == '$' || d == '-').length
      if (s.take n).contains '-' then n else 0
    else 0
  | [] => 0

/-- A name in markup, hyphens allowed. -/
def markupName (kind : String) : Parser Piece :=
  lexeme kind true fun s =>
    match hyphenName s with
    | 0 => Lexeme.word s
    | n => n

/-- A name with a namespace in front. -/
def namespacedName : Parser Piece := do
  let n ← markupName "identifier"
  let colon ← token ":"
  let m ← markupName "identifier"
  return .assemble "jsx_namespace_name" n [colon, m]

/-- The name of an element. -/
def elementName : Parser Piece :=
  orElse namespacedName fun _ => do
    let first ← markupName "identifier"
    extend (fun object => do
      let dot ← token "."
      let n ← name "property_identifier" []
      return .assemble "member_expression" (object.inField "object") [dot, n.inField "property"])
      first

namespace Rules

variable (g : Rules)

/-- An expression in braces, which may be empty. -/
def embedded : Parser Piece := do
  let o ← token "\x7b"
  let e ← option (orElse (do
      let dots ← token "..."
      return Piece.assemble "spread_element" dots [← g.inner])
    fun _ => g.parse (.sequence .brackets))
  let c ← token "\x7d"
  return .assemble "jsx_expression" o (e.toList ++ [c])

/-- The value of an attribute. -/
def attributeValue : Parser Piece := do
  match ← upcomingChar with
  | some '\x7b' => g.embedded
  | some '<' => g.parse .element
  | _ => lexeme "string" true Lexeme.attributeString

/-- An attribute. -/
def tagAttribute : Parser Piece := do
  let n ← orElse namespacedName fun _ => markupName "property_identifier"
  match ← option (token "=") with
  | none => return .assemble "jsx_attribute" n []
  | some e => return .assemble "jsx_attribute" n [e, ← g.attributeValue]

/-- The name and the attributes of a tag. -/
def tagParts : Parser (List Piece) := do
  let n ← elementName
  let ts ← g.typedOption g.typeArguments
  let attributes ← many (orElse g.embedded fun _ => g.tagAttribute)
  return [n.inField "name"] ++ ts ++ attributes.map (·.inField "attribute")

/-- Text between tags; a stretch of blanks that holds a line break leaves no node. -/
def textChild : Parser (List Piece) := fun k =>
  match Lexeme.markupText k.rest with
  | 0 => none
  | n =>
    let stop := k.skip n
    let shown := (k.rest.take n).any (fun c => !Lexeme.isGap c) ||
      !(k.rest.take n).contains '\n'
    let node := Cursor.leaf "jsx_text" true k stop
    some (if shown then [{ lead := [], node := some node, span := node.span }] else [], stop)

/-- An entity between tags. -/
def entityChild : Parser Piece :=
  lexeme "html_character_reference" true Lexeme.entity

/-- What stands between two tags. -/
def child : Parser (List Piece) := fun k =>
  match k.rest with
  | '\x7b' :: _ => (g.embedded.map fun p => [p]) k
  | '&' :: _ => (entityChild.map fun p => [p]) k
  | '<' :: _ => ((g.parse .element).map fun p => [p]) k
  | _ => textChild k

/-- An element with its closing tag, or one that closes itself. -/
def elementBody : Parser Piece := do
  let o ← token "<"
  let parts ← option g.tagParts
  match ← option (token "/>") with
  | some c =>
    require parts.isSome
    return .assemble "jsx_self_closing_element" o (parts.toList.flatten ++ [c])
  | none =>
    let c ← token ">"
    let opening := Piece.assemble "jsx_opening_element" o (parts.toList.flatten ++ [c])
    let children ← many g.child
    let end₁ ← token "</"
    let n ← option elementName
    let end₂ ← token ">"
    let closing := Piece.assemble "jsx_closing_element" end₁
      ((n.map (·.inField "name")).toList ++ [end₂])
    return .assemble "jsx_element" (opening.inField "open_tag")
      (children.flatten ++ [closing.inField "close_tag"])

end Rules

end TestScribe.Grammar
