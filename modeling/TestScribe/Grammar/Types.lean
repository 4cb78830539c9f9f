import TestScribe.Grammar.Rules

/-!
# Types

Types, type annotations, type parameters and the members of object types.
-/

namespace TestScribe.Grammar.Rules

open Grammar.Parser

variable (g : Rules)

/-! ## Annotations -/

/-- The pieces of a statement about a value's type: `x is T`. -/
def predicate : Parser Piece := do
  let n ← name "identifier" []
  require !(← lineBreakFollows)
  let is ← keyword "is"
  let t ← g.parse .type
  return .assemble "type_predicate" (n.inField "name") [is, t.inField "type"]

/-- The pieces of an assertion: `asserts x is T` or `asserts x`. -/
def assertion : Parser Piece := do
  let a ← keyword "asserts"
  require !(← lineBreakFollows)
  let what ← orElse g.predicate fun _ => name "identifier" ["is"]
  return .assemble "asserts" a [what]

/-- A colon and a type. -/
def annotation : Parser Piece := do
  let colon ← token ":"
  let t ← g.parse .type
  return .assemble "type_annotation" colon [t]

/-- A result: an assertion, a predicate or a type. -/
def result : Parser Piece :=
  orElse g.assertion fun _ => orElse g.predicate fun _ => g.parse .type

/-- The annotation of a result. -/
def resultAnnotation : Parser Piece := do
  let colon ← token ":"
  let t ← g.result
  let kind := match t.kind with
    | "asserts" => "asserts_annotation"
    | "type_predicate" => "type_predicate_annotation"
    | _ => "type_annotation"
  return .assemble kind colon [t]

/-! ## Parameters and arguments -/

/-- A type parameter with its bound and its default. -/
def typeParameter : Parser Piece := do
  let const ← option do
    let w ← keyword "const"
    require ((← upcomingWord) != "")
    return w
  let n ← name "type_identifier" []
  let bound ← option do
    let e ← keyword "extends"
    let t ← g.parse .type
    return Piece.inField "constraint" (.assemble "constraint" e [t])
  let default ← option do
    let e ← token "="
    let t ← g.parse .type
    return Piece.inField "value" (.assemble "default_type" e [t])
  Piece.assemble? "type_parameter"
    (const.toList ++ [n.inField "name"] ++ bound.toList ++ default.toList)

/-- Type parameters between angle brackets. -/
def typeParameters : Parser Piece := do
  let o ← token "<"
  let ps ← separatedEnd g.typeParameter (token ",")
  let c ← token ">"
  return Piece.inField "type_parameters" (.assemble "type_parameters" o (ps ++ [c]))

/-- Type arguments between angle brackets. -/
def typeArguments : Parser Piece := do
  let o ← token "<"
  let ts ← separatedEnd (g.parse .type) (token ",")
  let c ← token ">"
  return Piece.inField "type_arguments" (.assemble "type_arguments" o (ts ++ [c]))

/-! ## References -/

/-- A dotted name, the nodes before the last point being of kind `nested_identifier`. -/
def dotted (kind : String) (first : Piece) : Parser Piece :=
  extend (fun module => do
    let dot ← tokenBut "." "."
    let n ← name "property_identifier" []
    let object := if module.kind == kind then module.withKind "nested_identifier" else module
    return .assemble kind (object.inField "object") [dot, n.inField "property"]) first

/-- A type that is referred to by a name. -/
def typeName : Parser Piece := do
  let first ← name "type_identifier" []
  let full ← extend (fun module => do
    let dot ← tokenBut "." "."
    let n ← name "type_identifier" []
    let object := if module.kind == "type_identifier" then module.withKind "identifier"
      else module.withKind "nested_identifier"
    return .assemble "nested_type_identifier" (object.inField "module") [dot, n.inField "name"])
    first
  return full

/-- A type that is referred to by a name, with its arguments. -/
def typeReference : Parser Piece := do
  let n ← typeName
  match ← option g.typeArguments with
  | some ts => return .assemble "generic_type" (n.inField "name") [ts]
  | none => return n

/-! ## Functions -/

/-- A parameter list of a function type. -/
def typeFunctionParameter : Parser Piece := do
  let p ← orElse (do
      let dots ← token "..."
      let p ← g.parse .pattern
      return .assemble "rest_pattern" dots [p])
    fun _ => g.parse .pattern
  let mark ← option (token "?")
  let t ← option g.annotation
  let value ← option do
    let e ← tokenBut "=" "=>"
    let v ← g.inner
    return [e, v.inField "value"]
  let kind := if mark.isSome then "optional_parameter" else "required_parameter"
  return .assemble kind (p.inField "pattern")
    (mark.toList ++ (t.map (·.inField "type")).toList ++ value.toList.flatten)

/-- The parameters of a function type in parentheses. -/
def typeFunctionParameters : Parser Piece := do
  let o ← token "("
  let ps ← option (separatedEnd g.typeFunctionParameter (token ","))
  let c ← token ")"
  return Piece.inField "parameters" (.assemble "formal_parameters" o (ps.toList.flatten ++ [c]))

/-- The type of a function. -/
def functionType : Parser Piece := do
  let tps ← option g.typeParameters
  let ps ← g.typeFunctionParameters
  let arrow ← token "=>"
  let r ← g.result
  Piece.assemble? "function_type" (tps.toList ++ [ps, arrow, r.inField "return_type"])

/-- The type of a function that is called with `new`. -/
def constructorType : Parser Piece := do
  let abstract ← option (keyword "abstract")
  let new ← keyword "new"
  let tps ← option g.typeParameters
  let ps ← g.typeFunctionParameters
  let arrow ← token "=>"
  let r ← g.parse .type
  Piece.assemble? "constructor_type"
    (abstract.toList ++ [new] ++ tps.toList ++ [ps, arrow, r.inField "type"])

/-! ## Object types -/

/-- The words that qualify the member of an object type. -/
def memberWords : List String :=
  ["public", "private", "protected", "static", "override", "readonly", "async", "get", "set"]

/-- A type that all properties of a kind take from another one: the part between the brackets. -/
def mappedClause : Parser Piece := do
  let n ← name "type_identifier" []
  let i ← keyword "in"
  let t ← g.parse .type
  let as ← option do
    let a ← keyword "as"
    let t ← g.parse .type
    return [a, t.inField "alias"]
  return .assemble "mapped_type_clause" (n.inField "name")
    ([i, t.inField "type"] ++ as.toList.flatten)

/-- The mark that makes all properties of a kind optional or required, and their type. -/
def mappedAnnotation : Parser Piece :=
  orElse g.annotation fun _ => do
    let sign ← orElse (token "-") fun _ => orElse (token "+") fun _ => token "?"
    let mark ← if sign.kind == "?" then pure none else some <$> token "?"
    let colon ← option (token ":")
    let t ← if colon.isSome then option (g.parse .type) else pure none
    require (colon.isNone || t.isSome)
    return .assemble "mapped_annotation" sign (mark.toList ++ colon.toList ++ t.toList)

/-- Properties that are given by a type of names. -/
def indexSignature : Parser Piece := do
  let sign ← option (orElse (token "-") fun _ => token "+")
  let readonly ← option (keyword "readonly")
  require (sign.isNone || readonly.isSome)
  let o ← token "["
  let what : List Piece ← orElse (do
      let n ← name "identifier" []
      let colon ← token ":"
      let t ← g.parse .type
      return [n.inField "name", colon, t.inField "index_type"])
    fun _ => do return [← g.mappedClause]
  let c ← token "]"
  let t ← option g.mappedAnnotation
  Piece.assemble? "index_signature"
    (sign.toList ++ readonly.toList ++ [o] ++ what ++ [c] ++ (t.map (·.inField "type")).toList)

/-- A way to call a value: type parameters, parameters and result. -/
def callParts : Parser (List Piece) := do
  let tps ← option g.typeParameters
  let ps ← g.typeFunctionParameters
  let r ← option g.resultAnnotation
  return tps.toList ++ [ps] ++ (r.map (·.inField "return_type")).toList

/-- A way to call the value itself. -/
def callSignature : Parser Piece := do
  let parts ← g.callParts
  Piece.assemble? "call_signature" parts

/-- A way to call the value with `new`. -/
def constructSignature : Parser Piece := do
  let abstract ← option (keyword "abstract")
  let new ← keyword "new"
  let parts ← g.callParts
  Piece.assemble? "construct_signature" (abstract.toList ++ [new] ++ parts)

/-- A property or a method of an object type. -/
def propertySignature : Parser Piece := do
  let ws ← modifiers memberWords
  let star ← option (token "*")
  let n ← g.propertyName
  let mark ← option (token "?")
  let front := ws ++ star.toList ++ [n.inField "name"] ++ mark.toList
  if (← follows "(") || (← follows "<") then
    let parts ← g.callParts
    Piece.assemble? "method_signature" (front ++ parts)
  else
    let t ← option g.annotation
    Piece.assemble? "property_signature" (front ++ (t.map (·.inField "type")).toList)

/-- A member of an object type. -/
def typeMember : Parser Piece :=
  orElse g.indexSignature fun _ => orElse g.callSignature fun _ =>
    orElse g.constructSignature fun _ => g.propertySignature

/-- What separates two members of an object type. -/
def memberEnd : Parser (List Piece) :=
  orElse (do return [← token ","]) fun _ => semicolon .type

/-- The members of an object type between braces. -/
def objectTypeAs (kind : String) : Parser Piece := do
  let o ← token "\x7b"
  let front ← option (orElse (token ",") fun _ => token ";")
  let first ← option g.typeMember
  let more : List Piece ← match first with
    | none => pure []
    | some m => do
      let rest ← many do
        let sep ← memberEnd
        let m ← g.typeMember
        return sep ++ [m]
      let last ← option memberEnd
      pure (m :: rest.flatten ++ last.toList.flatten)
  let c ← token "\x7d"
  return .assemble kind o (front.toList ++ more ++ [c])

/-! ## Tuples -/

/-- A member of a tuple type. -/
def tupleMember : Parser Piece :=
  orElse (do
      let dots ← option (token "...")
      let n ← name "identifier" []
      let mark ← option (token "?")
      let t ← g.annotation
      let p := match dots with
        | some d => Piece.assemble "rest_pattern" d [n]
        | none => n
      let kind := if mark.isSome then "optional_parameter" else "required_parameter"
      return .assemble kind (p.inField "name") (mark.toList ++ [t.inField "type"]))
    fun _ => do
      match ← option (token "...") with
      | some d => return .assemble "rest_type" d [← g.parse .type]
      | none =>
        let t ← g.parse .type
        match ← option (token "?") with
        | some mark => return .assemble "optional_type" t [mark]
        | none => return t

/-- A tuple type. -/
def tupleType : Parser Piece := do
  let o ← token "["
  let ms ← option (separatedEnd g.tupleMember (token ","))
  let c ← token "]"
  return .assemble "tuple_type" o (ms.toList.flatten ++ [c])

/-! ## Primary types -/

/-- The words that name the types of the language itself. -/
def predefinedTypes : List String :=
  ["any", "number", "boolean", "string", "symbol", "void", "unknown", "never", "object"]

/-- A type that the language itself names. -/
def predefinedType : Parser Piece := do
  return .assemble "predefined_type" (← oneWord predefinedTypes) []

/-- A literal as a type. -/
def literalType : Parser Piece := do
  let v ← orElse string fun _ => orElse number fun _ => orElse (do
      let sign ← orElse (token "-") fun _ => token "+"
      return .assemble "unary_expression" sign [← number])
    fun _ => do
      let w ← upcomingWord
      require (["true", "false", "null", "undefined"].contains w)
      lexeme w true Lexeme.word
  return .assemble "literal_type" v []

/-- Part of a template: plain text, or what `hole` parses between the marks of a hole. -/
def templatePart (text hole : String) (inner : Parser Piece) : Parser Piece := fun k =>
  match Lexeme.templateText k.rest with
  | 0 =>
    match Lexeme.escape k.rest with
    | 0 =>
      if "$\x7b".toList.isPrefixOf k.rest then
        (do
          let o ← token "$\x7b"
          let e ← inner
          let c ← token "\x7d"
          return Piece.assemble hole o [e, c]).run k
      else none
    | n =>
      let stop := k.skip n
      let node := Cursor.leaf "escape_sequence" true k stop
      some ({ lead := [], node := some node, span := node.span }, stop)
  | n =>
    let stop := k.skip n
    let node := Cursor.leaf text true k stop
    some ({ lead := [], node := some node, span := node.span }, stop)

/-- A backquote right here. -/
def backquote : Parser Piece := fun k =>
  if "\x60".toList.isPrefixOf k.rest then (token "\x60").run k else none

/-- A template between backquotes. -/
def templateOf (kind hole : String) (inner : Parser Piece) : Parser Piece := do
  let o ← token "\x60"
  let parts ← many (templatePart "string_fragment" hole inner)
  let c ← backquote
  return .assemble kind o (parts ++ [c])

/-- A template of types. -/
def templateType : Parser Piece :=
  templateOf "template_literal_type" "template_type" (g.parse .type)

/-- The value behind `typeof` or `import` in a type. -/
def typeOfValue : Parser Piece := do
  let first ← orElse (do
      let i ← keyword "import"
      let o ← token "("
      let s ← string
      let c ← token ")"
      return .assemble "call_expression" (i.withKind "import" |>.inField "function")
        [Piece.inField "arguments" (.assemble "arguments" o [s, c])])
    fun _ => do
      if (← upcomingWord) == "this" then lexeme "this" true Lexeme.word
      else name "identifier" []
  extend (fun object => do
    match ← option (tokenBut "." ".") with
    | some dot =>
      let n ← orElse privateName fun _ => name "property_identifier" []
      return .assemble "member_expression" (object.inField "object") [dot, n.inField "property"]
    | none =>
      require !(← lineBreakFollows)
      let ts ← g.typeArguments
      return .assemble "instantiation_expression" object [ts]) first

/-- A type that nothing in front of it and nothing behind it changes. -/
def primaryType : Parser Piece := do
  match ← upcoming with
  | '(' :: _ => do
    let o ← token "("
    let t ← g.parse .type
    let c ← token ")"
    return .assemble "parenthesized_type" o [t, c]
  | '\x7b' :: _ => g.objectTypeAs "object_type"
  | '[' :: _ => g.tupleType
  | '*' :: _ => do return .assemble "existential_type" (← token "*") []
  | '?' :: _ => do
    let q ← token "?"
    return .assemble "flow_maybe_type" q [← g.parse .typeOperand]
  | c :: _ =>
    if c.toNat == 0x60 then g.templateType
    else
      let w ← upcomingWord
      if w == "this" then lexeme "this_type" true Lexeme.word
      else if w == "import" then g.typeOfValue
      else if w == "const" then keyword "const"
      else
        orElse (do
            let t ← predefinedType
            require !(← follows ".")
            return t)
          fun _ => orElse literalType fun _ => g.typeReference
  | [] => failure

/-- A type with the brackets behind it. -/
def bracketedType : Parser Piece := do
  let first ← g.primaryType
  extend (fun t => do
    require !(← lineBreakFollows)
    let o ← token "["
    match ← option (token "]") with
    | some c => return .assemble "array_type" t [o, c]
    | none =>
      let i ← g.parse .type
      let c ← token "]"
      return .assemble "lookup_type" t [o, i, c]) first

/-- A type with the words in front of it. -/
def typeOperand : Parser Piece := do
  let word (w kind : String) : Parser Piece := do
    let k ← keyword w
    return .assemble kind k [← g.parse .typeOperand]
  let plain : Parser Piece := g.bracketedType
  match ← upcomingWord with
  | "keyof" => orElse (word "keyof" "index_type_query") fun _ => plain
  | "readonly" => orElse (word "readonly" "readonly_type") fun _ => plain
  | "unique" => orElse (do
      let u ← keyword "unique"
      let s ← keyword "symbol"
      return .assemble "predefined_type" u [s]) fun _ => plain
  | "infer" => orElse (do
      let i ← keyword "infer"
      let n ← name "type_identifier" []
      let bound ← option do
        let e ← keyword "extends"
        let t ← g.parse .typeOperand
        require !(← follows "?")
        return [e, t]
      return .assemble "infer_type" i (n :: bound.toList.flatten)) fun _ => plain
  | "typeof" => do
    let t ← keyword "typeof"
    let v ← g.typeOfValue
    let query := Piece.assemble "type_query" t [v]
    extend (fun t => do
      require !(← lineBreakFollows)
      let o ← token "["
      let i ← option (g.parse .type)
      let c ← token "]"
      return .assemble (if i.isSome then "lookup_type" else "array_type") t
        ([o] ++ i.toList ++ [c])) query
  | "new" => g.constructorType
  | "abstract" => orElse g.constructorType fun _ => plain
  | _ =>
    if (← follows "(") || (← follows "<") then orElse g.functionType fun _ => plain
    else plain

/-- Types with an operator between them, which may also stand in front of the first. -/
def typeChain (kind operator : String) (item : Parser Piece) : Parser Piece := do
  let sign := tokenBut operator operator
  let first ← match ← option sign with
    | some s => do
      let x ← item
      pure (Piece.assemble kind s [x])
    | none => item
  extend (fun left => do
    let s ← sign
    let right ← item
    return .assemble kind left [s, right]) first

/-- An intersection of types. -/
def intersectionType : Parser Piece :=
  typeChain "intersection_type" "&" g.typeOperand

/-- A union of types. -/
def unionType : Parser Piece :=
  typeChain "union_type" "|" g.intersectionType

/-- A type. -/
def typeBody : Parser Piece := do
  let left ← g.unionType
  if (← upcomingWord) == "extends" then
    orElse (do
        let e ← keyword "extends"
        let right ← g.unionType
        let q ← token "?"
        let yes ← g.parse .type
        let colon ← token ":"
        let no ← g.parse .type
        return .assemble "conditional_type" (left.inField "left")
          [e, right.inField "right", q, yes.inField "consequence", colon,
            no.inField "alternative"])
      fun _ => pure left
  else return left

end TestScribe.Grammar.Rules
