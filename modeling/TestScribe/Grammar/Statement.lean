import TestScribe.Grammar.Expression

/-!
# Statements

Declarations, imports and exports, and the statements that direct the flow of control.
-/

namespace TestScribe.Grammar.Rules

open Syntax Grammar.Parser

variable (g : Rules)

/-! ## Variables -/

/-- A variable with its type and its value. -/
def declarator (c : Context) : Parser Piece := do
  let n ← g.parse .pattern
  let mark ← if n.kind == "identifier" then g.typedOption (tokenBut "!" "=") else pure []
  let t ← g.typedOption g.annotation
  let value ← if !c.bracketed && (← omitted .type) then pure none else option (g.initializer c)
  return .assemble "variable_declarator" (n.inField "name")
    (mark ++ t.map (·.inField "type") ++ value.toList.flatten)

/-- Whether the declaration ends in a value. -/
def endsInValue (p : Piece) : Bool :=
  (p.node.bind fun n => n.child? "value").isSome

/-- A declaration of variables without the semicolon. -/
def declarators (c : Context) : Parser (String × List Piece) := do
  let w ← oneWord ["var", "let", "const"]
  let kind := if w.kind == "var" then "variable_declaration" else "lexical_declaration"
  let ds ← separated (g.declarator c) (token ",")
  return (kind, w.inField "kind" :: ds)

/-- A declaration of variables. -/
def variableDeclaration : Parser Piece := do
  let (kind, parts) ← g.declarators .statement
  let o : Omission := if parts.getLast?.any endsInValue then .expression else .type
  let sep ← semicolon o
  Piece.assemble? kind (parts ++ sep)

/-! ## Functions and classes -/

/-- A function that is declared, or the signature of one. -/
def functionDeclaration : Parser Piece := do
  let (front, generator) ← functionHead
  let n ← identifier g
  let s ← g.signature
  let front := front ++ [n.inField "name"] ++ s
  if ← follows "\x7b" then
    let b ← g.functionBody
    let last ← closing .type
    Piece.assemble? (if generator then "generator_function_declaration" else "function_declaration")
      (front ++ [b] ++ last)
  else
    g.typedOnly
    let sep ← semicolon .signature
    Piece.assemble? "function_signature" (front ++ sep)

/-- A class that is declared, behind its decorators. -/
def classDeclaration (decorators : List Piece) : Parser Piece := do
  let c ← keyword "class"
  let n ← g.className
  let parts ← g.classParts (some n)
  let last ← closing .type
  Piece.assemble? "class_declaration" (decorators ++ [c] ++ parts ++ last)

/-- A class of which no objects are made, behind its decorators. -/
def abstractClass (decorators : List Piece) : Parser Piece := do
  g.typedOnly
  let a ← keyword "abstract"
  let c ← keyword "class"
  let n ← g.className
  let parts ← g.classParts (some n)
  Piece.assemble? "abstract_class_declaration" (decorators ++ [a, c] ++ parts)

/-! ## Declarations of types -/

/-- What an interface extends. -/
def interfaceHeritage : Parser Piece := do
  let e ← keyword "extends"
  let ts ← separated g.typeReference (token ",")
  return .assemble "extends_type_clause" e ts

/-- An interface. -/
def interfaceDeclaration : Parser Piece := do
  let i ← keyword "interface"
  let n ← name "type_identifier" []
  let tps ← option g.typeParameters
  let h ← option g.interfaceHeritage
  let b ← g.objectTypeAs "interface_body"
  return .assemble "interface_declaration" i
    ([n.inField "name"] ++ tps.toList ++ h.toList ++ [b.inField "body"])

/-- A name for a type. -/
def typeAlias : Parser Piece := do
  let w ← keyword "type"
  let n ← name "type_identifier" []
  let tps ← option g.typeParameters
  let e ← token "="
  let t ← g.parse .type
  let sep ← semicolon .type
  return .assemble "type_alias_declaration" w
    ([n.inField "name"] ++ tps.toList ++ [e, t.inField "value"] ++ sep)

/-- A constant of an enumeration. -/
def enumMember : Parser Piece := do
  let n ← g.propertyName
  match ← option (g.initializer .brackets) with
  | some value => return .assemble "enum_assignment" (n.inField "name") value
  | none => return n

/-- An enumeration. -/
def enumDeclaration : Parser Piece := do
  let c ← option (keyword "const")
  let e ← keyword "enum"
  let n ← identifier g
  let o ← token "\x7b"
  let ms ← option (separatedEnd g.enumMember (token ","))
  let c₂ ← token "\x7d"
  let body := Piece.assemble "enum_body" o (ms.toList.flatten ++ [c₂])
  Piece.assemble? "enum_declaration"
    (c.toList ++ [e, n.inField "name", body.inField "body"])

/-- A namespace or a module with its statements. -/
def moduleDeclaration (word kind : String) : Parser Piece := do
  let w ← keyword word
  require !(← lineBreakFollows)
  let n ← orElse string fun _ => do
    let first ← identifier g
    dotted "nested_identifier" first
  let b ← option (g.parse .block)
  require (b.isSome || n.kind == "string")
  return .assemble kind w ([n.inField "name"] ++ (b.map (·.inField "body")).toList)

/-! ## Imports -/

/-- A quoted or plain name of what a module hands out. -/
def moduleName : Parser Piece :=
  orElse string fun _ => name "identifier" []

/-- A name that is imported, with the name it gets here. -/
def importSpecifier : Parser Piece := do
  let renamed (front : List Piece) : Parser Piece := do
    let n ← moduleName
    let as ← keyword "as"
    let other ← name "identifier" []
    Piece.assemble? "import_specifier" (front ++ [n.inField "name", as, other.inField "alias"])
  let single (front : List Piece) : Parser Piece := do
    let n ← name "identifier" []
    Piece.assemble? "import_specifier" (front ++ [n.inField "name"])
  let ended (p : Parser Piece) : Parser Piece := do
    let x ← p
    require ((← follows ",") || (← follows "\x7d"))
    return x
  orElse (ended (single [])) fun _ => orElse (ended (renamed [])) fun _ => do
    g.typedOnly
    let t ← oneWord ["type", "typeof"]
    orElse (ended (single [t])) fun _ => ended (renamed [t])

/-- The names that are imported, in braces. -/
def namedImports : Parser Piece := do
  let o ← token "\x7b"
  let ns ← option (separatedEnd g.importSpecifier (token ","))
  let c ← token "\x7d"
  return .assemble "named_imports" o (ns.toList.flatten ++ [c])

/-- All that is imported, under one name. -/
def namespaceImport : Parser Piece := do
  let s ← token "*"
  let a ← keyword "as"
  let n ← identifier g
  return .assemble "namespace_import" s [a, n]

/-- What is imported. -/
def importClause : Parser Piece := do
  let group := orElse g.namespaceImport fun _ => g.namedImports
  match ← upcomingChar with
  | some '*' | some '\x7b' => return .assemble "import_clause" (← group) []
  | _ =>
    let n ← name "identifier" (if g.dialect.typed then [] else reservedWords)
    match ← option (token ",") with
    | none => return .assemble "import_clause" n []
    | some comma => return .assemble "import_clause" n [comma, ← group]

/-- The source of what is imported or handed on. -/
def fromClause : Parser (List Piece) := do
  let f ← keyword "from"
  let s ← string
  return [f, s.inField "source"]

/-- What is asked of an imported module. -/
def importAttribute : Parser Piece := do
  let w ← oneWord ["with", "assert"]
  let o ← g.object
  return .assemble "import_attribute" w [o]

/-- The name that a statement gives to something from another module or namespace. -/
def importAlias (front : List Piece) : Parser Piece := do
  g.typedOnly
  let n ← identifier g
  let e ← token "="
  orElse (do
      let r ← keyword "require"
      let o ← token "("
      let s ← string
      let c ← token ")"
      let clause := Piece.assemble "import_require_clause" n [e, r, o, s.inField "source", c]
      let sep ← semicolon .expression
      Piece.assemble? "import_statement" (front ++ [clause] ++ sep))
    fun _ => do
      let first ← identifier g
      let v ← dotted "nested_identifier" first
      let sep ← semicolon .expression
      Piece.assemble? "import_alias" (front ++ [n, e, v] ++ sep)

/-- An import. -/
def importStatement : Parser Piece := do
  let i ← keyword "import"
  let full (front : List Piece) : Parser Piece := do
    let clause ← g.importClause
    let source ← fromClause
    let a ← option g.importAttribute
    let sep ← semicolon .expression
    Piece.assemble? "import_statement" (front ++ [clause] ++ source ++ a.toList ++ sep)
  match ← option string with
  | some s =>
    let a ← option g.importAttribute
    let sep ← semicolon .expression
    return .assemble "import_statement" i ([s.inField "source"] ++ a.toList ++ sep)
  | none =>
    orElse (full [i]) fun _ => orElse (g.importAlias [i]) fun _ => do
      g.typedOnly
      let t ← oneWord ["type", "typeof"]
      orElse (full [i, t]) fun _ => g.importAlias [i, t]

/-! ## Exports -/

/-- A name that is handed out, with the name it gets outside. -/
def exportSpecifier : Parser Piece := do
  let ended (p : Parser Piece) : Parser Piece := do
    let x ← p
    require ((← follows ",") || (← follows "\x7d"))
    return x
  let single (front : List Piece) : Parser Piece := do
    let n ← moduleName
    let other ← option do
      let as ← keyword "as"
      let m ← moduleName
      return [as, m.inField "alias"]
    Piece.assemble? "export_specifier" (front ++ [n.inField "name"] ++ other.toList.flatten)
  orElse (ended (single [])) fun _ => do
    let t ← oneWord ["type", "typeof"]
    ended (single [t])

/-- The names that are handed out, in braces. -/
def exportClause : Parser Piece := do
  let o ← token "\x7b"
  let ns ← option (separatedEnd exportSpecifier (token ","))
  let c ← token "\x7d"
  return .assemble "export_clause" o (ns.toList.flatten ++ [c])

/-- The kinds of statement that declare something. -/
def declarationKinds : List String :=
  ["class_declaration", "abstract_class_declaration", "function_signature",
    "function_declaration", "generator_function_declaration", "lexical_declaration",
    "variable_declaration", "interface_declaration", "type_alias_declaration",
    "enum_declaration", "module", "internal_module", "expression_statement"]

/-- A declaration of something that exists elsewhere. -/
def ambient : Parser Piece := do
  let d ← keyword "declare"
  require !(← lineBreakFollows)
  match ← upcomingWord with
  | "global" =>
    let w ← keyword "global"
    let b ← g.parse .block
    return .assemble "ambient_declaration" d [w, b]
  | w =>
    require (w != "declare" && w != "import")
    let s ← g.parse .statement
    require (declarationKinds.contains s.kind)
    return .assemble "ambient_declaration" d [s]

/-- What may be declared, behind its decorators. -/
def declaration (decorators : List Piece) : Parser Piece := do
  match ← upcomingWord with
  | "class" => g.classDeclaration decorators
  | "abstract" => g.abstractClass decorators
  | w =>
    require decorators.isEmpty
    match w with
    | "function" | "async" => g.functionDeclaration
    | "var" | "let" => g.variableDeclaration
    | "const" => orElse g.variableDeclaration fun _ => do
        g.typedOnly
        g.enumDeclaration
    | _ => do
      g.typedOnly
      match w with
      | "interface" => g.interfaceDeclaration
      | "type" => g.typeAlias
      | "enum" => g.enumDeclaration
      | "namespace" => g.moduleDeclaration "namespace" "internal_module"
      | "module" => g.moduleDeclaration "module" "module"
      | "declare" => g.ambient
      | "import" => do
        let i ← keyword "import"
        g.importAlias [i]
      | _ => failure

/-- The declaration or the value that a module hands out as its own. -/
def defaultExport (front : List Piece) : Parser Piece := do
  let d ← keyword "default"
  let ds ← many g.decorator
  let declared : Parser Piece := do
    let w ← upcomingWord
    require (["class", "abstract", "function", "async", "interface", "enum"].contains w)
    let p ← g.declaration ds
    Piece.assemble? "export_statement" (front ++ [d, p.inField "declaration"])
  orElse declared fun _ => do
    require ds.isEmpty
    let e ← g.parse (.expression .statement)
    let sep ← semicolon .expression
    Piece.assemble? "export_statement" (front ++ [d, e.inField "value"] ++ sep)

/-- An export, behind its decorators. -/
def exportStatement (decorators : List Piece) : Parser Piece := do
  let e ← keyword "export"
  let front := decorators ++ [e]
  let close (parts : List Piece) : Parser Piece := do
    let sep ← semicolon .expression
    Piece.assemble? "export_statement" (front ++ parts ++ sep)
  match ← upcoming with
  | '*' :: _ =>
    let s ← token "*"
    let as ← option do
      let a ← keyword "as"
      let n ← moduleName
      return [a, n]
    let source ← fromClause
    close ([s] ++ as.toList.flatten ++ source)
  | '\x7b' :: _ =>
    let clause ← exportClause
    let source ← option fromClause
    close ([clause] ++ source.toList.flatten)
  | '=' :: _ =>
    g.typedOnly
    let eq ← token "="
    let v ← g.parse (.expression .statement)
    close [eq, v]
  | _ =>
    let w ← upcomingWord
    if w == "default" then g.defaultExport front
    else
      let declared : Parser Piece := do
        let ds ← many g.decorator
        let p ← g.declaration ds
        Piece.assemble? "export_statement" (front ++ [p.inField "declaration"])
      if w == "type" then
        orElse (do
            let t ← keyword "type"
            let clause ← orElse exportClause fun _ => token "*"
            let source ← option fromClause
            require (clause.kind != "*" || source.isSome)
            close ([t, clause] ++ source.toList.flatten))
          fun _ => declared
      else if w == "as" then
        let a ← keyword "as"
        let n ← keyword "namespace"
        let m ← identifier g
        close [a, n, m]
      else declared

/-! ## Control flow -/

/-- A condition in parentheses. -/
def condition : Parser Piece := do
  return Piece.inField "condition" (← g.parenthesized)

/-- A statement as the body of another one. -/
def bodyStatement : Parser Piece := do
  return Piece.inField "body" (← g.parse .statement)

/-- A choice between statements. -/
def ifStatement : Parser Piece := do
  let i ← keyword "if"
  let c ← g.condition
  let yes ← g.parse .statement
  let no ← option do
    let e ← keyword "else"
    let s ← g.parse .statement
    return Piece.inField "alternative" (.assemble "else_clause" e [s])
  return .assemble "if_statement" i ([c, yes.inField "consequence"] ++ no.toList)

/-- The head of a loop over the items or the names of a value. -/
def itemLoopHead : Parser (List Piece) := do
  let o ← token "("
  let c : Context := { bracketed := true, noIn := true, noResultType := false }
  let left ← orElse (do
      let w ← oneWord ["var", "let", "const"]
      let p ← g.parse .pattern
      let value ← if w.kind == "var" then option (g.initializer c) else pure none
      return [w.inField "kind", p.inField "left"] ++ value.toList.flatten)
    fun _ => do
      let e ← g.parse (.operand c)
      match e.node.bind toTarget? with
      | none => failure
      | some t => return [({ e with node := some t } : Piece).inField "left"]
  let w ← oneWord ["in", "of"]
  let right ← g.parse (.sequence .brackets)
  let close ← token ")"
  return [o] ++ left ++ [w.inField "operator", right.inField "right", close]

/-- The head of a loop with a start, a condition and a step. -/
def stepLoopHead : Parser (List Piece) := do
  let o ← token "("
  let c : Context := { bracketed := true, noIn := true, noResultType := false }
  let start ← orElse (do
      let s ← token ";"
      return [Piece.inField "initializer" (.assemble "empty_statement" s [])])
    fun _ => orElse (do
      let (kind, parts) ← g.declarators c
      let s ← token ";"
      return [Piece.inField "initializer" (← Piece.assemble? kind (parts ++ [s]))])
    fun _ => do
      let e ← g.parse (.sequence c)
      let s ← token ";"
      return [e.inField "initializer", s]
  let test ← option (g.parse (.sequence .brackets))
  let s ← token ";"
  let step ← option (g.parse (.sequence .brackets))
  let close ← token ")"
  return [o] ++ start ++ (test.map (·.inField "condition")).toList ++ [s] ++
    (step.map (·.inField "increment")).toList ++ [close]

/-- A loop that begins with `for`. -/
def forStatement : Parser Piece := do
  let f ← keyword "for"
  let await ← option (keyword "await")
  let itemHead ← option g.itemLoopHead
  match itemHead with
  | some head =>
    let b ← g.bodyStatement
    return .assemble "for_in_statement" f (await.toList ++ head ++ [b])
  | none =>
    require await.isNone
    let head ← g.stepLoopHead
    let b ← g.bodyStatement
    return .assemble "for_statement" f (head ++ [b])

/-- A loop that tests its condition first. -/
def whileStatement : Parser Piece := do
  let w ← keyword "while"
  let c ← g.condition
  let b ← g.bodyStatement
  return .assemble "while_statement" w [c, b]

/-- A loop that tests its condition last. -/
def doStatement : Parser Piece := do
  let d ← keyword "do"
  let b ← g.bodyStatement
  let w ← keyword "while"
  let c ← g.condition
  let sep ← option (semicolon .expression)
  return .assemble "do_statement" d ([b, w, c] ++ sep.toList.flatten)

/-- A case of a switch, or what is done in no case. -/
def switchCase : Parser Piece := do
  let (kind, front) ← orElse (do
      let c ← keyword "case"
      let e ← g.parse (.sequence .brackets)
      return ("switch_case", [c, e.inField "value"]))
    fun _ => do return ("switch_default", [← keyword "default"])
  let colon ← token ":"
  let ss ← many (g.parse .statement)
  Piece.assemble? kind (front ++ [colon] ++ ss.map (·.inField "body"))

/-- A switch. -/
def switchStatement : Parser Piece := do
  let s ← keyword "switch"
  let v ← g.parenthesized
  let o ← token "\x7b"
  let cs ← many g.switchCase
  let c ← token "\x7d"
  let body := Piece.assemble "switch_body" o (cs ++ [c])
  return .assemble "switch_statement" s [v.inField "value", body.inField "body"]

/-- A block whose errors are caught. -/
def tryStatement : Parser Piece := do
  let t ← keyword "try"
  let b ← g.functionBody
  let handler ← option do
    let c ← keyword "catch"
    let parameter ← option do
      let o ← token "("
      let p ← g.parse .pattern
      let t ← g.typedOption g.annotation
      let c ← token ")"
      return [o, p.inField "parameter"] ++ t.map (·.inField "type") ++ [c]
    let b ← g.functionBody
    return Piece.inField "handler" (.assemble "catch_clause" c (parameter.toList.flatten ++ [b]))
  let final ← option do
    let f ← keyword "finally"
    let b ← g.functionBody
    return Piece.inField "finalizer" (.assemble "finally_clause" f [b])
  return .assemble "try_statement" t ([b] ++ handler.toList ++ final.toList)

/-- A statement within the scope of an object. -/
def withStatement : Parser Piece := do
  let w ← keyword "with"
  let o ← g.parenthesized
  let b ← g.bodyStatement
  return .assemble "with_statement" w [o.inField "object", b]

/-- A jump with an optional label. -/
def jump (word kind : String) : Parser Piece := do
  let w ← keyword word
  if ← omitted .expression then return .assemble kind w (← semicolon .expression)
  else
    let l ← option (name "statement_identifier" [])
    let sep ← semicolon .expression
    return .assemble kind w ((l.map (·.inField "label")).toList ++ sep)

/-- The end of a function, with its value. -/
def returnStatement : Parser Piece := do
  let r ← keyword "return"
  if ← omitted .expression then return .assemble "return_statement" r (← semicolon .expression)
  else
    let e ← option (g.parse (.sequence .statement))
    let sep ← semicolon .expression
    return .assemble "return_statement" r (e.toList ++ sep)

/-- An error that is raised. -/
def throwStatement : Parser Piece := do
  let t ← keyword "throw"
  let e ← g.parse (.sequence .statement)
  let sep ← semicolon .expression
  return .assemble "throw_statement" t ([e] ++ sep)

/-- The words that are no labels, because something else begins with them. -/
def unlabeledWords : List String :=
  ["case", "default", "yield"] ++ constantWords ++ operatorWords ++
    (if g.dialect.typed then [] else reservedWords)

/-- A statement with a label. -/
def labeledStatement : Parser Piece := do
  let l ← name "statement_identifier" g.unlabeledWords
  let colon ← token ":"
  let b ← g.bodyStatement
  return .assemble "labeled_statement" (l.inField "label") [colon, b]

/-! ## All statements -/

/-- The words that no statement begins with. -/
def innerWords : List String :=
  ["case", "default", "else", "catch", "finally", "in", "instanceof", "extends"]

/-- An expression as a statement. -/
def expressionStatement : Parser Piece := do
  require !(innerWords.contains (← upcomingWord))
  let e ← g.parse (.sequence .statement)
  let sep ← semicolon .expression
  return .assemble "expression_statement" e sep

/-- Whether a function or a class with a name comes next. -/
def namedFollows : Parser Bool :=
  isAhead (orElse (do
      let _ ← functionHead
      identifier g)
    fun _ => do
      let _ ← keyword "class"
      g.className)

/-- A statement that a word decides upon, or that may also be an expression. -/
def wordStatement : Parser Piece := do
  match ← upcomingWord with
  | "import" => do
    let isExpression ← isAhead do
      let _ ← keyword "import"
      orElse (token "(") fun _ => token "."
    if isExpression then g.expressionStatement else g.importStatement
  | "export" => g.exportStatement []
  | "var" | "const" => g.declaration []
  | "let" => orElse g.variableDeclaration fun _ => g.expressionStatement
  | "function" | "class" => do
    if ← g.namedFollows then g.declaration [] else g.expressionStatement
  | "async" => do
    if ← g.namedFollows then g.declaration []
    else orElse g.labeledStatement fun _ => g.expressionStatement
  | "if" => g.ifStatement
  | "for" => g.forStatement
  | "while" => g.whileStatement
  | "do" => g.doStatement
  | "switch" => g.switchStatement
  | "try" => g.tryStatement
  | "with" => g.withStatement
  | "return" => g.returnStatement
  | "throw" => g.throwStatement
  | "break" => jump "break" "break_statement"
  | "continue" => jump "continue" "continue_statement"
  | "debugger" => do
    let d ← keyword "debugger"
    return .assemble "debugger_statement" d (← semicolon .expression)
  | w =>
    let plain : Parser Piece := orElse g.labeledStatement fun _ => g.expressionStatement
    if g.dialect.typed then
      match w with
      | "interface" | "enum" | "abstract" | "type" | "declare" =>
        orElse (g.declaration []) fun _ => plain
      | "namespace" => orElse (do
          let m ← g.declaration []
          return .assemble "expression_statement" m (← semicolon .type)) fun _ => plain
      | "module" => orElse (do
          let m ← g.declaration []
          let last ← closing .type
          return .assemble "module" m last) fun _ => plain
      | _ => plain
    else plain

/-- A statement. -/
def statementBody : Parser Piece := do
  match ← upcoming with
  | '\x7b' :: _ => orElse (g.parse .block) fun _ => g.expressionStatement
  | ';' :: _ => do return .assemble "empty_statement" (← token ";") []
  | '@' :: _ => do
    let ds ← many g.decorator
    if (← upcomingWord) == "export" then g.exportStatement ds else g.declaration ds
  | s =>
    if Lexeme.word s == 0 then g.expressionStatement else g.wordStatement

end TestScribe.Grammar.Rules
