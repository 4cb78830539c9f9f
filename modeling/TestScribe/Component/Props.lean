import TestScribe.Component.Name
import TestScribe.Component.Comment

/-!
# Props

The props of a component are those that its functions take apart in their first parameter, followed
by the members of the types that are named for its props. Each function is read once, at the first
node that binds the component's name to it.
-/

namespace TestScribe.Component

open Syntax

/-! ## Types -/

/-- The type in an annotation. -/
def annotated? (n : Node) : Option Node :=
  if n.kind == "type_annotation" then n.parts.head? else none

mutual

/-- The name of the type that a type refers to. -/
def typeName? (s : Source) : Node → Option String
  | .mk kind n f m e span cs =>
    if kind == "type_identifier" || kind == "nested_type_identifier" then
      some (s.text (.mk kind n f m e span cs))
    else if kind == "generic_type" then s.fieldText? (.mk kind n f m e span cs) "name"
    else if kind == "parenthesized_type" || kind == "lookup_type" then firstTypeName? s cs
    else none

/-- The name of the type that the first part among some children refers to. -/
def firstTypeName? (s : Source) : List Node → Option String
  | [] => none
  | c :: cs => if c.isNamed && !c.isComment then typeName? s c else firstTypeName? s cs

end

/-- The first argument of a generic type. -/
def firstTypeArgument? (n : Node) : Option Node := do
  if n.kind == "generic_type" then
    let args ← (n.child? "type_arguments").or
      (n.namedChildren.find? fun c => c.kind == "type_arguments")
    args.parts.head?
  else none

/-! ## Members of types -/

/-- The name that a property's key gives. -/
def keyName? (s : Source) (key : Node) : Option String :=
  if key.kind == "property_identifier" then some (s.text key)
  else if key.kind == "string" then some (s.unquoted key)
  else none

/-- The prop that a member of a type stands for; `before` is what stands in front of the member. -/
def memberProp? (s : Source) (before : List Node) (member : Node) : Option PropFact := do
  if member.isNamed && member.kind == "property_signature" then
    let key ← member.child? "name"
    let name ← nonempty? (keyName? s key)
    let type := ((member.child? "type").bind annotated?).map s.text
    return {
      name, type, required := !member.hasChild "?", default := none,
      description := description? s before }
  else none

/-- The props that a row of children stands for; `before` is what stands in front of them. -/
def memberProps (s : Source) (before : List Node) : List Node → List PropFact
  | [] => []
  | c :: cs => (memberProp? s before c).toList ++ memberProps s (c :: before) cs

/-- The props that the members of a type stand for. -/
def typeProps (s : Source) (type : Node) : List PropFact :=
  if type.kind == "object_type" || type.kind == "interface_body" then
    memberProps s [] type.children
  else []

/-- The name and the members of a type that a node declares. -/
def typeDeclaration? (s : Source) (n : Node) : Option (String × Node) := do
  let body ←
    if n.kind == "interface_declaration" then n.child? "body"
    else if n.kind == "type_alias_declaration" then n.child? "value"
    else none
  let name ← nonempty? (s.fieldText? n "name")
  return (name, body)

/-- The members of the type of a name; of several declarations the last one counts. -/
def declaredType? (s : Source) (root : Node) (name : String) : Option Node :=
  ((root.nodes.filterMap (typeDeclaration? s)).filter fun d => d.1 == name).getLast?.map (·.2)

/-! ## Parameters -/

/-- The type of a rest prop. -/
def restType : String := "Record<string, unknown>"

/-- The description of a rest prop. -/
def restDescription : String := "Rest props"

/-- A prop that is taken out under its name. `inline` holds the members of the parameter's own type,
of which the last one of a name counts. -/
def takenProp? (s : Source) (inline : List PropFact) (optional : Bool) (name : Option String)
    (default : Option Node) : Option PropFact := do
  let name ← nonempty? name
  let member := (inline.filter fun p => p.name == name).getLast?
  let optional := optional || member.any fun p => !p.required
  return {
    name, type := member.bind (·.type), required := !optional && default.isNone,
    default := default.map s.text, description := none }

/-- The prop that a property of an object pattern takes out. -/
def patternProp? (s : Source) (inline : List PropFact) (optional : Bool) (n : Node) :
    Option PropFact :=
  if n.kind == "shorthand_property_identifier_pattern" then
    takenProp? s inline optional (some (s.text n)) none
  else if n.kind == "object_assignment_pattern" then do
    let left ← n.child? "left"
    if left.kind == "shorthand_property_identifier_pattern" then
      takenProp? s inline optional (some (s.text left)) (n.child? "right")
    else none
  else if n.kind == "pair_pattern" then
    let default := (n.child? "value").bind fun v =>
      if v.kind == "assignment_pattern" then v.child? "right" else none
    takenProp? s inline optional ((n.child? "key").bind (keyName? s)) default
  else if n.kind == "rest_pattern" then do
    let rest ← n.parts.head?
    if rest.kind == "identifier" then
      return {
        name := s.text rest, type := some restType, required := false, default := none,
        description := some restDescription }
    else none
  else none

/-- The first parameter of a function. -/
def firstParameter? (function : Node) : Option Node := do
  let parameters ← function.child? "parameters"
  if parameters.kind == "formal_parameters" then
    let first ← parameters.parts.head?
    if first.kind == "required_parameter" || first.kind == "optional_parameter" then some first
    else none
  else none

/-- The type of a parameter. -/
def parameterType? (parameter : Node) : Option Node :=
  (parameter.child? "type").bind annotated?

/-- The props that the first parameter of a function takes out. -/
def parameterProps (s : Source) (function : Node) : List PropFact :=
  match firstParameter? function with
  | none => []
  | some p =>
    let optional := p.kind == "optional_parameter" || (p.child? "value").isSome
    match p.child? "pattern" with
    | some pattern =>
      if pattern.kind == "object_pattern" then
        let inline := ((parameterType? p).map (typeProps s)).getD []
        pattern.parts.filterMap (patternProp? s inline optional)
      else []
    | none => []

/-! ## What is said about the component -/

/-- The type of the props of a class: the first argument of what it extends. -/
def classPropsType? (s : Source) (classNode : Node) : Option String := do
  let heritages := classNode.namedChildren.filter fun n => n.kind == "class_heritage"
  let clauses := heritages.flatMap fun h =>
    h.namedChildren.filter fun n => n.kind == "extends_clause"
  let arguments := clauses.flatMap fun c =>
    c.namedChildren.filter fun n => n.kind == "type_arguments"
  let first ← arguments.head?
  let type ← first.parts.head?
  typeName? s type

/-- What a node says about the props of a component: a function that takes them, or the name of
their type. -/
inductive Mention
  | function (node : Node)
  | type (name : String)

/-- The mention of a type by name, if the name is not empty. -/
def typeMention (name : Option String) : List Mention :=
  ((nonempty? name).map Mention.type).toList

/-- What a node says about the props of the component `name`. -/
def mentions (s : Source) (name : String) (n : Node) : List Mention :=
  if n.kind == "function_declaration" || isFunctionValue n then
    if s.fieldText? n "name" == some name then [.function n] else []
  else if n.kind == "variable_declarator" then
    if s.fieldText? n "name" == some name then
      let type := ((n.child? "type").bind annotated?).bind fun t =>
        typeName? s ((firstTypeArgument? t).getD t)
      let value := (n.child? "value").filter isFunctionValue
      typeMention type ++ (value.map Mention.function).toList
    else []
  else if isClassDeclaration n then
    if s.fieldText? n "name" == some name then typeMention (classPropsType? s n) else []
  else []

/-- The mentions without the functions whose span was met before. -/
def readOnce (seen : List (Nat × Nat)) : List Mention → List Mention
  | [] => []
  | .type name :: ms => .type name :: readOnce seen ms
  | .function n :: ms =>
    let span := (n.span.start, n.span.stop)
    if seen.contains span then readOnce seen ms else .function n :: readOnce (span :: seen) ms

/-- The props that a mention takes out of a parameter. -/
def Mention.props (s : Source) : Mention → List PropFact
  | .function n => parameterProps s n
  | .type _ => []

/-- The names of types that a mention refers to. -/
def Mention.types (s : Source) : Mention → List String
  | .function n =>
    (nonempty? (((firstParameter? n).bind parameterType?).bind (typeName? s))).toList
  | .type name => [name]

/-- The props of the component `name`. -/
def props (s : Source) (root : Node) (name : String) : List PropFact :=
  let said := readOnce [] (root.nodes.flatMap (mentions s name))
  said.flatMap (Mention.props s) ++
    (said.flatMap (Mention.types s)).eraseDups.flatMap fun t =>
      ((declaredType? s root t).map (typeProps s)).getD []

end TestScribe.Component
