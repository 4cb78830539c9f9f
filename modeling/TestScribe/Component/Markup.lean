import TestScribe.Component.Fact
import TestScribe.Syntax.Source
import TestScribe.Syntax.Walk

/-!
# Event handlers and test ids

What the attributes of elements say: the handlers of events, with the name of their element, and the
ids by which tests find elements.
-/

namespace TestScribe.Component

open Syntax

/-- The attribute that holds a test id. -/
def testIdAttribute : String := "data-testid"

/-- Whether an attribute handles an event: `on` and a capital letter. -/
def isEventName (name : String) : Bool :=
  match name.toList with
  | 'o' :: 'n' :: c :: _ => 'A' ≤ c && c ≤ 'Z'
  | _ => false

/-- The name of an attribute without a namespace. -/
def attributeName? (s : Source) (attr : Node) : Option String :=
  (attr.parts.head?.filter fun n => n.kind == "property_identifier").map s.text

/-- The value of an attribute. -/
def attributeValue? (attr : Node) : Option Node :=
  attr.parts[1]?

/-- The name of the element of a tag; of a dotted name the last part. -/
def elementName? (s : Source) (tag : Node) : Option String := do
  if tag.kind == "jsx_opening_element" || tag.kind == "jsx_self_closing_element" then
    let name ← tag.child? "name"
    if name.kind == "identifier" then some (s.text name)
    else if name.kind == "member_expression" then s.fieldText? name "property"
    else if name.kind == "nested_identifier" then name.parts.getLast?.map s.text
    else none
  else none

/-- The name of a handler that has none. -/
def anonymous : String := "anonymous"

/-- What handles an event: the source of an expression or the value of a string. -/
def handlerText (s : Source) (value : Option Node) : String :=
  match value with
  | none => anonymous
  | some v =>
    if v.kind == "jsx_expression" then
      ((v.parts.head?.map s.text).filter (· != "")).getD anonymous
    else if v.kind == "string" then s.unquoted v
    else anonymous

/-- The event handler at a node. -/
def handler? (s : Source) (v : Visit) : Option HandlerFact := do
  if v.node.kind == "jsx_attribute" then
    let name ← attributeName? s v.node
    if isEventName name then
      return {
        name, handler := handlerText s (attributeValue? v.node),
        element := v.parent.bind (elementName? s) }
    else none
  else none

/-- The event handlers of a source. -/
def handlers (s : Source) (root : Node) : List HandlerFact :=
  root.visits.filterMap (handler? s)

/-- The test id at a node. -/
def testId? (s : Source) (n : Node) : Option String := do
  if n.kind == "jsx_attribute" && attributeName? s n == some testIdAttribute then
    let value ← attributeValue? n
    if value.kind == "string" then some (s.unquoted value) else none
  else none

/-- The test ids of a source, each once. -/
def testIds (s : Source) (root : Node) : List String :=
  (root.nodes.filterMap (testId? s)).eraseDups

end TestScribe.Component
