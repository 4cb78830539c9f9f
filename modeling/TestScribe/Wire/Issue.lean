import TestScribe.Json.Printer
import TestScribe.Text.Quoted

/-!
# What is wrong with a value

A value that cannot be read gives a list of issues. Each names the place of the offending value,
what is wrong with it, and the value itself.
-/

namespace TestScribe.Wire

/-- One step from a value to a part of it. -/
inductive Step
  | key (name : String)
  | index (position : Nat)

/-- What can be wrong with a value. -/
inductive Complaint
  | missing
  | notString
  | tooShort (least : Nat)
  | notBool
  | unreadableBool
  | notInt
  | fractional
  | unreadableInt
  | notFloat
  | unreadableFloat
  | notFinite
  | notGreater (bound : Nat)
  | notAtLeast (bound : Nat)
  | notList
  | notObject
  | notRecord (name : String)
  | notFields
  | notOneOf (choices : List String)
  | notInstant
  | unreadableInstant (reason : String)
  | unreadableDate (reason : String)
  | notJson (reason : String)

/-- The choices in quotes, with commas and an `or` between them. -/
def choicesText : List String → String
  | [] => ""
  | [a] => Text.quoted a
  | [a, b] => Text.quoted a ++ " or " ++ Text.quoted b
  | a :: more => Text.quoted a ++ ", " ++ choicesText more

namespace Complaint

/-- The word that identifies a complaint. -/
def code : Complaint → String
  | missing => "missing"
  | notString => "string_type"
  | tooShort _ => "string_too_short"
  | notBool => "bool_type"
  | unreadableBool => "bool_parsing"
  | notInt => "int_type"
  | fractional => "int_from_float"
  | unreadableInt => "int_parsing"
  | notFloat => "float_type"
  | unreadableFloat => "float_parsing"
  | notFinite => "finite_number"
  | notGreater _ => "greater_than"
  | notAtLeast _ => "greater_than_equal"
  | notList => "list_type"
  | notObject => "dict_type"
  | notRecord _ => "model_type"
  | notFields => "model_attributes_type"
  | notOneOf _ => "literal_error"
  | notInstant => "datetime_type"
  | unreadableInstant _ => "datetime_parsing"
  | unreadableDate _ => "datetime_from_date_parsing"
  | notJson _ => "json_invalid"

/-- The words for a complaint. -/
def message : Complaint → String
  | missing => "Field required"
  | notString => "Input should be a valid string"
  | tooShort n =>
    "String should have at least " ++ toString n ++ (if n == 1 then " character" else " characters")
  | notBool => "Input should be a valid boolean"
  | unreadableBool => "Input should be a valid boolean, unable to interpret input"
  | notInt => "Input should be a valid integer"
  | fractional => "Input should be a valid integer, got a number with a fractional part"
  | unreadableInt => "Input should be a valid integer, unable to parse string as an integer"
  | notFloat => "Input should be a valid number"
  | unreadableFloat => "Input should be a valid number, unable to parse string as a number"
  | notFinite => "Input should be a finite number"
  | notGreater n => "Input should be greater than " ++ toString n
  | notAtLeast n => "Input should be greater than or equal to " ++ toString n
  | notList => "Input should be a valid list"
  | notObject => "Input should be a valid dictionary"
  | notRecord name => "Input should be a valid dictionary or instance of " ++ name
  | notFields => "Input should be a valid dictionary or object to extract fields from"
  | notOneOf choices => "Input should be " ++ choicesText choices
  | notInstant => "Input should be a valid datetime"
  | unreadableInstant reason => "Input should be a valid datetime, " ++ reason
  | unreadableDate reason => "Input should be a valid datetime or date, " ++ reason
  | notJson _ => "JSON decode error"

/-- What the complaint refers to. -/
def context : Complaint → Members
  | tooShort n => [("min_length", .int n)]
  | notGreater n => [("gt", .int n)]
  | notAtLeast n => [("ge", .int n)]
  | notOneOf choices => [("expected", .str (choicesText choices))]
  | unreadableInstant reason => [("error", .str reason)]
  | unreadableDate reason => [("error", .str reason)]
  | notRecord name => [("class_name", .str name)]
  | notJson reason => [("error", .str reason)]
  | _ => []

end Complaint

/-- A complaint about the value `input` at the end of `path`. -/
structure Issue where
  path : List Step
  complaint : Complaint
  input : Json

namespace Issue

/-- The issue seen from a value of which the value is a part. -/
def under (step : Step) (i : Issue) : Issue :=
  { i with path := step :: i.path }

/-- A step as JSON. -/
def stepJson : Step → Json
  | .key name => .str name
  | .index n => .int n

/-- The place of the value. -/
def place (i : Issue) : Json :=
  .arr (i.path.map stepJson)

/-- Kind, place and words of an issue. -/
def summary (i : Issue) : Members :=
  [("type", .str i.complaint.code), ("loc", i.place), ("msg", .str i.complaint.message)]

/-- An issue with the offending value. -/
def details (i : Issue) : Json :=
  .obj (i.summary ++ [("input", i.input)])

/-- An issue with the offending value and what the complaint refers to. -/
def fullDetails (i : Issue) : Json :=
  let context := i.complaint.context
  .obj (i.summary ++ [("input", i.input)] ++
    (if context.isEmpty then [] else [("ctx", .obj context)]))

end Issue

/-- All issues as JSON. -/
def issuesJson (is : List Issue) : Json :=
  .arr (is.map Issue.details)

/-- The first line of a report on the issues found in a value of the type `name`. -/
def headline (name : String) (is : List Issue) : String :=
  toString is.length ++ (if is.length == 1 then " validation error for " else
    " validation errors for ") ++ name

end TestScribe.Wire
