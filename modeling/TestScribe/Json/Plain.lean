import TestScribe.Json.Basic
import TestScribe.Decimal.Shortest
import TestScribe.Text.Quoted

/-!
# Values in running text

Where a value of any kind stands in a message or a prompt, a string stands as it is and everything
else in the notation below: names and strings in quotes, `None`, `True` and `False` for the three
constants.
-/

namespace TestScribe.Json

mutual

/-- A value in the notation of messages, strings in quotes. -/
def literal : Json → String
  | .null => "None"
  | .bool true => "True"
  | .bool false => "False"
  | .int n => toString n
  | .float x => Decimal.shortestText x
  | .str s => Text.quoted s
  | .arr vs => "[" ++ literalItems vs ++ "]"
  | .obj ms => "\x7b" ++ literalMembers ms ++ "\x7d"

/-- The items of an array, separated by commas. -/
def literalItems : List Json → String
  | [] => ""
  | [v] => literal v
  | v :: w :: vs => literal v ++ ", " ++ literalItems (w :: vs)

/-- The members of an object, separated by commas. -/
def literalMembers : List (String × Json) → String
  | [] => ""
  | [(k, v)] => Text.quoted k ++ ": " ++ literal v
  | (k, v) :: m :: ms => Text.quoted k ++ ": " ++ literal v ++ ", " ++ literalMembers (m :: ms)

end

/-- A value as it stands in running text. -/
def plain : Json → String
  | .str s => s
  | v => literal v

end TestScribe.Json
