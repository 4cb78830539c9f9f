import TestScribe.Syntax.Node
import TestScribe.Text.Utf8

/-!
# Sources

A source is held as its bytes, because spans count bytes. The text of a node is the slice of the
source that it covers, cut at the end of the source and at broken characters read as `U+FFFD`.
-/

namespace TestScribe.Syntax

/-- The bytes of a source text. -/
structure Source where
  bytes : List Nat

namespace Source

/-- The source of a text. -/
def ofText (text : String) : Source :=
  { bytes := Utf8.encode text.toList }

/-- The text that a node covers. -/
def text (s : Source) (n : Node) : String :=
  String.ofList (Utf8.decode (Utf8.slice s.bytes n.span.start n.span.stop))

/-- The text of the child in a field. -/
def fieldText? (s : Source) (n : Node) (name : String) : Option String :=
  (n.child? name).map s.text

/-- The value of a string literal: its text without the quotes around it. -/
def unquoted (s : Source) (n : Node) : String :=
  let cs := (s.text n).toList
  match cs with
  | q :: rest =>
    if (q == '\'' || q == '"' || q.toNat == 0x60) && !rest.isEmpty && rest.getLast? == some q then
      String.ofList rest.dropLast
    else String.ofList cs
  | [] => ""

end Source

end TestScribe.Syntax
