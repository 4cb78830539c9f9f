/-!
# Syntax trees

A node covers a span of its source. Its kind is a name; tokens that are written as they are named
(`class`, `;`) are nodes too and are not *named*. A child may fill a field of its parent. Comments
are nodes wherever they stand.
-/

namespace TestScribe.Syntax

/-- A row and a column in bytes, both counted from zero. -/
structure Point where
  row : Nat
  column : Nat
  deriving Inhabited

/-- The bytes from `start` up to `stop`, and the points of the two ends. -/
structure Span where
  start : Nat
  stop : Nat
  startPoint : Point
  endPoint : Point
  deriving Inhabited

/-- A node of a syntax tree. `missing` marks a token that the source lacks, `hasError` a node under
which something is wrong. -/
inductive Node
  | mk (kind : String) (isNamed : Bool) (field : Option String) (missing hasError : Bool)
      (span : Span) (children : List Node)
  deriving Inhabited

namespace Node

/-- The name of the kind. -/
def kind : Node → String
  | mk k _ _ _ _ _ _ => k

/-- Whether the node is more than a token written as it is named. -/
def isNamed : Node → Bool
  | mk _ n _ _ _ _ _ => n

/-- The field of its parent that the node fills. -/
def field : Node → Option String
  | mk _ _ f _ _ _ _ => f

/-- Whether the node stands for a token that the source lacks. -/
def missing : Node → Bool
  | mk _ _ _ m _ _ _ => m

/-- Whether something is wrong in the node or under it. -/
def hasError : Node → Bool
  | mk _ _ _ _ e _ _ => e

/-- What the node covers. -/
def span : Node → Span
  | mk _ _ _ _ _ s _ => s

/-- The children in order. -/
def children : Node → List Node
  | mk _ _ _ _ _ _ cs => cs

/-- The node as the filler of a field. -/
def inField (name : String) : Node → Node
  | mk k n _ m e s cs => mk k n (some name) m e s cs

/-- The node under another kind. -/
def withKind (kind : String) : Node → Node
  | mk _ n f m e s cs => mk kind n f m e s cs

/-- A comment. -/
def isComment (n : Node) : Bool :=
  n.kind == "comment"

/-- The first child in a field. -/
def child? (n : Node) (name : String) : Option Node :=
  n.children.find? fun c => c.field == some name

/-- The named children. -/
def namedChildren (n : Node) : List Node :=
  n.children.filter Node.isNamed

/-- The named children that are no comments. -/
def parts (n : Node) : List Node :=
  n.children.filter fun c => c.isNamed && !c.isComment

/-- Whether a child of this kind stands directly under the node. -/
def hasChild (n : Node) (kind : String) : Bool :=
  n.children.any fun c => c.kind == kind

end Node

end TestScribe.Syntax
