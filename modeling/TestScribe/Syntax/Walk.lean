import TestScribe.Syntax.Node

/-!
# Walking a tree

`Node.visits` lists all nodes of a tree in document order, each with its parent and with the
siblings that stand before it, nearest first.
-/

namespace TestScribe.Syntax

/-- A node met on a walk, with its surroundings. -/
structure Visit where
  node : Node
  parent : Option Node
  before : List Node

namespace Node

mutual

/-- The visits of a node and of everything under it. -/
def visitsIn (parent : Option Node) (before : List Node) : Node → List Visit
  | mk k n f m e s cs =>
    { node := mk k n f m e s cs, parent, before } :: visitsAll (mk k n f m e s cs) [] cs

/-- The visits of a row of siblings, those in `before` standing in front of them. -/
def visitsAll (parent : Node) (before : List Node) : List Node → List Visit
  | [] => []
  | c :: cs => visitsIn (some parent) before c ++ visitsAll parent (c :: before) cs

end

/-- The visits of a tree in document order. -/
def visits (root : Node) : List Visit :=
  visitsIn none [] root

/-- The nodes of a tree in document order. -/
def nodes (root : Node) : List Node :=
  root.visits.map Visit.node

/-- The nodes of a kind in document order. -/
def ofKind (root : Node) (kind : String) : List Node :=
  root.nodes.filter fun n => n.kind == kind

end Node

end TestScribe.Syntax
