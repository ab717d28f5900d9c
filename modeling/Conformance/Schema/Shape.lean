import Conformance.Schema.Arena

namespace Conformance

/-!
# The tree of a schema

Walks over a schema do not follow numbers but a tree, the arena unfolded.
Because children come before their parents, the trees of all nodes are built in
one pass over the arena, each from trees that are built already; a node that is
shared in the arena is one object in memory, however often it occurs in a tree.

A tree keeps of every node what the node says, and whether it is the root of the
schema.
-/

/-- What a node says besides its form.  `isEntry` tells the root of the schema,
which can be given a name of its own when types are emitted. -/
structure Header where
  required : Bool
  nullable : Bool
  name : Option String
  rename : Option String
  isEntry : Bool
deriving DecidableEq, Repr

/-- The tree of a node. -/
inductive Shape where
  | node (header : Header) (form : Form Shape)

namespace Shape

/-- What the top node says. -/
def header : Shape → Header
  | .node header _ => header

/-- What the top node checks. -/
def form : Shape → Form Shape
  | .node _ form => form

/-- The tree that accepts everything.  It stands for a number without a node,
which no finished schema refers to. -/
def anything : Shape := .node ⟨false, true, none, none, false⟩ (.leaf .unknown)

/-- The variant of the top node. -/
def variant (shape : Shape) : Variant := .ofFlags shape.header.required shape.header.nullable

end Shape

/-- What a node of an arena says besides its form. -/
def Node.header (node : Node) (isEntry : Bool) : Header :=
  ⟨node.required, node.nullable, node.name, node.rename, isEntry⟩

namespace Schema

/-- Adds the tree of the next node to the trees of those before it. -/
def grow (root : NodeId) (shapes : Array Shape) (node : Node) : Array Shape :=
  let child (id : NodeId) : Shape := shapes[id]?.getD .anything
  shapes.push (.node (node.header (shapes.size == root)) (node.form.map child))

/-- The trees of all nodes. -/
def shapes (schema : Schema) : Array Shape :=
  schema.nodes.foldl (grow schema.root) #[]

/-- The tree of a node. -/
def shape (schema : Schema) (id : NodeId) : Shape :=
  schema.shapes[id]?.getD .anything

/-- The tree of the whole schema. -/
def rootShape (schema : Schema) : Shape := schema.shape schema.root

end Schema
end Conformance
