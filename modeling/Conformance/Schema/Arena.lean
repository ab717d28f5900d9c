import Conformance.Schema.Error

namespace Conformance

/-!
# Arenas and schemas

A schema is authored in an arena: nodes are added one by one, and each is named
afterwards by its number.  Authoring never fails; identifiers may be wrong until
the arena is finished with one node as its root.  Finishing checks the nodes in
their order and reports the first offence, for each node its references before
the bounds, fields and alternatives of its own.

In a schema every child has a smaller number than its parent.  So a part of a
schema may be shared but never contains itself.
-/

/-- An arena in the making. -/
structure Arena where
  nodes : Array Node
deriving DecidableEq

namespace Arena

/-- An arena without nodes. -/
def empty : Arena := ⟨#[]⟩

/-- Adds a node and answers its number. -/
def push (arena : Arena) (node : Node) : Arena × NodeId :=
  (⟨arena.nodes.push node⟩, arena.nodes.size)

/-- Adds a node of a form. -/
def add (arena : Arena) (form : Form NodeId) : Arena × NodeId :=
  arena.push (.ofForm form)

/-- Adds a node that matches a pattern.  Nothing is added if the pattern is
malformed. -/
def addPattern (arena : Arena) (source : String) : Except SchemaError (Arena × NodeId) :=
  match Pattern.ofSource? source with
  | some pattern => .ok (arena.add (.leaf (.pattern pattern)))
  | none => .error (.invalidPattern source)

/-- Adds a copy of a node with other flags.  A number without a node is answered
back. -/
def addVariant (arena : Arena) (id : NodeId) (variant : Variant) : Arena × NodeId :=
  match arena.nodes[id]? with
  | some node => arena.push (node.withVariant variant)
  | none => (arena, id)

/-- Changes a node in place, if there is one. -/
def change (arena : Arena) (id : NodeId) (update : Node → Node) : Arena :=
  ⟨arena.nodes.modify id update⟩

/-- Declares the name of a node's type. -/
def setName (arena : Arena) (id : NodeId) (name : String) : Arena :=
  arena.change id fun node => { node with name := some name }

/-- Declares the name of a node as an alternative. -/
def setRename (arena : Arena) (id : NodeId) (rename : String) : Arena :=
  arena.change id fun node => { node with rename := some rename }

end Arena

/-- The first field name that stood before. -/
def repeatedName? (seen : List String) : List String → Option String
  | [] => none
  | name :: rest => if seen.contains name then some name else repeatedName? (name :: seen) rest

namespace Node

/-- Checks that the children of a node come before it in an arena of `size`
nodes. -/
def referenceError? (size : Nat) (id : NodeId) : List NodeId → Option SchemaError
  | [] => none
  | child :: rest =>
      if size ≤ child then some (.unknownNode child)
      else if id ≤ child then some (.forwardReference id child)
      else referenceError? size id rest

/-- Checks bounds of a length. -/
def lengthError? (id : NodeId) (bounds : LengthBounds) : Option SchemaError :=
  if bounds.max < bounds.min then some (.invertedLength id bounds) else none

/-- Checks a leaf on its own. -/
def leafError? (id : NodeId) : Leaf → Option SchemaError
  | .string length => lengthError? id length
  | .buffer length => lengthError? id length
  | .integer range => if range.max < range.min then some (.invertedIntegers id range) else none
  | .real range =>
      if range.min.isNaN || range.max.isNaN || range.max.lt range.min then
        some (.invertedReals id range)
      else none
  | _ => none

/-- Checks a node apart from its references. -/
def ownError? (id : NodeId) : Form NodeId → Option SchemaError
  | .leaf leaf => leafError? id leaf
  | .object fields => (repeatedName? [] (fields.map Prod.fst)).map (.repeatedField id)
  | .array _ length => lengthError? id length
  | .tuple _ => none
  | .record _ keys => lengthError? id keys
  | .union alternatives => if alternatives.isEmpty then some (.emptyUnion id) else none

/-- Checks a node in an arena of `size` nodes. -/
def error? (size : Nat) (id : NodeId) (node : Node) : Option SchemaError :=
  referenceError? size id node.form.children <|> ownError? id node.form

end Node

/-- The first error among nodes that are numbered from `id` on. -/
def nodesError? (size : Nat) (id : NodeId) : List Node → Option SchemaError
  | [] => none
  | node :: rest => node.error? size id <|> nodesError? size (id + 1) rest

/-- A finished schema: nodes without errors, and a root among them. -/
structure Schema where
  nodes : Array Node
  root : NodeId
  root_lt : root < nodes.size
  no_error : nodesError? nodes.size 0 nodes.toList = none

/-- Schemas are equal when their arenas are. -/
instance : BEq Schema where
  beq left right := left.nodes == right.nodes && left.root == right.root

/-- Finishes an arena. -/
def Arena.finish (arena : Arena) (root : NodeId) : Except SchemaError Schema :=
  if root_lt : root < arena.nodes.size then
    match no_error : nodesError? arena.nodes.size 0 arena.nodes.toList with
    | some error => .error error
    | none => .ok ⟨arena.nodes, root, root_lt, no_error⟩
  else .error (.unknownNode root)

namespace Schema

/-- The count of nodes. -/
def size (schema : Schema) : Nat := schema.nodes.size

/-- The node that stands for the schema. -/
def rootNode (schema : Schema) : Node :=
  have := schema.root_lt
  schema.nodes[schema.root]

end Schema
end Conformance
