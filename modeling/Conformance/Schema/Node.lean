import Conformance.Schema.Leaf

namespace Conformance

/-!
# Nodes

A schema is a graph of nodes.  What a node checks is its form: a leaf, or one of
five composites.  The form is a functor in the type of its children, so that the
arena, where children are numbers, and the tree unfolded from it, where children
are trees, share one vocabulary.  Besides its form a node has two independent
flags for presence and two names for emitted types.
-/

/-- What a node checks, with children of any type. -/
inductive Form (Child : Type) where
  | leaf (leaf : Leaf)
  | object (fields : List (String × Child))
  | array (item : Child) (length : LengthBounds)
  | tuple (items : List Child)
  | record (value : Child) (keys : LengthBounds)
  | union (alternatives : List Child)
deriving DecidableEq

namespace Form

/-- The name of the kind of a form. -/
def kindName {Child : Type} : Form Child → String
  | .leaf scalar => scalar.kindName
  | .object _ => "object"
  | .array _ _ => "array"
  | .tuple _ => "tuple"
  | .record _ _ => "record"
  | .union _ => "union"

/-- The children in the order of a walk. -/
def children {Child : Type} : Form Child → List Child
  | .leaf _ => []
  | .object fields => fields.map Prod.snd
  | .array item _ => [item]
  | .tuple items => items
  | .record value _ => [value]
  | .union alternatives => alternatives

/-- Changes every child. -/
def map {Child Target : Type} (change : Child → Target) : Form Child → Form Target
  | .leaf scalar => .leaf scalar
  | .object fields => .object (fields.map fun (name, child) => (name, change child))
  | .array item length => .array (change item) length
  | .tuple items => .tuple (items.map change)
  | .record value keys => .record (change value) keys
  | .union alternatives => .union (alternatives.map change)

instance {Child : Type} [BEq Child] : BEq (Form Child) where
  beq
    | .leaf left, .leaf right => left == right
    | .object left, .object right => left == right
    | .array item length, .array item' length' => item == item' && length == length'
    | .tuple left, .tuple right => left == right
    | .record value keys, .record value' keys' => value == value' && keys == keys'
    | .union left, .union right => left == right
    | _, _ => false

end Form

/-- The four combinations of the two flags of presence. -/
inductive Variant where
  | required
  | optional
  | nullable
  | optionalNullable
deriving DecidableEq, Repr

namespace Variant

/-- The variant with two flags. -/
def ofFlags : Bool → Bool → Variant
  | true, false => .required
  | false, false => .optional
  | true, true => .nullable
  | false, true => .optionalNullable

/-- Whether the value must be there. -/
def isRequired : Variant → Bool
  | .required => true
  | .nullable => true
  | _ => false

/-- Whether null is accepted. -/
def isNullable : Variant → Bool
  | .nullable => true
  | .optionalNullable => true
  | _ => false

/-- The name of a variant. -/
def name : Variant → String
  | .required => "required"
  | .optional => "optional"
  | .nullable => "nullable"
  | .optionalNullable => "optional_nullable"

end Variant

/-- A number that stands for a node of an arena. -/
abbrev NodeId := Nat

/-- The name of a node in messages. -/
def NodeId.display (id : NodeId) : String := "node #" ++ toString id

/-- A node of an arena.  `name` is the declared name of its type, `rename` the
name of its variant where it is an alternative of a tagged union. -/
structure Node where
  form : Form NodeId
  required : Bool
  nullable : Bool
  name : Option String
  rename : Option String
deriving DecidableEq, BEq

namespace Node

/-- Whether nodes of a form are required unless something else is said.  A node
that describes the absence of a value is not. -/
def defaultRequired {Child : Type} : Form Child → Bool
  | .leaf .undefined => false
  | _ => true

/-- A node with the default flags and without names. -/
def ofForm (form : Form NodeId) : Node :=
  ⟨form, defaultRequired form, false, none, none⟩

/-- The variant of a node. -/
def variant (node : Node) : Variant := .ofFlags node.required node.nullable

/-- The node with other flags. -/
def withVariant (node : Node) (variant : Variant) : Node :=
  { node with required := variant.isRequired, nullable := variant.isNullable }

end Node
end Conformance
