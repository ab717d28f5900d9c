import Conformance.Schema.Node

namespace Conformance

/-!
# What can be wrong with a schema

Every error is a cause; `SchemaError.message` is the only place where it is put
into words.  The two ends of inverted bounds are kept as the texts in which the
message shows them, since lengths, integers and reals can all be inverted.
-/

/-- Why a schema cannot be made. -/
inductive SchemaError where
  | invalidPattern (source : String)
  | invertedLength (node : NodeId) (bounds : LengthBounds)
  | invertedIntegers (node : NodeId) (range : IntegerRange)
  | invertedReals (node : NodeId) (range : RealRange)
  | forwardReference (node child : NodeId)
  | repeatedField (node : NodeId) (name : String)
  | emptyUnion (node : NodeId)
  | unknownNode (node : NodeId)
  | document
deriving DecidableEq

namespace SchemaError

/-- The text about inverted bounds of a node. -/
def invertedMessage (node : NodeId) (subject min max : String) : String :=
  "Invalid bounds on " ++ node.display ++ ": " ++ subject ++ " " ++ min ++
    " exceeds maximum " ++ max

/-- The text of an error. -/
def message : SchemaError → String
  | .invalidPattern source => "Invalid pattern '" ++ source ++ "'"
  | .invertedLength node bounds =>
      invertedMessage node "minimum length" (toString bounds.min) (toString bounds.max)
  | .invertedIntegers node range =>
      invertedMessage node "minimum" (toString range.min) (toString range.max)
  | .invertedReals node range =>
      invertedMessage node "minimum" range.min.plain range.max.plain
  | .forwardReference node child =>
      "Invalid schema: " ++ node.display ++ " refers to " ++ child.display ++
        " which was declared after it"
  | .repeatedField node name =>
      "Invalid schema: " ++ node.display ++ " declares field '" ++ name ++ "' twice"
  | .emptyUnion node => "Invalid schema: " ++ node.display ++ " is a union without alternatives"
  | .unknownNode node => "Unknown node: " ++ node.display
  | .document => "Schema document error"

end SchemaError
end Conformance
