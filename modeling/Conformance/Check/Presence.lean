import Conformance.Schema.Shape
import Conformance.Value

namespace Conformance

/-!
# Presence

Before a value reaches the checks of a node it passes a gate.  The gate looks at
the two flags of the node, at whether there is a value at all and whether it is
null.  Null usually counts as no value.  Some nodes describe null themselves and
have to see it; the third flag of the gate marks them.
-/

/-- What the gate of a node decides. -/
inductive Presence where
  | check
  | skip
  | missing
deriving DecidableEq, Repr

namespace Presence

/-- The name of a decision. -/
def name : Presence → String
  | .check => "check"
  | .skip => "skip"
  | .missing => "missing"

end Presence

/-- The decision about a value. -/
def presence (required nullable nullIsValue : Bool) : Option Value → Presence
  | none => if required then .missing else .skip
  | some .null =>
      if nullable then .skip
      else if nullIsValue then .check
      else if required then .missing
      else .skip
  | some _ => .check

mutual

/-- Whether a node has to see null: a leaf that describes null, or a union with
an alternative that accepts null or has to see it. -/
def Shape.nullIsValue : Shape → Bool
  | .node _ form => Form.nullIsValue form

/-- Whether a node of some form has to see null. -/
def Form.nullIsValue : Form Shape → Bool
  | .leaf scalar => scalar.inspectsNull
  | .union alternatives => alternativesTakeNull alternatives
  | .object _ | .array _ _ | .tuple _ | .record _ _ => false

/-- Whether one of some alternatives accepts null or has to see it. -/
def alternativesTakeNull : List Shape → Bool
  | [] => false
  | alternative :: rest =>
      alternative.header.nullable || alternative.nullIsValue || alternativesTakeNull rest

end
end Conformance
