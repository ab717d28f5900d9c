import Conformance.Schema.Bounds
import Conformance.Schema.Pattern

namespace Conformance

/-!
# Leaves

A leaf is a part of a schema without children.  It describes the shape of a
single value, together with the bounds that belong to that shape.
-/

/-- The notations that a timestamp may have. -/
inductive TimestampFormat where
  | rfc3339
  | lenient
deriving DecidableEq, Repr

/-- The name of a notation. -/
def TimestampFormat.name : TimestampFormat → String
  | .rfc3339 => "rfc3339"
  | .lenient => "lenient"

/-- A part of a schema without children.  A buffer is a list of bytes. -/
inductive Leaf where
  | string (length : LengthBounds)
  | integer (range : IntegerRange)
  | real (range : RealRange)
  | boolean
  | null
  | undefined
  | date
  | timestamp (format : TimestampFormat)
  | exact (expected : String)
  | pattern (pattern : Pattern)
  | unknown
  | buffer (length : LengthBounds)
deriving DecidableEq

namespace Leaf

/-- The name of the kind of a leaf. -/
def kindName : Leaf → String
  | .string _ => "string"
  | .integer _ => "integer"
  | .real _ => "float"
  | .boolean => "boolean"
  | .null => "null"
  | .undefined => "undefined"
  | .date => "date"
  | .timestamp _ => "datetime"
  | .exact _ => "exact string"
  | .pattern _ => "regex"
  | .unknown => "unknown"
  | .buffer _ => "buffer"

/-- Whether a leaf decides itself what null means. -/
def inspectsNull : Leaf → Bool
  | .null => true
  | .undefined => true
  | .unknown => true
  | _ => false

/-- Equality of leaves, with the numeric equality of real bounds. -/
instance : BEq Leaf where
  beq
    | .real left, .real right => left == right
    | left, right => decide (left = right)

end Leaf
end Conformance
