import Conformance.Failure.Basic
import Conformance.Schema.Leaf

namespace Conformance

/-!
# Failure templates

A template fixes the kind and the message of a failure before a value is seen.
Some templates count: the number of things that were found is added to their
message.  A program keeps every template it needs once.
-/

/-- A failure before its value and path are known. -/
structure Template where
  kind : FailureKind
  message : String
  counts : Bool
deriving DecidableEq, Repr

namespace Template

/-- A template that does not count. -/
def plain (kind : FailureKind) (message : String) : Template := ⟨kind, message, false⟩

/-- A template that counts. -/
def counted (kind : FailureKind) (message : String) : Template := ⟨kind, message, true⟩

/-- The message, with the count of what was found. -/
def render (template : Template) (found : Option Nat) : String :=
  match found with
  | some count =>
      if template.counts then template.message ++ " (found " ++ toString count ++ ")"
      else template.message
  | none => template.message

/-- A value is missing. -/
def required : Template := plain .required "Is required"

/-- A value is no record. -/
def notObject : Template := plain .notObject "Must be an object"

/-- A value is no list. -/
def notArray : Template := plain .notArray "Must be an array"

/-- The count of some unit is out of bounds. -/
def length (bounds : LengthBounds) (unit : String) : Template :=
  let phrase? :=
    if bounds.min = bounds.max then some ("exactly " ++ toString bounds.min) else bounds.phrase?
  let message :=
    match phrase? with
    | some phrase => "Must contain " ++ phrase ++ " " ++ unit
    | none => "Must contain a valid number of " ++ unit
  counted .wrongLength message

/-- A list has another length than a tuple. -/
def tupleArity (arity : Nat) : Template :=
  let unit := if arity = 1 then "item" else "items"
  counted .compositeMismatch ("Must contain exactly " ++ toString arity ++ " " ++ unit)

/-- No alternative accepts a value. -/
def unionMismatch (alternatives : Nat) : Template :=
  plain .compositeMismatch ("Must match one of " ++ toString alternatives ++ " alternatives")

/-- A value has another shape than a leaf.  Every leaf but the unknown one can
say so. -/
def wrongType : Leaf → Option Template
  | .string _ => some (plain .notString "Must be a string")
  | .pattern _ => some (plain .notString "Must be a string")
  | .integer _ => some (plain .notInteger "Must be an integer")
  | .real _ => some (plain .notFloat "Must be a float")
  | .boolean => some (plain .notBoolean "Must be a boolean")
  | .null => some (plain .notNull "Must be null")
  | .undefined => some (plain .notUndefined "Must be undefined")
  | .date => some (plain .notDate "Must be a date (YYYY-MM-DD)")
  | .timestamp .rfc3339 => some (plain .notRfc3339 "Must be an RFC 3339 timestamp")
  | .timestamp .lenient =>
      some (plain .notRecognizedTimestamp "Must be a recognized timestamp")
  | .exact expected =>
      some (plain .notExactMatch ("Must strictly equal \"" ++ expected ++ "\""))
  | .buffer _ => some (plain .notBuffer "Must be a byte buffer")
  | .unknown => none

/-- A value has the shape of a leaf but violates its bounds. -/
def constraint : Leaf → Option Template
  | .string bounds => some (length bounds "characters")
  | .buffer bounds => some (length bounds "bytes")
  | .integer range =>
      some (plain .outOfRange
        (match range.phrase? with
        | some phrase => "Must be an integer " ++ phrase
        | none => "Must be a safe integer"))
  | .real range =>
      some (plain .outOfRange
        (match range.phrase? with
        | some phrase => "Must be a float " ++ phrase
        | none => "Must be a float within the safe integer range"))
  | .pattern pattern =>
      some (plain .doesNotMatchPattern ("Must match pattern /" ++ pattern.source ++ "/"))
  | _ => none

end Template
end Conformance
