import Conformance.Value

namespace Conformance

/-!
# Failures

A check answers a list of failures; an empty list is acceptance.  A failure has
a kind from a closed list, a message, the value it is about (none if the value
is absent) and the path to it.
-/

/-- The kinds of failures. -/
inductive FailureKind where
  | required
  | notString
  | notInteger
  | notFloat
  | notBoolean
  | notNull
  | notUndefined
  | notDate
  | notArray
  | notObject
  | notBuffer
  | wrongLength
  | outOfRange
  | notExactMatch
  | doesNotMatchPattern
  | notRfc3339
  | notRecognizedTimestamp
  | compositeMismatch
deriving DecidableEq, Repr

namespace FailureKind

/-- The name of a kind. -/
def name : FailureKind → String
  | .required => "required"
  | .notString => "not_string"
  | .notInteger => "not_integer"
  | .notFloat => "not_float"
  | .notBoolean => "not_boolean"
  | .notNull => "not_null"
  | .notUndefined => "not_undefined"
  | .notDate => "not_date"
  | .notArray => "not_array"
  | .notObject => "not_object"
  | .notBuffer => "not_buffer"
  | .wrongLength => "wrong_length"
  | .outOfRange => "out_of_range"
  | .notExactMatch => "not_exact_match"
  | .doesNotMatchPattern => "does_not_match_pattern"
  | .notRfc3339 => "not_rfc3339"
  | .notRecognizedTimestamp => "not_recognized_timestamp"
  | .compositeMismatch => "composite_mismatch"

/-- Whether a kind says that the value has another shape altogether. -/
def isWrongType : FailureKind → Bool
  | .notString | .notInteger | .notFloat | .notBoolean | .notNull | .notUndefined
  | .notDate | .notArray | .notObject | .notBuffer => true
  | _ => false

end FailureKind

/-- A failure. -/
structure Failure where
  kind : FailureKind
  message : String
  value : Option Value
  path : String

namespace Failure

instance : BEq Failure where
  beq left right :=
    left.kind == right.kind && left.message == right.message &&
      left.value == right.value && left.path == right.path

/-- A failure in one line. -/
def display (failure : Failure) : String :=
  let place := if failure.path.isEmpty then "" else failure.path ++ ": "
  place ++ failure.message ++ " [" ++ failure.kind.name ++ "]"

/-- The lines of a numbered list of failures, the first with the given number. -/
def numbered (number : Nat) : List Failure → String
  | [] => ""
  | failure :: rest =>
      "  " ++ toString number ++ ". " ++ failure.display ++ "\n" ++ numbered (number + 1) rest

/-- All failures of a check in one text. -/
def summary : List Failure → String
  | [] => "No validation failures"
  | [only] => "Validation failed: " ++ only.display
  | failures => toString failures.length ++ " validation failures:\n" ++ numbered 1 failures

end Failure
end Conformance
