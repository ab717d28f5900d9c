import Conformance.Calendar.Timestamp
import Conformance.Failure.Template

namespace Conformance

/-!
# Checks of leaves

A leaf reports one violation of a value at most: either the value has another
shape, or it has the shape and violates the bounds.  Each class of violations
has one template per leaf, so a violation carries nothing but its class and, for
templates that count, a count.
-/

/-- The classes of violations. -/
inductive ViolationClass where
  | wrongType
  | constraint
deriving DecidableEq, Repr

/-- A violation. -/
structure Violation where
  kind : ViolationClass
  found : Option Nat
deriving DecidableEq, Repr

namespace Violation

/-- The value has another shape. -/
def wrongType : Violation := ⟨.wrongType, none⟩

/-- The value violates bounds that count nothing. -/
def constraint : Violation := ⟨.constraint, none⟩

/-- The value has the wrong count of something. -/
def wrongCount (found : Nat) : Violation := ⟨.constraint, some found⟩

/-- A violation, unless a condition holds. -/
def refuteUnless (holds : Bool) (violation : Violation) : Option Violation :=
  if holds then none else some violation

theorem refuteUnless_eq_none {holds : Bool} {violation : Violation} :
    refuteUnless holds violation = none ↔ holds = true := by
  cases holds <;> simp [refuteUnless]

end Violation

namespace LeafCheck

open Violation

/-- Strings have a length in characters, which counts only where it is bounded. -/
def string? (length : LengthBounds) : Value → Option Violation
  | .text text =>
      if length.isUnbounded then none
      else refuteUnless (length.contains text.length) (wrongCount text.length)
  | _ => some wrongType

/-- Integers are numbers without a fractional part. -/
def integer? (range : IntegerRange) : Value → Option Violation
  | .number number =>
      if number.isIntegral then refuteUnless (range.contains number.toBinary64) constraint
      else some wrongType
  | _ => some wrongType

/-- Every number is a real. -/
def real? (range : RealRange) : Value → Option Violation
  | .number number => refuteUnless (range.contains number.toBinary64) constraint
  | _ => some wrongType

/-- Truth values. -/
def boolean? : Value → Option Violation
  | .boolean _ => none
  | _ => some wrongType

/-- Null. -/
def null? : Value → Option Violation
  | .null => none
  | _ => some wrongType

/-- A value that is there, null included, is not undefined. -/
def undefined? (_ : Value) : Option Violation := some wrongType

/-- Written dates. -/
def date? : Value → Option Violation
  | .text text => refuteUnless (Calendar.isWrittenDate text) wrongType
  | _ => some wrongType

/-- Written timestamps. -/
def timestamp? (format : TimestampFormat) : Value → Option Violation
  | .text text =>
      match format with
      | .rfc3339 => refuteUnless (Calendar.isStrictTimestamp text) wrongType
      | .lenient => refuteUnless (Calendar.isTimestamp text) wrongType
  | _ => some wrongType

/-- One given string. -/
def expected? (expected : String) : Value → Option Violation
  | .text text => refuteUnless (text = expected) wrongType
  | _ => some wrongType

/-- Strings in which a pattern matches somewhere. -/
def pattern? (pattern : Pattern) : Value → Option Violation
  | .text text => refuteUnless (pattern.isMatch text) constraint
  | _ => some wrongType

/-- Whether a value is a byte. -/
def isByte : Value → Bool
  | .number number => number.toWord?.any (· ≤ 255)
  | _ => false

/-- Lists of bytes. -/
def buffer? (length : LengthBounds) : Value → Option Violation
  | .list items =>
      if items.all isByte then refuteUnless (length.contains items.length) (wrongCount items.length)
      else some wrongType
  | _ => some wrongType

end LeafCheck

namespace Leaf

/-- The violation of a leaf by a value that is there. -/
def violation? (leaf : Leaf) (value : Value) : Option Violation :=
  match leaf with
  | .string length => LeafCheck.string? length value
  | .integer range => LeafCheck.integer? range value
  | .real range => LeafCheck.real? range value
  | .boolean => LeafCheck.boolean? value
  | .null => LeafCheck.null? value
  | .undefined => LeafCheck.undefined? value
  | .date => LeafCheck.date? value
  | .timestamp format => LeafCheck.timestamp? format value
  | .exact expected => LeafCheck.expected? expected value
  | .pattern expected => LeafCheck.pattern? expected value
  | .unknown => none
  | .buffer length => LeafCheck.buffer? length value

/-- The template of a class of violations.  There is none where the leaf never
reports that class. -/
def template? (leaf : Leaf) : ViolationClass → Option Template
  | .wrongType => Template.wrongType leaf
  | .constraint => Template.constraint leaf

end Leaf
end Conformance
