import Conformance.Number.Basic

namespace Conformance

/-!
# Bounds

Lengths, integers and reals can be bounded from below and above, both ends
included.  The largest integers that binary64 represents without gaps stand for
the absence of a bound, and a least length of zero is no bound.  The side that
binds nothing is left out of the phrase that describes the bounds in messages.
-/

/-- The least integer up to which binary64 represents all integers. -/
def minSafeInteger : Int := -9007199254740991

/-- The largest integer up to which binary64 represents all integers. -/
def maxSafeInteger : Int := 9007199254740991

/-- The largest length that is bounded by nothing. -/
def maxSafeLength : Nat := 9007199254740991

/-- The phrase for two bounds of which each may be missing. -/
def boundsPhrase? : Option String → Option String → Option String
  | some lower, some upper => some ("between " ++ lower ++ " and " ++ upper)
  | some lower, none => some ("at least " ++ lower)
  | none, some upper => some ("at most " ++ upper)
  | none, none => none

/-- Bounds of a count of characters, bytes, items or keys. -/
structure LengthBounds where
  min : Nat
  max : Nat
deriving DecidableEq, Repr

namespace LengthBounds

/-- No bounds. -/
def unbounded : LengthBounds := ⟨0, maxSafeLength⟩

/-- Bounds of which each may be missing. -/
def ofOptions (min max : Option Nat) : LengthBounds :=
  ⟨min.getD unbounded.min, max.getD unbounded.max⟩

/-- The lower bound, if it binds. -/
def lower? (bounds : LengthBounds) : Option Nat :=
  if 0 < bounds.min then some bounds.min else none

/-- The upper bound, if it binds. -/
def upper? (bounds : LengthBounds) : Option Nat :=
  if bounds.max < maxSafeLength then some bounds.max else none

/-- Whether neither side binds. -/
def isUnbounded (bounds : LengthBounds) : Bool :=
  bounds.lower?.isNone && bounds.upper?.isNone

/-- Whether a length lies within the bounds. -/
def contains (bounds : LengthBounds) (length : Nat) : Bool :=
  bounds.min ≤ length && length ≤ bounds.max

/-- The bounds in words. -/
def phrase? (bounds : LengthBounds) : Option String :=
  boundsPhrase? (bounds.lower?.map toString) (bounds.upper?.map toString)

end LengthBounds

/-- Bounds of an integer. -/
structure IntegerRange where
  min : Int
  max : Int
deriving DecidableEq, Repr

namespace IntegerRange

/-- No bounds. -/
def unbounded : IntegerRange := ⟨minSafeInteger, maxSafeInteger⟩

/-- Bounds of which each may be missing. -/
def ofOptions (min max : Option Int) : IntegerRange :=
  ⟨min.getD unbounded.min, max.getD unbounded.max⟩

/-- The lower bound, if it binds. -/
def lower? (range : IntegerRange) : Option Int :=
  if minSafeInteger < range.min then some range.min else none

/-- The upper bound, if it binds. -/
def upper? (range : IntegerRange) : Option Int :=
  if range.max < maxSafeInteger then some range.max else none

/-- Whether neither side binds. -/
def isUnbounded (range : IntegerRange) : Bool :=
  range.lower?.isNone && range.upper?.isNone

/-- Whether a number lies within the range, the ends being rounded to binary64
first. -/
def contains (range : IntegerRange) (number : Binary64) : Bool :=
  (Binary64.ofInt range.min).le number && number.le (Binary64.ofInt range.max)

/-- The range in words. -/
def phrase? (range : IntegerRange) : Option String :=
  boundsPhrase? (range.lower?.map toString) (range.upper?.map toString)

end IntegerRange

/-- Bounds of a real number. -/
structure RealRange where
  min : Binary64
  max : Binary64
deriving DecidableEq, Repr

namespace RealRange

/-- No bounds. -/
def unbounded : RealRange := ⟨.ofInt minSafeInteger, .ofInt maxSafeInteger⟩

/-- Bounds of which each may be missing. -/
def ofOptions (min max : Option Binary64) : RealRange :=
  ⟨min.getD unbounded.min, max.getD unbounded.max⟩

/-- The lower bound, if it binds. -/
def lower? (range : RealRange) : Option Binary64 :=
  if Binary64.lt unbounded.min range.min then some range.min else none

/-- The upper bound, if it binds. -/
def upper? (range : RealRange) : Option Binary64 :=
  if range.max.lt unbounded.max then some range.max else none

/-- Whether neither side binds. -/
def isUnbounded (range : RealRange) : Bool :=
  range.lower?.isNone && range.upper?.isNone

/-- Whether a number lies within the range. -/
def contains (range : RealRange) (number : Binary64) : Bool :=
  range.min.le number && number.le range.max

/-- The range in words. -/
def phrase? (range : RealRange) : Option String :=
  boundsPhrase? (range.lower?.map Binary64.plain) (range.upper?.map Binary64.plain)

/-- Numeric equality of both ends. -/
instance : BEq RealRange where
  beq left right := left.min == right.min && left.max == right.max

end RealRange
end Conformance
