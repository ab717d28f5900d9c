import Conformance.Number.Layout

namespace Conformance

/-!
# Numbers of a data value

A number in a value is either an integer or a binary64 number.  Integers are
those that fit a signed or an unsigned word of 64 bits; every other number is
kept in binary64.  The two kinds print differently (`3` and `3.0`), and the
difference is part of the value.
-/

/-- A number of a data value. -/
inductive Number where
  | integer (value : Int)
  | real (value : Binary64)
deriving DecidableEq, Repr

namespace Number

/-- The largest unsigned word. -/
def wordMax : Nat := Nat.pow 2 64 - 1

/-- The least signed word. -/
def signedMin : Int := -Int.pow 2 63

/-- The largest signed word. -/
def signedMax : Int := Int.pow 2 63 - 1

/-- The binary64 number nearest to a number. -/
def toBinary64 : Number → Binary64
  | .integer value => .ofInt value
  | .real value => value

/-- Whether a number has no fractional part.  Every integer has none. -/
def isIntegral : Number → Bool
  | .integer _ => true
  | .real value => value.isIntegral

/-- The number as an unsigned word.  A real is never one, even if it is whole. -/
def toWord? : Number → Option Nat
  | .integer value => if 0 ≤ value ∧ value ≤ wordMax then some value.toNat else none
  | .real _ => none

/-- Integers are compared exactly, reals numerically, and an integer never
equals a real. -/
instance : BEq Number where
  beq
    | .integer left, .integer right => left == right
    | .real left, .real right => left == right
    | _, _ => false

/-- The text of a number inside data. -/
def text : Number → String
  | .integer value => toString value
  | .real value => value.format Binary64.dataLayout

end Number
end Conformance
