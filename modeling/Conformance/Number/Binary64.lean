namespace Conformance

/-!
# Binary64 numbers as exact integers

Every finite binary64 number is a whole multiple of `2 ^ -1074`, the least
positive one.  A finite number is therefore kept as its sign and the count of
those units, so comparing two numbers is comparing two integers and no step of
the library relies on hardware arithmetic.  The sign is kept beside the count
because zero has two signs, which print differently.

Rounding enters in one place, `roundUnits`: it keeps 53 significant bits of a
nonnegative quotient and sends a tie to the even neighbour.
-/

/-- A binary64 number.  `units` counts multiples of `2 ^ -1074`. -/
inductive Binary64 where
  | nan
  | infinite (negative : Bool)
  | finite (negative : Bool) (units : Nat)
deriving DecidableEq, Repr

namespace Binary64

/-- The count of units in the number one. -/
def unitsPerOne : Nat := Nat.pow 2 1074

/-- The magnitude of the largest finite number. -/
def maxUnits : Nat := (Nat.pow 2 53 - 1) * Nat.pow 2 2045

/-- The count of units nearest to `numerator / denominator`, among those with
at most 53 significant bits; a tie goes to the even significand. -/
def roundUnits (numerator denominator : Nat) : Nat :=
  let whole := numerator / denominator
  let shift := whole.log2 + 1 - 53
  let step := Nat.pow 2 shift * denominator
  let quotient := numerator / step
  let rest := numerator % step
  let significand :=
    if 2 * rest < step then quotient
    else if 2 * rest > step then quotient + 1
    else if quotient % 2 = 0 then quotient
    else quotient + 1
  significand * Nat.pow 2 shift

/-- A magnitude beyond the largest finite one is infinite. -/
def ofUnits (negative : Bool) (units : Nat) : Binary64 :=
  if maxUnits < units then .infinite negative else .finite negative units

/-- The number nearest to `numerator / denominator`. -/
def ofRatio (negative : Bool) (numerator denominator : Nat) : Binary64 :=
  ofUnits negative (roundUnits (numerator * unitsPerOne) denominator)

/-- The number nearest to an integer. -/
def ofInt (value : Int) : Binary64 :=
  ofRatio (value < 0) value.natAbs 1

/-- The count of units with the sign of the number. -/
def signedUnits (negative : Bool) (units : Nat) : Int :=
  if negative then -units else units

/-- The order of the extended real line.  No comparison with `nan` holds, and
the two zeros are equal. -/
def le : Binary64 → Binary64 → Bool
  | .nan, _ => false
  | _, .nan => false
  | .infinite true, _ => true
  | _, .infinite false => true
  | .infinite false, _ => false
  | _, .infinite true => false
  | .finite negative units, .finite negative' units' =>
      signedUnits negative units ≤ signedUnits negative' units'

/-- The strict order of the extended real line. -/
def lt (left right : Binary64) : Bool :=
  le left right && !le right left

/-- Numeric equality: `nan` differs from itself and the two zeros agree. -/
instance : BEq Binary64 where
  beq left right := le left right && le right left

/-- Whether a number is neither infinite nor `nan`. -/
def isFinite : Binary64 → Bool
  | .finite _ _ => true
  | _ => false

/-- Whether a number is `nan`. -/
def isNaN : Binary64 → Bool
  | .nan => true
  | _ => false

/-- Whether a number is finite and has no fractional part. -/
def isIntegral : Binary64 → Bool
  | .finite _ units => units % unitsPerOne = 0
  | _ => false

end Binary64

end Conformance
