import Conformance.Number.Binary64

namespace Conformance
namespace Binary64

/-!
# The fewest digits that read back

A finite nonzero number is printed with the fewest decimal digits whose value
rounds to it again, and with the nearest such value if there are several.  A
decimal with `n` digits that rounds to the number lies on the grid of multiples
of a power of ten; if any point of that grid rounds to the number, one of the
two grid neighbours of the number does, so only those two are tested.
-/

/-- A positive decimal: `digits` is a whole number scaled by `10 ^ exponent`. -/
structure Decimal where
  digits : Nat
  exponent : Int
deriving DecidableEq, Repr

/-- The magnitudes that round to one finite number, as quarter units.  The ends
belong to the interval when the significand is even. -/
structure RoundingInterval where
  lower : Nat
  upper : Nat
  closed : Bool

/-- The interval of a positive count of units.  Below a power of two the
neighbouring numbers are twice as dense, except among the subnormal numbers. -/
def roundingInterval (units : Nat) : RoundingInterval :=
  let shift := units.log2 + 1 - 53
  let significand := units / Nat.pow 2 shift
  let gap := Nat.pow 2 shift
  let lowerGap := if significand = Nat.pow 2 52 ∧ 0 < shift then gap else 2 * gap
  ⟨4 * units - lowerGap, 4 * units + 2 * gap, significand % 2 = 0⟩

/-- Whether the fraction `numerator / denominator`, in quarter units, lies in
the interval. -/
def RoundingInterval.contains (interval : RoundingInterval)
    (numerator denominator : Nat) : Bool :=
  let low := interval.lower * denominator
  let high := interval.upper * denominator
  if interval.closed then low ≤ numerator && numerator ≤ high
  else low < numerator && numerator < high

/-- The exponent of the leading decimal digit of a positive count of units. -/
def leadingExponent (units : Nat) : Int :=
  let scaled := units * Nat.pow 10 400 / unitsPerOne
  ((Nat.toDigits 10 scaled).length : Int) - 401

/-- The better of the two neighbours of the number on the grid of multiples of
`10 ^ exponent`, if one of them rounds to the number. -/
def gridPoint? (units : Nat) (interval : RoundingInterval) (exponent : Int) : Option Nat :=
  let scale := if exponent < 0 then 1 else Nat.pow 10 exponent.toNat
  let divisor := if exponent < 0 then Nat.pow 10 (-exponent).toNat else 1
  -- The number is `units / unitsPerOne`; on the grid it is `numerator / denominator`.
  let numerator := units * divisor
  let denominator := unitsPerOne * scale
  let below := numerator / denominator
  let rest := numerator % denominator
  let fits (point : Nat) : Bool :=
    point ≠ 0 && interval.contains (4 * point * scale * unitsPerOne) divisor
  let preferBelow := 2 * rest < denominator || (2 * rest = denominator && below % 2 = 0)
  let first := if preferBelow then below else below + 1
  let second := if preferBelow then below + 1 else below
  if fits first then some first
  else if fits second then some second
  else none

/-- Tries ever finer grids until one holds a point that rounds to the number. -/
def shortestFrom (units : Nat) (interval : RoundingInterval) (exponent : Int) : Nat → Decimal
  | 0 => ⟨units, -1074⟩
  | grids + 1 =>
      match gridPoint? units interval exponent with
      | some point => ⟨point, exponent⟩
      | none => shortestFrom units interval (exponent - 1) grids

/-- The shortest decimal that rounds to a positive count of units.  Seventeen
digits always suffice. -/
def shortest (units : Nat) : Decimal :=
  shortestFrom units (roundingInterval units) (leadingExponent units) 18

end Binary64
end Conformance
