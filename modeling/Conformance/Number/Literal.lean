import Conformance.Number.Basic

namespace Conformance

/-!
# Reading decimal literals

A literal is the decimal text of a number, split into its parts.  Two readings
are given.  `Literal.nearest` is the binary64 number nearest to the decimal.
`Literal.wordScaled?` is the reading of numbers in JSON data: it collects digits
in a word of 64 bits, lets later digits count only as decimal places, and then
multiplies or divides by powers of ten in binary64.  The second reading rounds
more than once and can miss the nearest number, but it keeps every integer that
fits a word exactly.
-/

/-- A decimal literal: digits before and after the point, and a power of ten.
Digits are numbers below ten, the most significant first. -/
structure Literal where
  negative : Bool
  whole : List Nat
  fraction : Option (List Nat)
  exponent : Option (Bool × List Nat)
deriving DecidableEq, Repr

namespace Literal

/-- The number that a list of digits denotes. -/
def digitsValue (digits : List Nat) : Nat :=
  digits.foldl (fun value digit => 10 * value + digit) 0

/-- The binary64 number nearest to the literal. -/
def nearest (literal : Literal) : Binary64 :=
  let fraction := literal.fraction.getD []
  let significand := digitsValue (literal.whole ++ fraction)
  let shift : Int :=
    match literal.exponent with
    | none => 0
    | some (negative, digits) =>
        if negative then -(digitsValue digits : Int) else digitsValue digits
  let power : Int := shift - fraction.length
  if significand = 0 then .finite literal.negative 0
  else if 400 + (literal.whole.length + fraction.length) < power then .infinite literal.negative
  else if power < -(400 + (literal.whole.length + fraction.length : Nat) : Int) then
    .finite literal.negative 0
  else if power < 0 then
    .ofRatio literal.negative significand (Nat.pow 10 (-power).toNat)
  else
    .ofRatio literal.negative (significand * Nat.pow 10 power.toNat) 1

/-- The units of a power of ten, rounded to binary64. -/
def powerOfTenUnits (exponent : Nat) : Nat :=
  Binary64.roundUnits (Nat.pow 10 exponent * Binary64.unitsPerOne) 1

/-- The product with a power of ten, rounded to binary64. -/
def scaleUp (units exponent : Nat) : Nat :=
  Binary64.roundUnits (units * powerOfTenUnits exponent) Binary64.unitsPerOne

/-- The quotient by a power of ten, rounded to binary64. -/
def scaleDown (units exponent : Nat) : Nat :=
  Binary64.roundUnits (units * Binary64.unitsPerOne) (powerOfTenUnits exponent)

/-- The quotient by any power of ten.  No power above the 308th is a binary64
number, so a larger one is divided out in steps. -/
def divideByTens (units exponent : Nat) : Nat :=
  if exponent ≤ 308 then scaleDown units exponent
  else if units = 0 then 0
  else divideByTens (scaleDown units 308) (exponent - 308)
termination_by exponent

/-- A significand times a power of ten in binary64, or `none` when it is too
large. -/
def scaled? (negative : Bool) (significand : Nat) (exponent : Int) : Option Binary64 :=
  let units := Binary64.roundUnits (significand * Binary64.unitsPerOne) 1
  if exponent < 0 then
    some (.finite negative (divideByTens units (-exponent).toNat))
  else if exponent ≤ 308 then
    let product := scaleUp units exponent.toNat
    if Binary64.maxUnits < product then none else some (.finite negative product)
  else if units = 0 then some (.finite negative 0)
  else none

/-- Digits collected in a word, and how many of the remaining ones were left
out because the word was full. -/
structure Collected where
  significand : Nat
  skipped : Nat

/-- Collects digits until the next one would overflow the word. -/
def collect (significand : Nat) : List Nat → Collected
  | [] => ⟨significand, 0⟩
  | digit :: rest =>
      let next := 10 * significand + digit
      if Number.wordMax < next then ⟨significand, rest.length + 1⟩
      else collect next rest

/-- The largest power of ten that is counted exactly. -/
def exponentMax : Nat := Nat.pow 2 31 - 1

/-- The reading of numbers in JSON data.  `none` means that the number is too
large for binary64.  A negative zero is a real, because integers have one zero
only. -/
def wordScaled? (literal : Literal) : Option Number :=
  let whole := collect 0 literal.whole
  match literal.fraction, literal.exponent with
  | none, none =>
      if 0 < whole.skipped then
        (scaled? literal.negative whole.significand whole.skipped).map .real
      else if !literal.negative then
        some (.integer whole.significand)
      else if whole.significand = 0 || Nat.pow 2 63 < whole.significand then
        (scaled? true whole.significand 0).map .real
      else
        some (.integer (-whole.significand))
  | fraction, exponent =>
      let places := fraction.getD []
      let collected := collect whole.significand places
      let power : Int := whole.skipped - (places.length - collected.skipped : Nat)
      match exponent with
      | none => (scaled? literal.negative collected.significand power).map .real
      | some (negativePower, digits) =>
          let shift := digitsValue digits
          if exponentMax < shift then
            if collected.significand ≠ 0 && !negativePower then none
            else some (.real (.finite literal.negative 0))
          else
            let total := if negativePower then power - shift else power + shift
            (scaled? literal.negative collected.significand total).map .real

end Literal
end Conformance
