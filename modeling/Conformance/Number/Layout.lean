import Conformance.Number.Shortest

namespace Conformance
namespace Binary64

/-!
# How a number is laid out

The digits of a number come from `Binary64.shortest`.  A layout decides where
the decimal point goes, when an exponent is written instead of zeros, and how
whole numbers and special values look.  `dataLayout` is the layout of numbers
inside data; `plainLayout` is the layout of bounds inside messages and emitted
text.
-/

/-- The decisions of one number format. -/
structure Layout where
  /-- Whether a number whose decimal point stands after that many of its digits
  is written without an exponent. -/
  positional : Int → Bool
  /-- What follows the digits of a whole number. -/
  wholeSuffix : String
  /-- The text of infinity, without a sign. -/
  infinity : String
  /-- The text of `nan`. -/
  notANumber : String

/-- Numbers in data show that they are no integers: `3.0`, `-0.0`, `1e+300`.
Special values have no spelling there and are written as `null`. -/
def dataLayout : Layout where
  positional point := -5 < point && point ≤ 16
  wholeSuffix := ".0"
  infinity := "null"
  notANumber := "null"

/-- Bounds are written without an exponent and without a needless fraction. -/
def plainLayout : Layout where
  positional _ := true
  wholeSuffix := ""
  infinity := "inf"
  notANumber := "NaN"

/-- That many zeros. -/
def zeros (count : Int) : List Char :=
  List.replicate count.toNat '0'

/-- The digits of a decimal without trailing zeros, and how many digits stand
before its decimal point (zero or less when it starts with `0.0`). -/
def significantDigits (decimal : Decimal) : List Char × Int :=
  let all := Nat.toDigits 10 decimal.digits
  let kept := (all.reverse.dropWhile (· = '0')).reverse
  (kept, all.length + decimal.exponent)

/-- Digits with a decimal point after `point` of them. -/
def positionalText (layout : Layout) (digits : List Char) (point : Int) : List Char :=
  if point ≤ 0 then
    '0' :: '.' :: zeros (-point) ++ digits
  else if digits.length ≤ point then
    digits ++ zeros (point - digits.length) ++ layout.wholeSuffix.toList
  else
    digits.take point.toNat ++ '.' :: digits.drop point.toNat

/-- Digits with a decimal point after the first one, and a signed exponent. -/
def scientificText (digits : List Char) (point : Int) : List Char :=
  let exponent := point - 1
  let sign := if exponent < 0 then '-' else '+'
  let fraction := if digits.length ≤ 1 then [] else '.' :: digits.drop 1
  digits.take 1 ++ fraction ++ 'e' :: sign :: Nat.toDigits 10 exponent.natAbs

/-- The text of a magnitude. -/
def magnitudeText (layout : Layout) (units : Nat) : List Char :=
  if units = 0 then '0' :: layout.wholeSuffix.toList
  else
    let (digits, point) := significantDigits (shortest units)
    if layout.positional point then positionalText layout digits point
    else scientificText digits point

/-- The text of a number under a layout. -/
def format (layout : Layout) : Binary64 → String
  | .nan => layout.notANumber
  | .infinite negative =>
      if negative && layout.infinity ≠ "null" then "-" ++ layout.infinity else layout.infinity
  | .finite negative units =>
      let sign := if negative then ['-'] else []
      String.ofList (sign ++ magnitudeText layout units)

/-- The text of a bound: no exponent, no `.0`. -/
def plain (number : Binary64) : String :=
  number.format plainLayout

end Binary64
end Conformance
