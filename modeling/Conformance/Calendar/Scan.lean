import Conformance.Regex.Property.Word

namespace Conformance
namespace Calendar

/-!
# Scanning parts of a timestamp

Every scanner reads the beginning of a list of characters and answers what it
read and what is left, or fails.  Blank space is the blank space of all scripts.
-/

/-- What a scanner answers. -/
abbrev Scanned (α : Type) : Type := Option (α × List Char)

/-- Whether a character is blank. -/
def isBlank (c : Char) : Bool := Regex.blankRanges.contains c.toNat

/-- Drops blank space. -/
def skipBlanks (input : List Char) : List Char := input.dropWhile isBlank

/-- Reads blank space that has to be there. -/
def blanks? (input : List Char) : Option (List Char) :=
  match input with
  | c :: rest => if isBlank c then some (skipBlanks rest) else none
  | [] => none

/-- Reads one given character. -/
def char? (expected : Char) (input : List Char) : Option (List Char) :=
  match input with
  | c :: rest => if c = expected then some rest else none
  | [] => none

/-- The digits at the beginning, at most that many. -/
def leadingDigits : Nat → List Char → List Char
  | 0, _ => []
  | most + 1, c :: rest => if c.isDigit then c :: leadingDigits most rest else []
  | _ + 1, [] => []

/-- The number that decimal digits denote. -/
def decimalValue (digits : List Char) : Nat :=
  digits.foldl (fun value c => 10 * value + (c.toNat - '0'.toNat)) 0

/-- The largest number that is read. -/
def numberLimit : Nat := Nat.pow 2 63 - 1

/-- Reads a number of at least `least` and at most `most` digits. -/
def number? (least most : Nat) (input : List Char) : Scanned Nat :=
  let digits := leadingDigits most input
  if digits.length < least then none
  else
    let value := decimalValue digits
    if numberLimit < value then none else some (value, input.drop digits.length)

/-- Reads a number of at least `least` digits. -/
def longNumber? (least : Nat) (input : List Char) : Scanned Nat :=
  number? least input.length input

/-- Reads a number that lies between two others. -/
def numberBetween? (least most low high : Nat) (input : List Char) : Scanned Nat :=
  (number? least most input).bind fun (value, rest) =>
    if low ≤ value ∧ value ≤ high then some (value, rest) else none

/-- Reads a number of one or two digits between two others, after blank space
that may be missing. -/
def field? (low high : Nat) (input : List Char) : Scanned Nat :=
  numberBetween? 1 2 low high (skipBlanks input)

/-- Reads a year after blank space that may be missing: four digits at most, or
any number of digits after a sign. -/
def year? (input : List Char) : Scanned Int :=
  match skipBlanks input with
  | '-' :: rest => (longNumber? 1 rest).map fun (value, rest) => (-(value : Int), rest)
  | '+' :: rest => (longNumber? 1 rest).map fun (value, rest) => ((value : Int), rest)
  | start => (number? 1 4 start).map fun (value, rest) => ((value : Int), rest)

/-- Reads a fraction of a second, if there is one. -/
def fraction? (input : List Char) : Option (List Char) :=
  match input with
  | '.' :: rest => (number? 1 9 rest).map fun (_, rest) => rest.dropWhile Char.isDigit
  | _ => some input

/-- Reads two digits of the minutes of an offset. -/
def offsetMinutes? (input : List Char) : Scanned Nat :=
  numberBetween? 2 2 0 59 input

/-- Reads an offset from universal time in minutes: a sign, two digits of hours,
a colon if `colon` says so, and two digits of minutes.  `wideMinus` admits the
mathematical minus sign. -/
def offset? (colon wideMinus : Bool) (input : List Char) :
    Option (Int × List Char) := do
  let (negative, start) ←
    match input with
    | '+' :: rest => some (false, rest)
    | '-' :: rest => some (true, rest)
    | '−' :: rest => if wideMinus then some (true, rest) else none
    | _ => none
  let (hours, afterHours) ← number? 2 2 start
  let beforeMinutes ← if colon then char? ':' afterHours else some afterHours
  let (minutes, rest) ← offsetMinutes? beforeMinutes
  let total : Int := 60 * hours + minutes
  return (if negative then -total else total, rest)

end Calendar
end Conformance
