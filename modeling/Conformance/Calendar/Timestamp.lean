import Conformance.Calendar.Date
import Conformance.Calendar.Scan

namespace Conformance
namespace Calendar

/-!
# Written dates and timestamps

Four notations are recognized.  A plain date is ten bytes long.  The strict
notation of timestamps is that of RFC 3339: fixed widths, and an offset from
universal time.  The other two are looser: mail dates as in RFC 2822, and a date
and a time of day without an offset, whose fields may be preceded by blanks.
A second may be the 60th in all of them, for leap seconds.
-/

/-- Reads a date whose fields may be preceded by blanks. -/
def looseDate? (input : List Char) : Option (Date × List Char) := do
  let (year, afterYear) ← year? input
  let (month, afterMonth) ← field? 1 12 (← char? '-' afterYear)
  let (day, rest) ← field? 1 31 (← char? '-' afterMonth)
  let date ← Date.ofNumbers? year month day
  return (date, rest)

/-- Whether a text is a date of ten bytes. -/
def isWrittenDate (text : String) : Bool :=
  text.utf8ByteSize = 10 &&
    match looseDate? text.toList with
    | some (_, []) => true
    | _ => false

/-- Reads a time of day whose fields may be preceded by blanks. -/
def looseTime? (input : List Char) : Option (List Char) := do
  let (_, afterHour) ← field? 0 23 input
  let (_, afterMinute) ← field? 0 59 (← char? ':' afterHour)
  let (_, afterSecond) ← field? 0 60 (← char? ':' afterMinute)
  fraction? afterSecond

/-- Whether a text is a date and a time of day, with the letter `T` or with
blanks between them. -/
def isLocalTimestamp (text : String) : Bool :=
  match looseDate? text.toList with
  | none => false
  | some (_, afterDate) =>
      looseTime? (skipBlanks afterDate) = some [] ||
        (char? 'T' afterDate).bind looseTime? = some []

/-- The largest offset of the strict notation, in minutes. -/
def offsetLimit : Int := 23 * 60 + 59

/-- Reads the offset of the strict notation. -/
def strictOffset? (input : List Char) : Option (List Char) :=
  match input with
  | 'Z' :: rest => some rest
  | 'z' :: rest => some rest
  | _ => do
      let (minutes, rest) ← offset? true true input
      if -offsetLimit ≤ minutes ∧ minutes ≤ offsetLimit then some rest else none

/-- Reads the mark between the date and the time of the strict notation. -/
def dateTimeMark? (input : List Char) : Option (List Char) :=
  match input with
  | 'T' :: rest => some rest
  | 't' :: rest => some rest
  | ' ' :: rest => some rest
  | _ => none

/-- Reads a timestamp in the strict notation. -/
def strictTimestamp? (input : List Char) : Option (List Char) := do
  let (year, afterYear) ← number? 4 4 input
  let (month, afterMonth) ← numberBetween? 2 2 1 12 (← char? '-' afterYear)
  let (day, afterDay) ← numberBetween? 2 2 1 31 (← char? '-' afterMonth)
  let (_, afterHour) ← numberBetween? 2 2 0 23 (← dateTimeMark? afterDay)
  let (_, afterMinute) ← numberBetween? 2 2 0 59 (← char? ':' afterHour)
  let (_, afterSecond) ← numberBetween? 2 2 0 60 (← char? ':' afterMinute)
  let afterFraction ← fraction? afterSecond
  let rest ← strictOffset? afterFraction
  let _ ← Date.ofNumbers? year month day
  return rest

/-- Whether a text is a timestamp in the strict notation. -/
def isStrictTimestamp (text : String) : Bool :=
  strictTimestamp? text.toList = some []

/-! ## Mail dates -/

/-- The first three letters of a text in lowercase, and what follows. -/
def threeLetters? (input : List Char) : Scanned String :=
  match input with
  | first :: second :: third :: rest =>
      some (String.ofList [first.toLower, second.toLower, third.toLower], rest)
  | _ => none

/-- The weekday with a short name. -/
def weekday? (name : String) : Option Weekday :=
  match name with
  | "mon" => some .monday
  | "tue" => some .tuesday
  | "wed" => some .wednesday
  | "thu" => some .thursday
  | "fri" => some .friday
  | "sat" => some .saturday
  | "sun" => some .sunday
  | _ => none

/-- The month with a short name. -/
def month? (name : String) : Option Nat :=
  match name with
  | "jan" => some 1
  | "feb" => some 2
  | "mar" => some 3
  | "apr" => some 4
  | "may" => some 5
  | "jun" => some 6
  | "jul" => some 7
  | "aug" => some 8
  | "sep" => some 9
  | "oct" => some 10
  | "nov" => some 11
  | "dec" => some 12
  | _ => none

/-- Reads the weekday that a mail date may begin with, and the comma after it. -/
def mailWeekday? (input : List Char) : Scanned (Option Weekday) :=
  match (threeLetters? input).bind fun (name, rest) => (weekday? name).map (·, rest) with
  | some (weekday, rest) => (char? ',' rest).map (some weekday, ·)
  | none => some (none, input)

/-- The year that the digits of a mail date mean.  Two digits are years from
1950 to 2049, three digits count from 1900. -/
def mailYear (digits value : Nat) : Int :=
  if digits = 2 then (if value ≤ 49 then value + 2000 else value + 1900)
  else if digits = 3 then value + 1900
  else value

/-- Whether letters name a time zone of mail dates.  Except for `J`, a single
letter is a military zone. -/
def isMailZone (letters : List Char) : Bool :=
  let name := String.ofList (letters.map Char.toLower)
  ["gmt", "ut", "edt", "est", "cdt", "cst", "mdt", "mst", "pdt", "pst"].contains name ||
    (letters.length = 1 && name ≠ "j")

/-- Reads the zone of a mail date. -/
def mailZone? (input : List Char) : Option (List Char) :=
  let letters := input.takeWhile Char.isAlpha
  if letters = [] then
    (offset? false false input).bind fun (minutes, rest) =>
      if -1440 < minutes ∧ minutes < 1440 then some rest else none
  else if isMailZone letters then some (input.drop letters.length)
  else none

/-- Reads the rest of a comment in parentheses, `depth` of them being open. -/
def commentEnd? : Nat → Bool → List Char → Option (List Char)
  | _, _, [] => none
  | depth, true, _ :: rest => commentEnd? depth false rest
  | depth, false, c :: rest =>
      if c = '\\' then commentEnd? depth true rest
      else if c = '(' then commentEnd? (depth + 1) false rest
      else if c = ')' then
        if depth = 1 then some rest else commentEnd? (depth - 1) false rest
      else commentEnd? depth false rest

/-- Drops comments at the end of a mail date, with the blanks before them.  The
bound is the length of the text. -/
def dropComments : Nat → List Char → List Char
  | 0, input => input
  | fuel + 1, input =>
      match skipBlanks input with
      | '(' :: rest =>
          match commentEnd? 1 false rest with
          | some after => dropComments fuel after
          | none => input
      | _ => input

/-- Reads the seconds of a mail date, which may be missing. -/
def mailSeconds? (input : List Char) : Option (List Char) :=
  match char? ':' (skipBlanks input) with
  | some rest => (numberBetween? 2 2 0 60 rest).map fun (_, rest) => rest
  | none => some input

/-- Reads a mail date. -/
def mailTimestamp? (input : List Char) : Option (List Char) := do
  let (weekday, afterWeekday) ← mailWeekday? (skipBlanks input)
  let (day, afterDay) ← numberBetween? 1 2 1 31 (skipBlanks afterWeekday)
  let (name, afterMonth) ← threeLetters? (← blanks? afterDay)
  let month ← month? name
  let beforeYear ← blanks? afterMonth
  let (value, afterYear) ← longNumber? 2 beforeYear
  let year := mailYear (beforeYear.length - afterYear.length) value
  let (_, afterHour) ← numberBetween? 2 2 0 23 (← blanks? afterYear)
  let beforeMinute ← char? ':' (skipBlanks afterHour)
  let (_, afterMinute) ← numberBetween? 2 2 0 59 (skipBlanks beforeMinute)
  let afterSecond ← mailSeconds? afterMinute
  let rest ← mailZone? (← blanks? afterSecond)
  let date ← Date.ofNumbers? year month day
  if weekday.all (· = date.weekday) then return dropComments rest.length rest else none

/-- Whether a text is a mail date. -/
def isMailTimestamp (text : String) : Bool :=
  mailTimestamp? text.toList = some []

/-- Whether a text is a timestamp in one of the notations. -/
def isTimestamp (text : String) : Bool :=
  isStrictTimestamp text || isMailTimestamp text || isLocalTimestamp text

end Calendar
end Conformance
