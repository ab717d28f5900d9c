import Conformance.Check.LeafCheck
import Conformance.Proofs.Text.Delimited
import Mathlib.Data.List.Induction
import Mathlib.Data.String.Basic
import Mathlib.Tactic.IntervalCases

namespace Conformance
namespace Calendar

open Text (Stops stops_cons isDigit_bounds)

/-!
# Which texts are dates

A plain date is four digits, two digits and two digits with hyphens between them.  The check of
a date enforces this by the length of the text only: what is scanned may have blanks in front of
each number and a sign in front of the year, and one digit is enough for a number.  With ten bytes
in total, a blank or a sign takes the place of a missing digit.  So a text passes exactly if it is
a plain date, or a date that is spelled with blanks or a sign and has ten bytes.
-/

variable {input rest digits blanks : List Char}

/-! ## Dates that exist -/

/-- Every fourth year is a leap year, but of the years that begin a century only every fourth. -/
def IsLeap (year : Int) : Prop := 4 ∣ year ∧ (100 ∣ year → 400 ∣ year)

instance (year : Int) : Decidable (IsLeap year) :=
  inferInstanceAs (Decidable (_ ∧ (_ → _)))

/-- The lengths of the months from January on. -/
def monthLengths (year : Int) : List Nat :=
  [31, if IsLeap year then 29 else 28, 31, 30, 31, 30, 31, 31, 30, 31, 30, 31]

/-- A date of the proleptic Gregorian calendar. -/
def IsGregorian (year : Int) (month day : Nat) : Prop :=
  1 ≤ month ∧ 1 ≤ day ∧ ∃ length ∈ (monthLengths year)[month - 1]?, day ≤ length

theorem isLeapYear_iff (year : Int) : isLeapYear year = true ↔ IsLeap year := by
  simp only [isLeapYear, IsLeap, Bool.and_eq_true, Bool.or_eq_true, decide_eq_true_eq]
  omega

theorem daysInMonth_eq (year : Int) (month : Nat) (named : 1 ≤ month) :
    daysInMonth year month = (monthLengths year)[month - 1]?.getD 0 := by
  have february : (if isLeapYear year then 29 else 28) = if IsLeap year then 29 else 28 :=
    if_congr (isLeapYear_iff year) rfl rfl
  by_cases last : month ≤ 12
  · interval_cases month <;> first | rfl | exact february
  · have beyond : (monthLengths year)[month - 1]? = none :=
      List.getElem?_eq_none (by simp only [monthLengths, List.length_cons, List.length_nil]; omega)
    rw [beyond]
    simp only [daysInMonth, Bool.or_eq_true, Bool.and_eq_true, decide_eq_true_eq]
    repeat rw [if_neg (by omega)]
    rfl

/-- Three numbers form a date exactly if the calendar has it and the year is in the range. -/
theorem isDate_iff {year : Int} {month day : Nat} : isDate year month day = true ↔
    firstYear ≤ year ∧ year ≤ lastYear ∧ IsGregorian year month day := by
  simp only [isDate, Bool.and_eq_true, decide_eq_true_eq, and_assoc, IsGregorian, Option.mem_def]
  refine and_congr_right fun _ => and_congr_right fun _ => ⟨?_, ?_⟩
  · rintro ⟨begun, within⟩
    have named : 1 ≤ month := by
      rcases Nat.eq_zero_or_pos month with rfl | named
      · rw [show daysInMonth year 0 = 0 from rfl] at within
        exact absurd (Nat.le_trans begun within) (by decide)
      · exact named
    rw [daysInMonth_eq year month named] at within
    cases found : (monthLengths year)[month - 1]? with
    | none => rw [found] at within; exact absurd (Nat.le_trans begun within) (by decide)
    | some length => exact ⟨named, begun, length, rfl, by rwa [found] at within⟩
  · rintro ⟨named, begun, length, found, within⟩
    rw [daysInMonth_eq year month named, found]
    exact ⟨begun, within⟩

theorem IsGregorian.bounds {year : Int} {month day : Nat} (real : IsGregorian year month day) :
    1 ≤ month ∧ month ≤ 12 ∧ 1 ≤ day ∧ day ≤ 31 := by
  rcases real with ⟨named, begun, length, found, within⟩
  have twelve : month - 1 < 12 := (List.getElem?_eq_some_iff.mp found).1
  have longest : ∀ length ∈ monthLengths year, length ≤ 31 := by
    simp only [monthLengths, List.forall_mem_cons]
    split <;> simp
  have short := longest length (List.mem_of_getElem? found)
  omega

/-! ## Numbers and blanks -/

/-- A text of decimal digits. -/
def AllDigits (digits : List Char) : Prop := ∀ c ∈ digits, c.isDigit = true

/-- A text of blank space. -/
def AllBlank (blanks : List Char) : Prop := ∀ c ∈ blanks, isBlank c = true

theorem isBlank_of_isDigit {c : Char} (digit : c.isDigit = true) : isBlank c = false := by
  have figures : ∀ place < 10, Regex.blankRanges.contains (48 + place) = false := by
    decide +kernel
  have bounds := isDigit_bounds digit
  rw [isBlank, show c.toNat = 48 + (c.toNat - 48) by omega]
  exact figures _ (by omega)

theorem isBlank_plus : isBlank '+' = false := by decide +kernel

theorem isBlank_minus : isBlank '-' = false := by decide +kernel

theorem stops_isDigit_minus (rest : List Char) : Stops Char.isDigit ('-' :: rest) :=
  stops_cons rfl rest

theorem skipBlanks_append (blank : AllBlank blanks) (stops : Stops isBlank rest) :
    skipBlanks (blanks ++ rest) = rest := by
  rw [skipBlanks, List.dropWhile_append_of_pos blank]
  cases rest with
  | nil => rfl
  | cons c rest => rw [List.dropWhile_cons_of_neg (by simp [stops c rfl])]

theorem skipBlanks_spec (input : List Char) :
    ∃ blanks, AllBlank blanks ∧ input = blanks ++ skipBlanks input :=
  ⟨input.takeWhile isBlank, List.all_eq_true.mp List.all_takeWhile,
    List.takeWhile_append_dropWhile.symm⟩

theorem leadingDigits_append {most : Nat} (isDigit : AllDigits digits)
    (short : digits.length ≤ most) (stops : Stops Char.isDigit rest) :
    leadingDigits most (digits ++ rest) = digits := by
  induction most generalizing digits with
  | zero => rw [List.length_eq_zero_iff.mp (Nat.le_zero.mp short)]; rfl
  | succ most inductionHypothesis =>
      cases digits with
      | nil =>
          cases rest with
          | nil => rfl
          | cons c rest => simp [leadingDigits, stops c rfl]
      | cons c digits =>
          rw [AllDigits, List.forall_mem_cons] at isDigit
          rw [List.cons_append, leadingDigits, if_pos isDigit.1,
            inductionHypothesis isDigit.2 (Nat.le_of_succ_le_succ short)]

theorem leadingDigits_spec (most : Nat) (input : List Char) :
    AllDigits (leadingDigits most input) ∧ (leadingDigits most input).length ≤ most ∧
      leadingDigits most input <+: input := by
  induction most generalizing input with
  | zero => exact ⟨nofun, Nat.le_refl _, List.nil_prefix⟩
  | succ most inductionHypothesis =>
      cases input with
      | nil => exact ⟨nofun, Nat.zero_le _, List.nil_prefix⟩
      | cons c input =>
          rw [leadingDigits]
          split
          case isTrue isDigit =>
            rcases inductionHypothesis input with ⟨allDigits, short, begins⟩
            exact ⟨List.forall_mem_cons.mpr ⟨isDigit, allDigits⟩, Nat.succ_le_succ short,
              List.cons_prefix_cons.mpr ⟨rfl, begins⟩⟩
          case isFalse => exact ⟨nofun, Nat.zero_le _, List.nil_prefix⟩

/-- A number has fewer than ten to the count of its digits. -/
theorem decimalValue_lt (isDigit : AllDigits digits) :
    decimalValue digits < 10 ^ digits.length := by
  induction digits using List.reverseRecOn with
  | nil => decide
  | append_singleton digits c inductionHypothesis =>
      rw [AllDigits, List.forall_mem_append, List.forall_mem_singleton] at isDigit
      have before := inductionHypothesis isDigit.1
      have figure : c.toNat - '0'.toNat < 10 := by
        have zero : '0'.toNat = 48 := rfl
        have bounds := isDigit_bounds isDigit.2
        omega
      rw [decimalValue, List.foldl_append, List.length_append, List.length_singleton, Nat.pow_succ]
      change 10 * decimalValue digits + (c.toNat - '0'.toNat) < _
      omega

theorem number?_append {least most : Nat} (isDigit : AllDigits digits)
    (long : least ≤ digits.length) (short : digits.length ≤ most)
    (small : decimalValue digits ≤ numberLimit) (stops : Stops Char.isDigit rest) :
    number? least most (digits ++ rest) = some (decimalValue digits, rest) := by
  simp only [number?, leadingDigits_append isDigit short stops]
  rw [if_neg (Nat.not_lt.mpr long), if_neg (Nat.not_lt.mpr small), List.drop_left]

theorem number?_eq_some {least most value : Nat}
    (read : number? least most input = some (value, rest)) :
    ∃ digits, AllDigits digits ∧ least ≤ digits.length ∧ digits.length ≤ most ∧
      decimalValue digits = value ∧ input = digits ++ rest := by
  rcases leadingDigits_spec most input with ⟨isDigit, short, begins⟩
  simp only [number?] at read
  split at read
  case isTrue => cases read
  case isFalse long =>
    split at read
    case isTrue => cases read
    case isFalse =>
      rcases Prod.mk.inj (Option.some.inj read) with ⟨same, left⟩
      exact ⟨_, isDigit, Nat.not_lt.mp long, short, same,
        left ▸ (List.prefix_iff_eq_append.mp begins).symm⟩

/-! ## Spellings -/

/-- A spelling of a month or of a day. -/
structure FieldSpelling where
  blanks : List Char
  digits : List Char
  blank : AllBlank blanks
  isDigit : AllDigits digits
  nonempty : 1 ≤ digits.length
  short : digits.length ≤ 2

namespace FieldSpelling

def text (field : FieldSpelling) : List Char := field.blanks ++ field.digits

def value (field : FieldSpelling) : Nat := decimalValue field.digits

end FieldSpelling

/-- A sign in front of a year. -/
inductive Sign where
  | plus
  | minus
deriving DecidableEq

/-- What is written in front of the digits of a year. -/
def signText : Option Sign → List Char
  | none => []
  | some .plus => ['+']
  | some .minus => ['-']

/-- A spelling of a year.  Without a sign it has four digits at most. -/
structure YearSpelling where
  blanks : List Char
  sign : Option Sign
  digits : List Char
  blank : AllBlank blanks
  isDigit : AllDigits digits
  nonempty : 1 ≤ digits.length
  short : sign = none → digits.length ≤ 4

namespace YearSpelling

def text (year : YearSpelling) : List Char :=
  year.blanks ++ (signText year.sign ++ year.digits)

def value (year : YearSpelling) : Int :=
  if year.sign = some .minus then -decimalValue year.digits else decimalValue year.digits

end YearSpelling

/-- A spelling of a date. -/
structure DateSpelling where
  year : YearSpelling
  month : FieldSpelling
  day : FieldSpelling

namespace DateSpelling

def text (spelling : DateSpelling) : List Char :=
  spelling.year.text ++ '-' :: (spelling.month.text ++ '-' :: spelling.day.text)

/-- The calendar has the date that is spelled. -/
def IsReal (spelling : DateSpelling) : Prop :=
  IsGregorian spelling.year.value spelling.month.value spelling.day.value

/-- The spelling has blanks or a sign. -/
def IsLoose (spelling : DateSpelling) : Prop :=
  spelling.year.sign ≠ none ∨ spelling.year.blanks ≠ [] ∨ spelling.month.blanks ≠ [] ∨
    spelling.day.blanks ≠ []

end DateSpelling

/-! ## What the scanner reads -/

theorem stops_isBlank_digits (isDigit : AllDigits digits) (nonempty : 1 ≤ digits.length)
    (rest : List Char) : Stops isBlank (digits ++ rest) := by
  cases digits with
  | nil => cases nonempty
  | cons c digits => exact stops_cons (isBlank_of_isDigit (isDigit c List.mem_cons_self)) _

theorem field?_append (field : FieldSpelling) {low high : Nat} (lower : low ≤ field.value)
    (upper : field.value ≤ high) (stops : Stops Char.isDigit rest) :
    field? low high (field.text ++ rest) = some (field.value, rest) := by
  have small : decimalValue field.digits ≤ numberLimit :=
    calc decimalValue field.digits
      _ ≤ 10 ^ field.digits.length := (decimalValue_lt field.isDigit).le
      _ ≤ 10 ^ 2 := Nat.pow_le_pow_right (by decide) field.short
      _ ≤ numberLimit := by decide
  rw [field?, FieldSpelling.text, List.append_assoc, skipBlanks_append field.blank
    (stops_isBlank_digits field.isDigit field.nonempty rest), numberBetween?,
    number?_append field.isDigit field.nonempty field.short small stops, Option.bind_some]
  exact if_pos ⟨lower, upper⟩

theorem field?_eq_some {low high value : Nat}
    (read : field? low high input = some (value, rest)) :
    ∃ field : FieldSpelling, field.value = value ∧ input = field.text ++ rest := by
  rcases skipBlanks_spec input with ⟨blanks, blank, whole⟩
  rcases Option.bind_eq_some_iff.mp read with ⟨⟨_, _⟩, readNumber, between⟩
  rcases Option.ite_none_right_eq_some.mp between with ⟨_, same⟩
  cases same
  rcases number?_eq_some readNumber with ⟨digits, isDigit, nonempty, short, value, left⟩
  exact ⟨⟨blanks, digits, blank, isDigit, nonempty, short⟩, value,
    by rw [whole, left, FieldSpelling.text, List.append_assoc]⟩

theorem stops_isBlank_signed (year : YearSpelling) (rest : List Char) :
    Stops isBlank (signText year.sign ++ (year.digits ++ rest)) :=
  match year.sign with
  | none => stops_isBlank_digits year.isDigit year.nonempty rest
  | some .plus => stops_cons isBlank_plus _
  | some .minus => stops_cons isBlank_minus _

theorem year?_append (year : YearSpelling) (small : decimalValue year.digits ≤ numberLimit)
    (stops : Stops Char.isDigit rest) :
    year? (year.text ++ rest) = some (year.value, rest) := by
  have long : longNumber? 1 (year.digits ++ rest) = some (decimalValue year.digits, rest) :=
    number?_append year.isDigit year.nonempty (by simp) small stops
  rw [year?, YearSpelling.text, List.append_assoc, List.append_assoc,
    skipBlanks_append year.blank (stops_isBlank_signed year rest), YearSpelling.value]
  cases signed : year.sign with
  | some sign => cases sign <;> exact congrArg (Option.map _) long
  | none =>
      have short := number?_append year.isDigit year.nonempty (year.short signed) small stops
      cases begins : year.digits with
      | nil => exact absurd year.nonempty (by rw [begins]; decide)
      | cons c others =>
          have isDigit := year.isDigit c (by rw [begins]; exact List.mem_cons_self)
          rw [begins] at short
          simp only [signText, List.nil_append, List.cons_append]
          split
          case h_1 same => cases same; cases isDigit
          case h_2 same => cases same; cases isDigit
          case h_3 => exact congrArg (Option.map _) short

/-- What is read of a year as a number behind a sign spells that year. -/
theorem exists_yearSpelling (sign : Option Sign) {others : List Char} {most value : Nat}
    (begins : skipBlanks input = signText sign ++ others) (short : sign = none → most ≤ 4)
    (read : number? 1 most others = some (value, rest)) :
    ∃ year : YearSpelling, year.sign = sign ∧ decimalValue year.digits = value ∧
      input = year.text ++ rest := by
  rcases skipBlanks_spec input with ⟨blanks, blank, whole⟩
  rcases number?_eq_some read with ⟨digits, isDigit, nonempty, few, rfl, left⟩
  exact ⟨⟨blanks, sign, digits, blank, isDigit, nonempty, fun unsigned => few.trans (short unsigned)⟩,
    rfl, rfl, by rw [whole, begins, left, YearSpelling.text, List.append_assoc, List.append_assoc]⟩

theorem year?_eq_some {value : Int} (read : year? input = some (value, rest)) :
    ∃ year : YearSpelling, year.value = value ∧ input = year.text ++ rest := by
  rw [year?] at read
  split at read
  case h_1 others begins =>
    rcases Option.map_eq_some_iff.mp read with ⟨⟨_, _⟩, number, same⟩
    cases same
    rcases exists_yearSpelling (some .minus) begins nofun number with ⟨year, sign, rfl, text⟩
    exact ⟨year, if_pos sign, text⟩
  case h_2 others begins =>
    rcases Option.map_eq_some_iff.mp read with ⟨⟨_, _⟩, number, same⟩
    cases same
    rcases exists_yearSpelling (some .plus) begins nofun number with ⟨year, sign, rfl, text⟩
    exact ⟨year, if_neg (by rw [sign]; decide), text⟩
  case h_3 =>
    rcases Option.map_eq_some_iff.mp read with ⟨⟨_, _⟩, number, same⟩
    cases same
    rcases exists_yearSpelling none rfl (fun _ => Nat.le_refl 4) number with
      ⟨year, sign, rfl, text⟩
    exact ⟨year, if_neg (by rw [sign]; decide), text⟩

theorem char?_eq_some {c : Char} (read : char? c input = some rest) : input = c :: rest := by
  cases input with
  | nil => cases read
  | cons first others =>
      rcases Option.ite_none_right_eq_some.mp read with ⟨rfl, same⟩
      cases same
      rfl

theorem looseDate?_eq_some {date : Date} (read : looseDate? input = some (date, rest)) :
    ∃ spelling : DateSpelling, input = spelling.text ++ rest ∧
      isDate spelling.year.value spelling.month.value spelling.day.value = true := by
  rcases Option.bind_eq_some_iff.mp read with ⟨⟨_, _⟩, readYear, read⟩
  rcases Option.bind_eq_some_iff.mp read with ⟨beforeMonth, yearEnds, read⟩
  rcases Option.bind_eq_some_iff.mp read with ⟨⟨_, _⟩, readMonth, read⟩
  rcases Option.bind_eq_some_iff.mp read with ⟨beforeDay, monthEnds, read⟩
  rcases Option.bind_eq_some_iff.mp read with ⟨⟨_, _⟩, readDay, read⟩
  rcases Option.bind_eq_some_iff.mp read with ⟨_, exists', same⟩
  cases same
  rcases year?_eq_some readYear with ⟨year, rfl, yearText⟩
  rcases field?_eq_some readMonth with ⟨month, rfl, monthText⟩
  rcases field?_eq_some readDay with ⟨day, rfl, dayText⟩
  refine ⟨⟨year, month, day⟩, ?_, (Option.dite_none_right_eq_some.mp exists').1⟩
  rw [yearText, char?_eq_some yearEnds, monthText, char?_eq_some monthEnds, dayText]
  simp [DateSpelling.text]

theorem looseDate?_append (spelling : DateSpelling)
    (real : isDate spelling.year.value spelling.month.value spelling.day.value = true)
    (stops : Stops Char.isDigit rest) :
    ∃ date, looseDate? (spelling.text ++ rest) = some (date, rest) := by
  rcases isDate_iff.mp real with ⟨first, last, gregorian⟩
  rcases gregorian.bounds with ⟨named, twelve, begun, within⟩
  have small : decimalValue spelling.year.digits ≤ numberLimit := by
    have limit : numberLimit = 9223372036854775807 := by decide
    rw [firstYear, YearSpelling.value] at first
    rw [lastYear, YearSpelling.value] at last
    by_cases minus : spelling.year.sign = some .minus
    · rw [if_pos minus] at first
      omega
    · rw [if_neg minus] at last
      omega
  refine ⟨⟨_, _, _, real⟩, ?_⟩
  rw [looseDate?, DateSpelling.text, List.append_assoc, List.cons_append, List.append_assoc,
    List.cons_append, year?_append _ small (stops_isDigit_minus _)]
  change ((field? 1 12 _).bind _) = _
  rw [field?_append _ named twelve (stops_isDigit_minus _)]
  change ((field? 1 31 _).bind _) = _
  rw [field?_append _ begun within stops]
  change ((Date.ofNumbers? _ _ _).bind _) = _
  rw [Date.ofNumbers?, dif_pos real]
  rfl

/-! ## Ten bytes -/

theorem length_le_utf8Len (characters : List Char) :
    characters.length ≤ String.utf8Len characters := by
  induction characters with
  | nil => exact Nat.le_refl 0
  | cons c characters inductionHypothesis =>
      rw [String.utf8Len_cons, List.length_cons]
      exact Nat.add_le_add inductionHypothesis c.utf8Size_pos

theorem utf8Len_digits (isDigit : AllDigits digits) : String.utf8Len digits = digits.length := by
  induction digits with
  | nil => rfl
  | cons c digits inductionHypothesis =>
      rw [AllDigits, List.forall_mem_cons] at isDigit
      have one : c.utf8Size = 1 :=
        Char.utf8Size_eq_one_iff.mpr (UInt32.le_iff_toNat_le.mpr
          ((isDigit_bounds isDigit.1).2.trans (by decide)))
      rw [String.utf8Len_cons, List.length_cons, inductionHypothesis isDigit.2, one]

/-- Ten bytes are too few for a year out of the range. -/
theorem DateSpelling.inRange (spelling : DateSpelling) (few : spelling.text.length ≤ 10) :
    firstYear ≤ spelling.year.value ∧ spelling.year.value ≤ lastYear := by
  have five : spelling.year.digits.length ≤ 5 := by
    have month := spelling.month.nonempty
    have day := spelling.day.nonempty
    simp only [DateSpelling.text, YearSpelling.text, FieldSpelling.text, List.length_append,
      List.length_cons] at few
    cases signed : spelling.year.sign with
    | none => exact (spelling.year.short signed).trans (by decide)
    | some sign =>
        have mark : (signText spelling.year.sign).length = 1 := by rw [signed]; cases sign <;> rfl
        omega
  have small : decimalValue spelling.year.digits < 10 ^ 5 :=
    (decimalValue_lt spelling.year.isDigit).trans_le (Nat.pow_le_pow_right (by decide) five)
  rw [firstYear, lastYear, YearSpelling.value]
  split <;> omega

theorem isWrittenDate_iff (text : String) : isWrittenDate text = true ↔
    text.utf8ByteSize = 10 ∧ ∃ spelling : DateSpelling,
      text.toList = spelling.text ∧ spelling.IsReal := by
  rw [isWrittenDate, Bool.and_eq_true, decide_eq_true_eq]
  refine and_congr_right fun ten => ⟨fun passes => ?_, ?_⟩
  · split at passes
    case h_1 date read =>
      rcases looseDate?_eq_some read with ⟨spelling, whole, real⟩
      exact ⟨spelling, by rw [whole, List.append_nil], (isDate_iff.mp real).2.2⟩
    case h_2 => cases passes
  · rintro ⟨spelling, whole, real⟩
    have few : spelling.text.length ≤ 10 := by
      rw [← whole, ← ten, ← String.utf8Len_toList]
      exact length_le_utf8Len _
    have inRange := spelling.inRange few
    have real := isDate_iff.mpr ⟨inRange.1, inRange.2, real⟩
    have ends : Stops Char.isDigit [] := nofun
    rcases looseDate?_append spelling real ends with ⟨date, read⟩
    rw [whole, ← List.append_nil spelling.text, read]

/-- A date of the calendar as four digits, two digits and two digits with hyphens between them. -/
def IsPlainDate (characters : List Char) : Prop :=
  ∃ year month day, AllDigits year ∧ AllDigits month ∧ AllDigits day ∧
    year.length = 4 ∧ month.length = 2 ∧ day.length = 2 ∧
    characters = year ++ '-' :: (month ++ '-' :: day) ∧
    IsGregorian (decimalValue year) (decimalValue month) (decimalValue day)

theorem utf8Len_plain {year month day : List Char} (yearDigits : AllDigits year)
    (monthDigits : AllDigits month) (dayDigits : AllDigits day) :
    String.utf8Len (year ++ '-' :: (month ++ '-' :: day)) =
      year.length + month.length + day.length + 2 := by
  have hyphen : '-'.utf8Size = 1 := rfl
  simp only [String.utf8Len_append, String.utf8Len_cons, utf8Len_digits yearDigits,
    utf8Len_digits monthDigits, utf8Len_digits dayDigits, hyphen]
  omega

/-- Without blanks and a sign, ten bytes are a plain date. -/
theorem DateSpelling.isPlainDate {spelling : DateSpelling} (strict : ¬ spelling.IsLoose)
    (real : spelling.IsReal) (ten : String.utf8Len spelling.text = 10) :
    IsPlainDate spelling.text := by
  rcases spelling with ⟨year, month, day⟩
  simp only [DateSpelling.IsLoose, not_or, not_not] at strict
  rcases strict with ⟨unsigned, yearStart, monthStart, dayStart⟩
  have plain : DateSpelling.text ⟨year, month, day⟩ =
      year.digits ++ '-' :: (month.digits ++ '-' :: day.digits) := by
    simp only [DateSpelling.text, YearSpelling.text, FieldSpelling.text, unsigned, yearStart,
      monthStart, dayStart, signText, List.nil_append]
  have four := year.short unsigned
  have lengths := utf8Len_plain year.isDigit month.isDigit day.isDigit
  rw [← plain, ten] at lengths
  have monthShort := month.short
  have dayShort := day.short
  have positive : year.value = decimalValue year.digits :=
    if_neg (by rw [unsigned]; decide)
  rw [DateSpelling.IsReal, positive] at real
  exact ⟨year.digits, month.digits, day.digits, year.isDigit, month.isDigit, day.isDigit,
    by omega, by omega, by omega, plain, real⟩

theorem isWrittenDate_of_isPlainDate {text : String} (plain : IsPlainDate text.toList) :
    isWrittenDate text = true := by
  rcases plain with
    ⟨year, month, day, yearDigits, monthDigits, dayDigits, four, two, twoAgain, whole, real⟩
  refine (isWrittenDate_iff text).mpr ⟨?_,
    ⟨⟨[], none, year, nofun, yearDigits, by omega, fun _ => by omega⟩,
      ⟨[], month, nofun, monthDigits, by omega, by omega⟩,
      ⟨[], day, nofun, dayDigits, by omega, by omega⟩⟩, whole, real⟩
  rw [← String.utf8Len_toList, whole, utf8Len_plain yearDigits monthDigits dayDigits]
  omega

/-- A text passes exactly if it is a plain date or has ten bytes and spells a date of the calendar
with blanks or a sign. -/
theorem date_passes_iff (text : String) : LeafCheck.date? (.text text) = none ↔
    IsPlainDate text.toList ∨
      text.utf8ByteSize = 10 ∧ ∃ spelling : DateSpelling,
        text.toList = spelling.text ∧ spelling.IsLoose ∧ spelling.IsReal := by
  rw [LeafCheck.date?, Violation.refuteUnless_eq_none]
  constructor
  · intro written
    rcases (isWrittenDate_iff text).mp written with ⟨ten, spelling, whole, real⟩
    by_cases loose : spelling.IsLoose
    · exact .inr ⟨ten, spelling, whole, loose, real⟩
    · rw [← String.utf8Len_toList, whole] at ten
      exact .inl (whole ▸ spelling.isPlainDate loose real ten)
  · rintro (plain | ⟨ten, spelling, whole, _, real⟩)
    · exact isWrittenDate_of_isPlainDate plain
    · exact (isWrittenDate_iff text).mpr ⟨ten, spelling, whole, real⟩

example : LeafCheck.date? (.text "2023-02-29") = some .wrongType := by decide +kernel

/-- A sign takes the place of the missing digit of the month. -/
theorem signed_date_passes :
    LeafCheck.date? (.text "+2024-1-09") = none ∧ ¬ IsPlainDate "+2024-1-09".toList := by
  refine ⟨by decide +kernel, ?_⟩
  rintro ⟨year, month, day, yearDigits, _, _, four, _, _, whole, _⟩
  cases year with
  | nil => cases four
  | cons c year =>
      have plus : '+' = c := (List.cons.inj whole).1
      exact absurd (yearDigits c List.mem_cons_self) (by rw [← plus]; decide)

end Calendar
end Conformance
