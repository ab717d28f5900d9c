import Conformance.Check.LeafCheck
import Conformance.Proofs.Number.Order

namespace Conformance

/-!
# Integers in a range

The check of an integer rounds the value and both ends of the range to binary64 and compares what
comes out.  Rounding keeps the order, so a value between the ends is never refused.  It can make
different integers equal, though.  So a value beyond an end passes exactly if it has the same
nearest number as the end.  That takes an end which is not a safe integer, and then the value is
beyond it by one part in `2 ^ 52` at most.
-/

open Binary64

/-! ## Numbers that are integers -/

namespace Number

/-- A number is an integer: a literal that is a word, or a number of the format without a
fractional part. -/
def Denotes : Number → Int → Prop
  | .integer literal, value => literal = value ∧ signedMin ≤ value ∧ value ≤ wordMax
  | .real rounded, value => rounded.IsRepresentable ∧
      ∃ negative units, rounded = .finite negative units ∧
        signedUnits negative units = value * unitsPerOne

/-- A binary64 number is the one nearest to an integer, of which zero has two. -/
def IsNearest (rounded : Binary64) (value : Int) : Prop :=
  ∃ negative units, rounded = .finite negative units ∧
    signedUnits negative units = nearestUnits value

variable {number : Number} {value : Int}

theorem natAbs_signedUnits (negative : Bool) (units : Nat) :
    (signedUnits negative units).natAbs = units := by
  cases negative <;> simp [signedUnits]

/-- The units of a number that is a whole number of ones. -/
theorem units_of_whole {negative : Bool} {units : Nat}
    (whole : signedUnits negative units = value * unitsPerOne) :
    value.natAbs * unitsPerOne = units := by
  rw [← natAbs_signedUnits negative units, whole, Int.natAbs_mul, Int.natAbs_natCast]

theorem isNearest_ofInt (lower : signedMin ≤ value) (upper : value ≤ wordMax) :
    IsNearest (.ofInt value) value := by
  have least : signedMin = -9223372036854775808 := by decide
  have most : (wordMax : Int) = 18446744073709551615 := by decide
  exact ⟨_, _, ofInt_eq (by omega), rfl⟩

theorem Denotes.isIntegral (denotes : number.Denotes value) : number.isIntegral = true := by
  cases number with
  | integer literal => rfl
  | real rounded =>
      rcases denotes with ⟨_, negative, units, rfl, whole⟩
      exact decide_eq_true (by rw [← units_of_whole whole, Nat.mul_mod_left])

/-- What is compared of an integer is the number nearest to it. -/
theorem Denotes.isNearest (denotes : number.Denotes value) : IsNearest number.toBinary64 value := by
  cases number with
  | integer literal =>
      rcases denotes with ⟨rfl, lower, upper⟩
      exact isNearest_ofInt lower upper
  | real rounded =>
      rcases denotes with ⟨representable, negative, units, rfl, whole⟩
      refine ⟨negative, units, rfl, ?_⟩
      rw [whole, nearestUnits_of_isPrecise]
      rw [units_of_whole whole]
      exact representable negative units rfl

section

variable {left right : Binary64} {leftValue rightValue : Int}

theorem IsNearest.le_iff (leftNearest : IsNearest left leftValue)
    (rightNearest : IsNearest right rightValue) :
    left.le right = true ↔ nearestUnits leftValue ≤ nearestUnits rightValue := by
  rcases leftNearest with ⟨negative, units, rfl, equal⟩
  rcases rightNearest with ⟨otherNegative, otherUnits, rfl, otherEqual⟩
  rw [← equal, ← otherEqual]
  exact decide_eq_true_iff

theorem IsNearest.beq_iff (leftNearest : IsNearest left leftValue)
    (rightNearest : IsNearest right rightValue) :
    (left == right) = true ↔ nearestUnits leftValue = nearestUnits rightValue := by
  have unfolded : (left == right) = (left.le right && right.le left) := rfl
  rw [unfolded, Bool.and_eq_true, leftNearest.le_iff rightNearest, rightNearest.le_iff leftNearest]
  exact le_antisymm_iff.symm

end

end Number

/-! ## The check -/

namespace IntegerRange

open Number

/-- The ends are signed words, in order. -/
structure IsSigned (range : IntegerRange) : Prop where
  lower : signedMin ≤ range.min
  ordered : range.min ≤ range.max
  upper : range.max ≤ signedMax

variable {range : IntegerRange} {number : Number} {value : Int}

theorem IsSigned.isNearest (signed : range.IsSigned) :
    IsNearest (.ofInt range.min) range.min ∧ IsNearest (.ofInt range.max) range.max := by
  have within : signedMax ≤ wordMax := by decide
  have lower := signed.lower
  have ordered := signed.ordered
  have upper := signed.upper
  exact ⟨isNearest_ofInt lower (by omega), isNearest_ofInt (by omega) (by omega)⟩

/-- The check compares nearest numbers. -/
theorem integer?_eq_none_iff (signed : range.IsSigned) (denotes : number.Denotes value) :
    LeafCheck.integer? range (.number number) = none ↔
      nearestUnits range.min ≤ nearestUnits value ∧ nearestUnits value ≤ nearestUnits range.max := by
  rw [LeafCheck.integer?, if_pos denotes.isIntegral, Violation.refuteUnless_eq_none, contains,
    Bool.and_eq_true, signed.isNearest.1.le_iff denotes.isNearest,
    denotes.isNearest.le_iff signed.isNearest.2]

/-- Where the integers next to it are numbers of the format, a bound is kept exactly. -/
theorem nearestUnits_le_iff_of_safe {left right bound : Int} (safe : bound.natAbs < 2 ^ 53)
    (isBound : bound = left ∨ bound = right) :
    nearestUnits left ≤ nearestUnits right ↔ left ≤ right := by
  refine ⟨fun rounded => ?_, nearestUnits_mono⟩
  have positive : (0 : Int) < unitsPerOne := by exact_mod_cast unitsPerOne_pos
  have exact {integer : Int} (small : integer.natAbs ≤ 2 ^ 53) := nearestUnits_of_natAbs_le small
  refine le_of_not_gt fun reversed => ?_
  rcases isBound with rfl | rfl
  · have apart := (nearestUnits_mono (show right ≤ bound - 1 by omega)).trans' rounded
    rw [exact (by omega), exact (by omega)] at apart
    have ordered := le_of_mul_le_mul_right apart positive
    omega
  · have apart := (nearestUnits_mono (show bound + 1 ≤ left by omega)).trans rounded
    rw [exact (by omega), exact (by omega)] at apart
    have ordered := le_of_mul_le_mul_right apart positive
    omega

/-- An integer passes the check of a range exactly if it is not beyond an end, or has the same
nearest number as the end that it is beyond.  It is then beyond the end by one part in `2 ^ 53` of
both at most.  If the ends are safe integers, the integers that pass are just those in the range. -/
theorem integer_passes_iff (signed : range.IsSigned) (denotes : number.Denotes value) :
    (LeafCheck.integer? range (.number number) = none ↔
      (range.min ≤ value ∨ (Binary64.ofInt range.min == number.toBinary64) = true) ∧
      (value ≤ range.max ∨ (number.toBinary64 == Binary64.ofInt range.max) = true)) ∧
    (LeafCheck.integer? range (.number number) = none →
      2 ^ 53 * (range.min - value) ≤ |range.min| + |value| ∧
      2 ^ 53 * (value - range.max) ≤ |value| + |range.max|) ∧
    (minSafeInteger ≤ range.min → range.max ≤ maxSafeInteger →
      (LeafCheck.integer? range (.number number) = none ↔
        range.min ≤ value ∧ value ≤ range.max)) := by
  have passes := integer?_eq_none_iff signed denotes
  refine ⟨?nearest, ?close, ?safe⟩
  case nearest =>
    rw [passes, nearestUnits_le_iff, nearestUnits_le_iff,
      signed.isNearest.1.beq_iff denotes.isNearest, denotes.isNearest.beq_iff signed.isNearest.2]
  case close =>
    intro passed
    rcases passes.mp passed with ⟨above, below⟩
    exact ⟨sub_le_of_nearestUnits_le above, sub_le_of_nearestUnits_le below⟩
  case safe =>
    intro lower upper
    have ordered := signed.ordered
    rw [minSafeInteger] at lower
    rw [maxSafeInteger] at upper
    rw [passes, nearestUnits_le_iff_of_safe (by omega) (.inl rfl),
      nearestUnits_le_iff_of_safe (by omega) (.inr rfl)]

/-- The range above the first integer that is no number of the format, which belongs to it. -/
def beyondSafe : IntegerRange := ⟨9007199254740993, Number.signedMax⟩

theorem isSigned_beyondSafe : beyondSafe.IsSigned := ⟨by decide, by decide, by decide⟩

/-- A value two below the range is refused, and so is one above a range of safe integers. -/
theorem integer_passes_iff_refused :
    beyondSafe.IsSigned ∧ Number.Denotes (.integer 9007199254740991) 9007199254740991 ∧
      LeafCheck.integer? beyondSafe (.number (.integer 9007199254740991)) ≠ none ∧
      (unbounded.IsSigned ∧ Number.Denotes (.integer 9007199254740992) 9007199254740992 ∧
        LeafCheck.integer? unbounded (.number (.integer 9007199254740992)) ≠ none) := by
  have below : Number.Denotes (.integer 9007199254740991) 9007199254740991 :=
    ⟨rfl, by decide, by decide⟩
  have above : Number.Denotes (.integer 9007199254740992) 9007199254740992 :=
    ⟨rfl, by decide, by decide⟩
  have signed : unbounded.IsSigned := ⟨by decide, by decide, by decide⟩
  refine ⟨isSigned_beyondSafe, below, ?_, signed, above, ?_⟩
  · intro passed
    rcases ((integer_passes_iff isSigned_beyondSafe below).1.mp passed).1 with inside | same
    · exact absurd inside (by decide)
    · exact absurd same (by decide +kernel)
  · intro passed
    have inside := ((integer_passes_iff signed above).2.2 (by decide) (by decide)).mp passed
    exact absurd inside.2 (by decide)

/-- Although it is below the range, the integer in front of the least one passes. -/
theorem integer_below_passes :
    beyondSafe.IsSigned ∧ Number.Denotes (.integer 9007199254740992) 9007199254740992 ∧
      LeafCheck.integer? beyondSafe (.number (.integer 9007199254740992)) = none ∧
      ¬ (beyondSafe.min ≤ 9007199254740992 ∧ 9007199254740992 ≤ beyondSafe.max) :=
  ⟨isSigned_beyondSafe, ⟨rfl, by decide, by decide⟩, by decide +kernel, by decide⟩

end IntegerRange
end Conformance
