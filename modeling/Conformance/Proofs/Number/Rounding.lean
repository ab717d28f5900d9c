import Conformance.Number.Shortest
import Conformance.Proofs.Number.Format
import Mathlib.Algebra.Order.Field.Basic
import Mathlib.Data.Rat.Cast.Order
import Mathlib.Tactic.Linarith
import Mathlib.Tactic.Ring

namespace Conformance
namespace Binary64

/-!
# Rounding intervals

Around every number of the format lies the interval of the magnitudes that round to it.
Two of these intervals have at most an end in common, and then it belongs to one of them
only, because of two neighbours just one has an even significand.  So a magnitude in the
interval of a number tells which number it is.
-/

/-- A significand and a shift, of which the shift is as small as it can be. -/
structure Normal (significand shift : Nat) : Prop where
  lt : significand < 2 ^ 53
  ge : 0 < shift → 2 ^ 52 ≤ significand

/-- The quarter units from a positive number down to the least magnitude that rounds to it. -/
def lowerGap (significand shift : Nat) : Nat :=
  if significand = 2 ^ 52 ∧ 0 < shift then 2 ^ shift else 2 * 2 ^ shift

section

variable {significand shift : Nat}

/-- The shift that the interval is computed with. -/
theorem Normal.shift_eq (normal : Normal significand shift) (positive : significand ≠ 0) :
    (significand * 2 ^ shift).log2 + 1 - 53 = shift := by
  have nonzero : significand * 2 ^ shift ≠ 0 := Nat.mul_ne_zero positive (by positivity)
  have below : (significand * 2 ^ shift).log2 < 53 + shift := by
    rw [Nat.log2_lt nonzero, Nat.pow_add]
    exact Nat.mul_lt_mul_of_pos_right normal.lt (by positivity)
  rcases Nat.eq_zero_or_pos shift with rfl | shifted
  · omega
  · have above : 52 + shift ≤ (significand * 2 ^ shift).log2 := by
      rw [Nat.le_log2 nonzero, Nat.pow_add]
      exact Nat.mul_le_mul_right _ (normal.ge shifted)
    omega

/-- Every number of the format has a smallest shift. -/
theorem IsPrecise.exists_normal {units : Nat} (precise : IsPrecise units) (positive : units ≠ 0) :
    ∃ significand shift, units = significand * 2 ^ shift ∧ significand ≠ 0 ∧
      Normal significand shift := by
  rcases precise with ⟨significand, exponent, small, rfl⟩
  have nonzero : significand ≠ 0 := fun zero => positive (by rw [zero, Nat.zero_mul])
  clear positive
  induction exponent generalizing significand with
  | zero => exact ⟨significand, 0, rfl, nonzero, small, fun absurd => absurd.false.elim⟩
  | succ exponent inductionHypothesis =>
      by_cases large : 2 ^ 52 ≤ significand
      · exact ⟨significand, exponent + 1, rfl, nonzero, small, fun _ => large⟩
      · rcases inductionHypothesis (significand * 2) (by omega) (by omega) with found
        rwa [Nat.pow_succ', ← Nat.mul_assoc]

/-- The interval of a number with a smallest shift. -/
theorem Normal.roundingInterval_eq (normal : Normal significand shift) (positive : significand ≠ 0) :
    roundingInterval (significand * 2 ^ shift) =
      ⟨4 * (significand * 2 ^ shift) - lowerGap significand shift,
        4 * (significand * 2 ^ shift) + 2 * 2 ^ shift, significand % 2 = 0⟩ := by
  have step : Nat.pow 2 shift = 2 ^ shift := rfl
  rw [roundingInterval, normal.shift_eq positive]
  simp only [step, Nat.mul_div_cancel _ (show 0 < 2 ^ shift by positivity)]
  rfl

end

/-! ## Intervals of different numbers -/

section

variable {significand shift otherSignificand otherShift : Nat}

/-- Of two numbers the larger one has the larger shift. -/
theorem Normal.shift_le (normal : Normal significand shift) (other : Normal otherSignificand otherShift)
    (less : significand * 2 ^ shift < otherSignificand * 2 ^ otherShift) : shift ≤ otherShift := by
  refine Nat.le_of_not_lt fun later => ?_
  have large : 2 ^ 52 * 2 ^ shift ≤ significand * 2 ^ shift :=
    Nat.mul_le_mul_right _ (normal.ge (by omega))
  have small : otherSignificand * 2 ^ otherShift < 2 ^ 53 * 2 ^ otherShift :=
    Nat.mul_lt_mul_of_pos_right other.lt (by positivity)
  have doubled : 2 * 2 ^ otherShift ≤ 2 ^ shift := by
    rw [← Nat.pow_succ']
    exact Nat.pow_le_pow_right (by decide) later
  omega

/-- The gap below the larger number, in spacings of the smaller one. -/
theorem Normal.lowerGap_eq {difference : Nat} (other : Normal otherSignificand (shift + difference)) :
    ∃ gap, lowerGap otherSignificand (shift + difference) = gap * 2 ^ shift ∧
      ((gap = 2 ^ difference ∧ otherSignificand = 2 ^ 52) ∨
        (gap = 2 * 2 ^ difference ∧ (2 ≤ 2 ^ difference → 2 ^ 52 < otherSignificand))) := by
  rw [lowerGap]
  split
  case isTrue least => exact ⟨2 ^ difference, by rw [Nat.pow_add]; ring, .inl ⟨rfl, least.1⟩⟩
  case isFalse inside =>
    refine ⟨2 * 2 ^ difference, by rw [Nat.pow_add]; ring, .inr ⟨rfl, fun apart => ?_⟩⟩
    have shifted : 0 < shift + difference := by
      cases difference with
      | zero => exact absurd apart (by decide)
      | succ difference => omega
    exact Nat.lt_of_le_of_ne (other.ge shifted) fun same => inside ⟨same.symm, shifted⟩

/-- In spacings of the smaller number, the ends of the intervals do not cross, and they meet
only between an even number and an odd one.  `least` is the least significand of 53 bits. -/
theorem scaled_ends (least : Nat) {factor gap : Nat} (small : significand < 2 * least)
    (factors : factor = 1 ∨ 2 ≤ factor) (less : significand < otherSignificand * factor)
    (gapEq : (gap = factor ∧ otherSignificand = least) ∨
      (gap = 2 * factor ∧ (2 ≤ factor → least < otherSignificand))) :
    4 * significand + 2 + gap ≤ 4 * (otherSignificand * factor) ∧
      (significand % 2 = 0 → otherSignificand % 2 = 0 →
        4 * significand + 2 + gap ≠ 4 * (otherSignificand * factor)) := by
  rcases factors with rfl | double
  · omega
  · rcases Nat.exists_eq_add_of_le' double with ⟨more, rfl⟩
    rcases gapEq with ⟨isGap, isLeast⟩ | ⟨isGap, inside⟩
    · have bound : 1 * more ≤ least * more := Nat.mul_le_mul_right _ (by omega)
      rw [isGap, isLeast, Nat.mul_add]
      omega
    · have bound : (least + 1) * (more + 2) ≤ otherSignificand * (more + 2) :=
        Nat.mul_le_mul_right _ (inside double)
      rw [Nat.add_mul, Nat.mul_add] at bound
      omega

/-- The interval of a number ends before that of a larger one begins, or where it begins, and
then not both of them are even. -/
theorem Normal.upper_le_lower (normal : Normal significand shift)
    (other : Normal otherSignificand otherShift)
    (less : significand * 2 ^ shift < otherSignificand * 2 ^ otherShift) :
    4 * (significand * 2 ^ shift) + 2 * 2 ^ shift + lowerGap otherSignificand otherShift ≤
        4 * (otherSignificand * 2 ^ otherShift) ∧
      (significand % 2 = 0 → otherSignificand % 2 = 0 →
        4 * (significand * 2 ^ shift) + 2 * 2 ^ shift + lowerGap otherSignificand otherShift ≠
          4 * (otherSignificand * 2 ^ otherShift)) := by
  rcases Nat.exists_eq_add_of_le (normal.shift_le other less) with ⟨difference, rfl⟩
  rcases other.lowerGap_eq with ⟨gap, scaledGap, gapEq⟩
  have right : otherSignificand * 2 ^ (shift + difference) =
      otherSignificand * 2 ^ difference * 2 ^ shift := by
    rw [Nat.pow_add]
    ring
  have left : 4 * (significand * 2 ^ shift) + 2 * 2 ^ shift + gap * 2 ^ shift =
      (4 * significand + 2 + gap) * 2 ^ shift := by ring
  have factors : 2 ^ difference = 1 ∨ 2 ≤ 2 ^ difference := by
    cases difference with
    | zero => exact .inl rfl
    | succ difference => exact .inr (Nat.pow_le_pow_right (n := 2) (by decide) (Nat.le_add_left 1 _))
  rw [right] at less
  rcases scaled_ends (2 ^ 52) normal.lt factors (Nat.lt_of_mul_lt_mul_right less) gapEq with
    ⟨apart, distinct⟩
  rw [scaledGap, right, left, ← Nat.mul_assoc]
  refine ⟨Nat.mul_le_mul_right _ apart, fun even otherEven same => ?_⟩
  exact distinct even otherEven (Nat.eq_of_mul_eq_mul_right (by positivity) same)

end

/-! ## What an interval tells -/

/-- Whether a magnitude, in quarter units, lies in an interval. -/
def RoundingInterval.Holds (interval : RoundingInterval) (magnitude : ℚ) : Prop :=
  (interval.lower : ℚ) ≤ magnitude ∧ magnitude ≤ interval.upper ∧
    (interval.closed = false → (interval.lower : ℚ) ≠ magnitude ∧ magnitude ≠ interval.upper)

/-- No magnitude rounds to two numbers. -/
theorem not_holds_of_lt {units otherUnits : Nat} (precise : IsPrecise units)
    (otherPrecise : IsPrecise otherUnits) (positive : units ≠ 0) (less : units < otherUnits)
    {magnitude : ℚ} (holds : (roundingInterval units).Holds magnitude) :
    ¬ (roundingInterval otherUnits).Holds magnitude := by
  intro otherHolds
  rcases precise.exists_normal positive with ⟨significand, shift, rfl, nonzero, normal⟩
  rcases otherPrecise.exists_normal (by omega) with
    ⟨otherSignificand, otherShift, rfl, otherNonzero, otherNormal⟩
  rw [normal.roundingInterval_eq nonzero] at holds
  rw [otherNormal.roundingInterval_eq otherNonzero] at otherHolds
  rcases normal.upper_le_lower otherNormal less with ⟨apart, distinct⟩
  have ends : ((4 * (significand * 2 ^ shift) + 2 * 2 ^ shift : Nat) : ℚ) ≤
      (4 * (otherSignificand * 2 ^ otherShift) - lowerGap otherSignificand otherShift : Nat) :=
    Nat.cast_le.mpr (Nat.le_sub_of_add_le apart)
  have isUpper := le_antisymm holds.2.1 (ends.trans otherHolds.1)
  have isLower := le_antisymm otherHolds.1 (holds.2.1.trans ends)
  have even : significand % 2 = 0 := by
    refine Decidable.of_not_not fun odd => ?_
    exact (holds.2.2 (decide_eq_false odd)).2 isUpper
  have otherEven : otherSignificand % 2 = 0 := by
    refine Decidable.of_not_not fun odd => ?_
    exact (otherHolds.2.2 (decide_eq_false odd)).1 isLower
  have meet : 4 * (otherSignificand * 2 ^ otherShift) - lowerGap otherSignificand otherShift =
      4 * (significand * 2 ^ shift) + 2 * 2 ^ shift := Nat.cast_inj.mp (isLower.trans isUpper)
  exact distinct even otherEven (by omega)

/-- A magnitude rounds to one number at most. -/
theorem eq_of_holds {units otherUnits : Nat} (precise : IsPrecise units)
    (otherPrecise : IsPrecise otherUnits) (positive : units ≠ 0) (otherPositive : otherUnits ≠ 0)
    {magnitude : ℚ} (holds : (roundingInterval units).Holds magnitude)
    (otherHolds : (roundingInterval otherUnits).Holds magnitude) : units = otherUnits := by
  rcases Nat.lt_trichotomy units otherUnits with less | same | greater
  · exact absurd otherHolds (not_holds_of_lt precise otherPrecise positive less holds)
  · exact same
  · exact absurd holds (not_holds_of_lt otherPrecise precise otherPositive greater otherHolds)

end Binary64
end Conformance
