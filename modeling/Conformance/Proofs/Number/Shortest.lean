import Conformance.Proofs.Number.Rounding
import Mathlib.Algebra.Order.Field.Power
import Mathlib.Tactic.FieldSimp
import Mathlib.Tactic.Positivity

namespace Conformance
namespace Binary64

/-!
# The shortest decimal rounds to the number

The search for the shortest decimal tries grids of powers of ten, each ten times finer than
the one before.  A decimal that it finds lies in the rounding interval of the number.  It
does find one: the spacing of the last grid is less than a quarter of a unit in the last
place, as ten to the seventeenth is more than two to the fifty-fifth, so the grid point below
the number is in the interval.
-/

theorem two_pow_le_ten_pow {exponent larger : Nat} (within : exponent ≤ 3 * larger) :
    Nat.pow 2 exponent ≤ Nat.pow 10 larger := by
  simp only [Nat.pow_eq]
  calc
    2 ^ exponent ≤ 2 ^ (3 * larger) := Nat.pow_le_pow_right (by decide) within
    _ = (2 ^ 3) ^ larger := Nat.pow_mul 2 3 larger
    _ ≤ 10 ^ larger := Nat.pow_le_pow_left (by decide) larger

theorem two_pow_pos (exponent : Nat) : 0 < Nat.pow 2 exponent := by
  rw [Nat.pow_eq]
  positivity

theorem unitsPerOne_pos : 0 < unitsPerOne := by
  unfold unitsPerOne
  apply two_pow_pos

theorem unitsPerOne_le : unitsPerOne ≤ Nat.pow 10 400 := by
  unfold unitsPerOne
  apply two_pow_le_ten_pow
  decide

-- The unit is too large to be computed with in unary, so it is not to be unfolded.
attribute [local irreducible] unitsPerOne

/-- The number that a decimal denotes. -/
def Decimal.value (decimal : Decimal) : ℚ := decimal.digits * (10 : ℚ) ^ decimal.exponent

/-- The numerator of a power of ten. -/
def tenScale (exponent : Int) : Nat := if exponent < 0 then 1 else Nat.pow 10 exponent.toNat

/-- The denominator of a power of ten. -/
def tenDivisor (exponent : Int) : Nat := if exponent < 0 then Nat.pow 10 (-exponent).toNat else 1

theorem tenDivisor_pos (exponent : Int) : 0 < tenDivisor exponent := by
  rw [tenDivisor]
  split
  · exact Nat.pow_pos (by decide)
  · decide

theorem tenScale_pos (exponent : Int) : 0 < tenScale exponent := by
  rw [tenScale]
  split
  · decide
  · exact Nat.pow_pos (by decide)

theorem tenScale_eq (exponent : Int) :
    (tenScale exponent : ℚ) = tenDivisor exponent * (10 : ℚ) ^ exponent := by
  rw [tenScale, tenDivisor]
  split
  case isTrue negative =>
    rcases Int.eq_ofNat_of_zero_le (show 0 ≤ -exponent by omega) with ⟨magnitude, equal⟩
    have power : ((Nat.pow 10 magnitude : Nat) : ℚ) = (10 : ℚ) ^ magnitude := by simp
    rw [equal, Int.toNat_natCast, power, show exponent = -(magnitude : Int) by omega, zpow_neg,
      zpow_natCast, mul_inv_cancel₀ (by positivity), Nat.cast_one]
  case isFalse natural =>
    rcases Int.eq_ofNat_of_zero_le (show 0 ≤ exponent by omega) with ⟨magnitude, rfl⟩
    simp

/-- A fraction that an interval contains lies in it. -/
theorem RoundingInterval.holds_of_contains {interval : RoundingInterval}
    {numerator denominator : Nat} {magnitude : ℚ} (positive : 0 < denominator)
    (scaled : (numerator : ℚ) = magnitude * denominator)
    (contains : interval.contains numerator denominator = true) : interval.Holds magnitude := by
  have divisor : (0 : ℚ) < denominator := Nat.cast_pos.mpr positive
  have above (order : interval.lower * denominator ≤ numerator) :
      (interval.lower : ℚ) ≤ magnitude := by
    refine le_of_mul_le_mul_right ?_ divisor
    rw [← scaled]
    exact_mod_cast order
  have below (order : numerator ≤ interval.upper * denominator) :
      magnitude ≤ (interval.upper : ℚ) := by
    refine le_of_mul_le_mul_right ?_ divisor
    rw [← scaled]
    exact_mod_cast order
  cases closed : interval.closed with
  | true =>
      simp only [RoundingInterval.contains, closed, if_true, Bool.and_eq_true, decide_eq_true_eq]
        at contains
      refine ⟨above contains.1, below contains.2, fun isOpen => ?_⟩
      exact absurd (closed.symm.trans isOpen) (by decide)
  | false =>
      simp only [RoundingInterval.contains, closed, Bool.false_eq_true, if_false, Bool.and_eq_true,
        decide_eq_true_eq] at contains
      refine ⟨above contains.1.le, below contains.2.le, fun _ => ⟨?_, ?_⟩⟩
      · rintro isLower
        rw [← isLower] at scaled
        exact absurd (Nat.cast_injective (R := ℚ) (by rw [scaled, Nat.cast_mul])) contains.1.ne'
      · rintro rfl
        exact absurd (Nat.cast_injective (R := ℚ) (by rw [scaled, Nat.cast_mul])) contains.2.ne

/-- An interval contains what lies between its ends. -/
theorem RoundingInterval.contains_of_lt {interval : RoundingInterval} {numerator denominator : Nat}
    (above : interval.lower * denominator < numerator)
    (below : numerator < interval.upper * denominator) :
    interval.contains numerator denominator = true := by
  rw [RoundingInterval.contains]
  split
  · exact Bool.and_eq_true_iff.mpr ⟨decide_eq_true above.le, decide_eq_true below.le⟩
  · exact Bool.and_eq_true_iff.mpr ⟨decide_eq_true above, decide_eq_true below⟩

/-- Whether a point of a grid is found to round to a number. -/
def gridFits (interval : RoundingInterval) (exponent : Int) (point : Nat) : Bool :=
  point ≠ 0 && interval.contains (4 * point * tenScale exponent * unitsPerOne) (tenDivisor exponent)

/-- The point of a grid below a number. -/
def gridBelow (units : Nat) (exponent : Int) : Nat :=
  units * tenDivisor exponent / (unitsPerOne * tenScale exponent)

section

variable {units point : Nat} {interval : RoundingInterval} {exponent : Int}

/-- Two points of a grid are tried, and the point below the number is one of them. -/
theorem gridPoint?_eq (units : Nat) (interval : RoundingInterval) (exponent : Int) :
    ∃ first second, (first = gridBelow units exponent ∨ second = gridBelow units exponent) ∧
      gridPoint? units interval exponent =
        if gridFits interval exponent first then some first
        else if gridFits interval exponent second then some second
        else none := by
  let denominator := unitsPerOne * tenScale exponent
  let rest := units * tenDivisor exponent % denominator
  let preferBelow := 2 * rest < denominator ||
    (2 * rest = denominator && gridBelow units exponent % 2 = 0)
  have equal : gridPoint? units interval exponent =
      if gridFits interval exponent
          (if preferBelow then gridBelow units exponent else gridBelow units exponent + 1) then
        some (if preferBelow then gridBelow units exponent else gridBelow units exponent + 1)
      else if gridFits interval exponent
          (if preferBelow then gridBelow units exponent + 1 else gridBelow units exponent) then
        some (if preferBelow then gridBelow units exponent + 1 else gridBelow units exponent)
      else none := rfl
  refine ⟨_, _, ?_, equal⟩
  rcases Bool.eq_false_or_eq_true preferBelow with isBelow | isAbove
  · exact .inl (if_pos isBelow)
  · exact .inr (if_neg (Bool.eq_false_iff.mp isAbove))

/-- A grid point that is found rounds to the number. -/
theorem gridFits_of_gridPoint? (found : gridPoint? units interval exponent = some point) :
    gridFits interval exponent point = true := by
  rcases gridPoint?_eq units interval exponent with ⟨first, second, _, equal⟩
  rw [equal] at found
  split at found
  case isTrue fits =>
    cases found
    exact fits
  case isFalse =>
    split at found
    case isTrue fits =>
      cases found
      exact fits
    case isFalse => cases found

/-- If the grid point below the number rounds to it, some grid point is found. -/
theorem exists_gridPoint? (fits : gridFits interval exponent (gridBelow units exponent) = true) :
    ∃ point, gridPoint? units interval exponent = some point := by
  rcases gridPoint?_eq units interval exponent with ⟨first, second, isBelow, equal⟩
  rw [equal]
  split
  case isTrue => exact ⟨first, rfl⟩
  case isFalse misses =>
    rcases isBelow with rfl | rfl
    · exact absurd fits misses
    · exact ⟨_, if_pos fits⟩

/-- A grid point that rounds to the number lies in the interval. -/
theorem holds_of_gridFits (fits : gridFits interval exponent point = true) :
    point ≠ 0 ∧ interval.Holds (4 * unitsPerOne * (⟨point, exponent⟩ : Decimal).value) := by
  rw [gridFits, Bool.and_eq_true, decide_eq_true_eq] at fits
  refine ⟨fits.1, RoundingInterval.holds_of_contains (tenDivisor_pos exponent) ?_ fits.2⟩
  rw [Nat.cast_mul, Nat.cast_mul, Nat.cast_mul, tenScale_eq, Decimal.value]
  ring

/-! ## The search -/

section

attribute [local irreducible] gridPoint?

/-- One step of the search. -/
theorem shortestFrom_succ (units : Nat) (interval : RoundingInterval) (exponent : Int)
    (grids : Nat) :
    shortestFrom units interval exponent (grids + 1) =
      match gridPoint? units interval exponent with
      | some point => ⟨point, exponent⟩
      | none => shortestFrom units interval (exponent - 1) grids := rfl

/-- Some grid between the first and the last holds the decimal that is found. -/
theorem shortestFrom_eq {grids offset : Nat} (within : offset < grids)
    (found : ∃ point, gridPoint? units interval (exponent - offset) = some point) :
    ∃ point finer, shortestFrom units interval exponent grids = ⟨point, finer⟩ ∧
      gridPoint? units interval finer = some point := by
  induction grids generalizing exponent offset with
  | zero => exact absurd within (Nat.not_lt_zero offset)
  | succ grids inductionHypothesis =>
      cases here : gridPoint? units interval exponent with
      | some point => exact ⟨point, exponent, by rw [shortestFrom_succ, here], here⟩
      | none =>
          cases offset with
          | zero =>
              rcases found with ⟨point, found⟩
              rw [Int.natCast_zero, Int.sub_zero, here] at found
              cases found
          | succ offset =>
              rw [show exponent - (offset + 1 : Nat) = exponent - 1 - (offset : Int) by omega] at found
              rcases inductionHypothesis (by omega) found with ⟨point, finer, equal, there⟩
              exact ⟨point, finer, by rw [shortestFrom_succ, here]; exact equal, there⟩

end

end

/-! ## Seventeen digits -/

section

variable {units : Nat}

/-- The first digit of a number stands at the power of ten below it. -/
theorem leadingExponent_le (positive : units ≠ 0) : ∃ length : Nat,
    leadingExponent units = (length : Int) - 400 ∧
      10 ^ length * unitsPerOne ≤ units * Nat.pow 10 400 := by
  rw [leadingExponent]
  generalize scaledEq : units * Nat.pow 10 400 / unitsPerOne = scaled
  have least : 0 < scaled := by
    rw [← scaledEq]
    refine Nat.div_pos (unitsPerOne_le.trans ?_) unitsPerOne_pos
    exact Nat.le_mul_of_pos_left _ (Nat.pos_of_ne_zero positive)
  rcases Nat.exists_eq_add_of_lt (Nat.length_toDigits_pos (b := 10) (n := scaled)) with
    ⟨length, digits⟩
  have large : 10 ^ length ≤ scaled := by
    rcases Nat.eq_zero_or_pos length with rfl | several
    · exact least
    · refine Nat.le_of_not_lt fun small => ?_
      have fewer := (Nat.length_toDigits_le_iff (b := 10) (by decide) several).mpr small
      omega
  refine ⟨length, by omega, ?_⟩
  rw [← scaledEq] at large
  exact (Nat.le_div_iff_mul_le unitsPerOne_pos).mp large

/-- On a grid that is `finer` digits below the first one, the number is that many powers of
ten away from zero. -/
theorem grid_le {length above finer : Nat} {exponent : Int}
    (leading : 10 ^ length * unitsPerOne ≤ units * Nat.pow 10 above)
    (below : exponent = (length : Int) - above - finer) :
    unitsPerOne * tenScale exponent * 10 ^ finer ≤ units * tenDivisor exponent := by
  have power : (10 : ℚ) ^ exponent * 10 ^ finer * 10 ^ above = 10 ^ length := by
    rw [below, ← zpow_natCast, ← zpow_natCast, ← zpow_natCast, ← zpow_add₀ (by norm_num),
      ← zpow_add₀ (by norm_num)]
    congr 1
    ring
  have scaled : unitsPerOne * tenScale exponent * 10 ^ finer * 10 ^ above =
      10 ^ length * unitsPerOne * tenDivisor exponent := by
    rw [← Nat.cast_inj (R := ℚ)]
    push_cast
    rw [tenScale_eq, ← power]
    ring
  refine Nat.le_of_mul_le_mul_right ?_ (show 0 < 10 ^ above by positivity)
  rw [scaled, Nat.mul_right_comm units]
  exact Nat.mul_le_mul_right _ leading

/-- A grid so fine is found to have a point that rounds to the number. -/
theorem gridFits_gridBelow {significand shift : Nat} {exponent : Int}
    (normal : Normal significand shift) (positive : significand ≠ 0)
    (fine : unitsPerOne * tenScale exponent * 10 ^ 17 ≤
      significand * 2 ^ shift * tenDivisor exponent) :
    gridFits (roundingInterval (significand * 2 ^ shift)) exponent
      (gridBelow (significand * 2 ^ shift) exponent) = true := by
  have spacing : 0 < unitsPerOne * tenScale exponent :=
    Nat.mul_pos unitsPerOne_pos (tenScale_pos exponent)
  have gap : 2 ^ shift ≤ lowerGap significand shift := by
    rw [lowerGap]
    split <;> omega
  -- The spacing of the grid is at most a quarter of the gap below the number.
  have quarter : 4 * (unitsPerOne * tenScale exponent) ≤
      lowerGap significand shift * tenDivisor exponent := by
    refine Nat.le_of_mul_le_mul_right ?_ (show 0 < 2 ^ 53 by decide)
    calc
      4 * (unitsPerOne * tenScale exponent) * 2 ^ 53 = unitsPerOne * tenScale exponent * 2 ^ 55 := by
        ring
      _ ≤ unitsPerOne * tenScale exponent * 10 ^ 17 := Nat.mul_le_mul_left _ (by decide)
      _ ≤ significand * 2 ^ shift * tenDivisor exponent := fine
      _ ≤ 2 ^ 53 * lowerGap significand shift * tenDivisor exponent :=
        Nat.mul_le_mul_right _ (Nat.mul_le_mul normal.lt.le gap)
      _ = lowerGap significand shift * tenDivisor exponent * 2 ^ 53 := by ring
  have positivePoint : gridBelow (significand * 2 ^ shift) exponent ≠ 0 := by
    have large : 10 ^ 17 ≤ gridBelow (significand * 2 ^ shift) exponent := by
      rw [gridBelow, Nat.le_div_iff_mul_le spacing, Nat.mul_comm]
      exact fine
    omega
  have division : unitsPerOne * tenScale exponent * gridBelow (significand * 2 ^ shift) exponent +
      significand * 2 ^ shift * tenDivisor exponent % (unitsPerOne * tenScale exponent) =
      significand * 2 ^ shift * tenDivisor exponent := Nat.div_add_mod _ _
  have remainder := Nat.mod_lt (significand * 2 ^ shift * tenDivisor exponent) spacing
  have scaled : 4 * gridBelow (significand * 2 ^ shift) exponent * tenScale exponent * unitsPerOne =
      4 * (unitsPerOne * tenScale exponent * gridBelow (significand * 2 ^ shift) exponent) := by
    ring
  have upper : 0 < 2 * 2 ^ shift * tenDivisor exponent :=
    Nat.mul_pos (by positivity) (tenDivisor_pos exponent)
  rw [gridFits, normal.roundingInterval_eq positive, scaled]
  refine Bool.and_eq_true_iff.mpr ⟨decide_eq_true positivePoint, RoundingInterval.contains_of_lt ?_ ?_⟩
  · rw [Nat.sub_mul, Nat.mul_assoc 4]
    omega
  · rw [Nat.add_mul, Nat.mul_assoc 4 (significand * 2 ^ shift)]
    omega

/-- The shortest decimal of a number is positive and rounds to the number. -/
theorem shortest_holds (precise : IsPrecise units) (positive : units ≠ 0) :
    (shortest units).digits ≠ 0 ∧
      (roundingInterval units).Holds (4 * unitsPerOne * (shortest units).value) := by
  rcases precise.exists_normal positive with ⟨significand, shift, rfl, nonzero, normal⟩
  rcases leadingExponent_le positive with ⟨length, leadingEq, leading⟩
  have fine : unitsPerOne * tenScale ((length : Int) - 400 - 17) * 10 ^ 17 ≤
      significand * 2 ^ shift * tenDivisor ((length : Int) - 400 - 17) :=
    grid_le leading (by omega)
  have found := exists_gridPoint? (gridFits_gridBelow normal nonzero fine)
  rw [← leadingEq] at found
  rcases shortestFrom_eq (show 17 < 18 by decide) found with
    ⟨point, finer, equal, here⟩
  rw [shortest, equal]
  exact holds_of_gridFits (gridFits_of_gridPoint? here)

end

end Binary64
end Conformance
