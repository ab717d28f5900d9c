import Conformance.Proofs.Number.Shortest
import Mathlib.Data.Nat.Log
import Mathlib.Tactic.Zify

namespace Conformance
namespace Binary64

/-!
# Rounding keeps the order

Whole units are rounded to a multiple of a power of two, the spacing.  Of two counts with one
spacing the smaller one is not rounded beyond the larger one, and where the spacings differ there is
a number of the format between the two.  So rounding never turns an order around; it can only make
two counts equal.  How far apart these are is bounded too, because a count is moved by half of its
spacing at most, and a spacing is 52 binary places smaller than the count.
-/

/-- The power of two that is the spacing of the numbers around a count of units. -/
def spacing (units : Nat) : Nat := units.log2 + 1 - 53

/-- The nearest multiple of a step, counted in steps; a tie goes to the even one. -/
def nearestMultiple (step units : Nat) : Nat :=
  if 2 * (units % step) < step then units / step
  else if step < 2 * (units % step) then units / step + 1
  else if units / step % 2 = 0 then units / step
  else units / step + 1

theorem roundUnits_eq (units : Nat) :
    roundUnits units 1 = nearestMultiple (2 ^ spacing units) units * 2 ^ spacing units := by
  rw [roundUnits, Nat.div_one, Nat.mul_one]
  rfl

/-! ## Multiples of one step -/

section

variable {step left right units : Nat}

theorem nearestMultiple_cases (step units : Nat) :
    (nearestMultiple step units = units / step ∧ 2 * (units % step) ≤ step) ∨
      (nearestMultiple step units = units / step + 1 ∧ step ≤ 2 * (units % step)) := by
  unfold nearestMultiple
  split
  · exact .inl ⟨rfl, by omega⟩
  · split
    · exact .inr ⟨rfl, by omega⟩
    · split
      · exact .inl ⟨rfl, by omega⟩
      · exact .inr ⟨rfl, by omega⟩

/-- A count is moved by half a step at most. -/
theorem nearestMultiple_near (positive : 0 < step) (units : Nat) :
    2 * (nearestMultiple step units * step) ≤ 2 * units + step ∧
      2 * units ≤ 2 * (nearestMultiple step units * step) + step := by
  have division := Nat.div_add_mod' units step
  have rest := Nat.mod_lt units positive
  rcases nearestMultiple_cases step units with ⟨below, close⟩ | ⟨above, close⟩
  · rw [below]
    omega
  · rw [above, Nat.add_mul]
    omega

theorem nearestMultiple_mono (order : left ≤ right) :
    nearestMultiple step left ≤ nearestMultiple step right := by
  have quotients : left / step ≤ right / step := Nat.div_le_div_right order
  rcases Nat.lt_or_eq_of_le quotients with less | same
  · rcases nearestMultiple_cases step left with ⟨below, _⟩ | ⟨above, _⟩ <;>
      rcases nearestMultiple_cases step right with ⟨other, _⟩ | ⟨other, _⟩ <;> omega
  · -- Between the same two multiples the rests decide, and they are in order.
    have rests : left % step ≤ right % step := by
      have leftDivision := Nat.div_add_mod' left step
      have rightDivision := Nat.div_add_mod' right step
      rw [← same] at rightDivision
      omega
    unfold nearestMultiple
    rw [same]
    split_ifs <;> omega

end

/-! ## The spacing of a count -/

section

variable {left right units : Nat}

theorem spacing_mono (order : left ≤ right) : spacing left ≤ spacing right := by
  have powers : left.log2 ≤ right.log2 := by
    rw [Nat.log2_eq_log_two, Nat.log2_eq_log_two]
    exact Nat.log_mono_right order
  unfold spacing
  omega

/-- Where the spacing is not the least one, a count is made of 53 bits in front of it. -/
theorem le_of_spacing_pos (wide : 0 < spacing units) : 2 ^ 52 * 2 ^ spacing units ≤ units := by
  have nonzero : units ≠ 0 := by
    rintro rfl
    exact absurd wide (by decide)
  rw [← Nat.pow_add]
  refine le_trans (Nat.pow_le_pow_right (by decide) ?_) (Nat.log2_self_le nonzero)
  unfold spacing at *
  omega

theorem lt_spacing (units : Nat) : units < 2 ^ 53 * 2 ^ spacing units := by
  rw [← Nat.pow_add]
  refine lt_of_lt_of_le Nat.lt_log2_self (Nat.pow_le_pow_right (by decide) ?_)
  unfold spacing
  omega

end

/-! ## Rounded counts -/

section

variable {left right units : Nat}

/-- A number of the format is rounded to itself. -/
theorem roundUnits_of_isPrecise (precise : IsPrecise units) : roundUnits units 1 = units := by
  by_cases zero : units = 0
  · rw [zero]
    decide
  · rcases precise.exists_normal zero with ⟨significand, shift, rfl, nonzero, normal⟩
    have spaced : spacing (significand * 2 ^ shift) = shift := normal.shift_eq nonzero
    rw [roundUnits_eq, spaced]
    have whole : nearestMultiple (2 ^ shift) (significand * 2 ^ shift) = significand := by
      have positive : 0 < 2 ^ shift := by positivity
      rw [nearestMultiple, Nat.mul_mod_left, Nat.mul_div_cancel _ positive, if_pos (by omega)]
    rw [whole]

/-- Rounding keeps the order. -/
theorem roundUnits_mono (order : left ≤ right) : roundUnits left 1 ≤ roundUnits right 1 := by
  rw [roundUnits_eq, roundUnits_eq]
  rcases Nat.lt_or_eq_of_le (spacing_mono order) with wider | same
  · -- The power of two above the left count is not above the rounded right count.
    have leftNear : nearestMultiple (2 ^ spacing left) left ≤ 2 ^ 53 := by
      have quotient : left / 2 ^ spacing left < 2 ^ 53 :=
        (Nat.div_lt_iff_lt_mul (by positivity)).mpr (lt_spacing left)
      rcases nearestMultiple_cases (2 ^ spacing left) left with ⟨equal, _⟩ | ⟨equal, _⟩ <;> omega
    have rightNear : 2 ^ 52 ≤ nearestMultiple (2 ^ spacing right) right := by
      have quotient : 2 ^ 52 ≤ right / 2 ^ spacing right :=
        (Nat.le_div_iff_mul_le (by positivity)).mpr (le_of_spacing_pos (by omega))
      rcases nearestMultiple_cases (2 ^ spacing right) right with ⟨equal, _⟩ | ⟨equal, _⟩ <;> omega
    calc
      nearestMultiple (2 ^ spacing left) left * 2 ^ spacing left ≤ 2 ^ 53 * 2 ^ spacing left :=
        Nat.mul_le_mul_right _ leftNear
      _ = 2 ^ 52 * 2 ^ (spacing left + 1) := by ring
      _ ≤ 2 ^ 52 * 2 ^ spacing right :=
        Nat.mul_le_mul_left _ (Nat.pow_le_pow_right (by decide) wider)
      _ ≤ nearestMultiple (2 ^ spacing right) right * 2 ^ spacing right :=
        Nat.mul_le_mul_right _ rightNear
  · rw [same]
    exact Nat.mul_le_mul_right _ (nearestMultiple_mono order)

/-- A count is moved by one part in `2 ^ 53` at most. -/
theorem roundUnits_near (units : Nat) :
    2 ^ 53 * roundUnits units 1 ≤ 2 ^ 53 * units + units ∧
      2 ^ 53 * units ≤ 2 ^ 53 * roundUnits units 1 + units := by
  rw [roundUnits_eq]
  rcases Nat.eq_zero_or_pos (spacing units) with least | wide
  · have whole : nearestMultiple 1 units = units := by
      rw [nearestMultiple, Nat.mod_one, if_pos (by decide), Nat.div_one]
    rw [least, Nat.pow_zero, whole]
    omega
  · have near := nearestMultiple_near (show 0 < 2 ^ spacing units by positivity) units
    have wider := le_of_spacing_pos wide
    omega

end

/-! ## Integers -/

theorem IsPrecise.shifted {units : Nat} (precise : IsPrecise units) (shift : Nat) :
    IsPrecise (units * 2 ^ shift) := by
  rcases precise with ⟨significand, exponent, small, rfl⟩
  exact ⟨significand, exponent + shift, small, by rw [Nat.pow_add, Nat.mul_assoc]⟩

/-- Whole numbers of 53 bits are numbers of the format. -/
theorem isPrecise_mul_unitsPerOne {whole : Nat} (small : whole ≤ 2 ^ 53) :
    IsPrecise (whole * unitsPerOne) := by
  have shifted : ∀ shift, IsPrecise (whole * Nat.pow 2 shift) := isPrecise_of_le small
  unfold unitsPerOne
  apply shifted

-- The unit is too large to be computed with in unary, so it is not to be unfolded.
attribute [local irreducible] unitsPerOne

/-- The units of the number nearest to an integer, with its sign. -/
def nearestUnits (value : Int) : Int :=
  signedUnits (value < 0) (roundUnits (value.natAbs * unitsPerOne) 1)

section

variable {left right value : Int}

theorem nearestUnits_of_nonneg (nonnegative : 0 ≤ value) :
    nearestUnits value = roundUnits (value.natAbs * unitsPerOne) 1 := by
  rw [nearestUnits, signedUnits, if_neg (by simpa using nonnegative)]

theorem nearestUnits_of_neg (negative : value < 0) :
    nearestUnits value = -roundUnits (value.natAbs * unitsPerOne) 1 := by
  rw [nearestUnits, signedUnits, if_pos (by simpa using negative)]

/-- The numbers nearest to two integers are in the order of the integers. -/
theorem nearestUnits_mono (order : left ≤ right) : nearestUnits left ≤ nearestUnits right := by
  rcases lt_or_ge left 0 with leftNegative | leftNonnegative
  · rw [nearestUnits_of_neg leftNegative]
    rcases lt_or_ge right 0 with rightNegative | rightNonnegative
    · have rounded : roundUnits (right.natAbs * unitsPerOne) 1 ≤
          roundUnits (left.natAbs * unitsPerOne) 1 :=
        roundUnits_mono (Nat.mul_le_mul_right _ (by omega))
      rw [nearestUnits_of_neg rightNegative]
      omega
    · rw [nearestUnits_of_nonneg rightNonnegative]
      omega
  · have rounded : roundUnits (left.natAbs * unitsPerOne) 1 ≤
        roundUnits (right.natAbs * unitsPerOne) 1 :=
      roundUnits_mono (Nat.mul_le_mul_right _ (by omega))
    rw [nearestUnits_of_nonneg leftNonnegative, nearestUnits_of_nonneg (by omega)]
    omega

/-- So one of them is not above the other, unless they are in the wrong order and have one nearest
number. -/
theorem nearestUnits_le_iff :
    nearestUnits left ≤ nearestUnits right ↔ left ≤ right ∨ nearestUnits left = nearestUnits right := by
  constructor
  · intro rounded
    refine (le_total left right).imp id fun order => ?_
    exact le_antisymm rounded (nearestUnits_mono order)
  · rintro (order | same)
    · exact nearestUnits_mono order
    · exact same.le

/-- An integer that is a number of the format is the number nearest to it. -/
theorem nearestUnits_of_isPrecise (precise : IsPrecise (value.natAbs * unitsPerOne)) :
    nearestUnits value = value * unitsPerOne := by
  have natural : (value.natAbs * unitsPerOne : Nat) = |value| * (unitsPerOne : Int) := by
    rw [Nat.cast_mul, Int.natCast_natAbs]
  rcases lt_or_ge value 0 with negative | nonnegative
  · rw [nearestUnits_of_neg negative, roundUnits_of_isPrecise precise, natural,
      abs_of_neg negative, neg_mul, neg_neg]
  · rw [nearestUnits_of_nonneg nonnegative, roundUnits_of_isPrecise precise, natural,
      abs_of_nonneg nonnegative]

/-- Integers up to `2 ^ 53` are numbers of the format. -/
theorem nearestUnits_of_natAbs_le (small : value.natAbs ≤ 2 ^ 53) :
    nearestUnits value = value * unitsPerOne :=
  nearestUnits_of_isPrecise (isPrecise_mul_unitsPerOne small)

/-- An integer is moved by one part in `2 ^ 53` at most. -/
theorem nearestUnits_near (value : Int) :
    2 ^ 53 * nearestUnits value ≤ (2 ^ 53 * value + |value|) * unitsPerOne ∧
      (2 ^ 53 * value - |value|) * unitsPerOne ≤ 2 ^ 53 * nearestUnits value := by
  have near := roundUnits_near (value.natAbs * unitsPerOne)
  zify at near
  rcases lt_or_ge value 0 with negative | nonnegative
  · rw [nearestUnits_of_neg negative]
    rw [abs_of_neg negative] at near ⊢
    constructor <;> linarith
  · rw [nearestUnits_of_nonneg nonnegative]
    rw [abs_of_nonneg nonnegative] at near ⊢
    constructor <;> linarith

/-- Two integers with one nearest number lie close together. -/
theorem sub_le_of_nearestUnits_le (rounded : nearestUnits left ≤ nearestUnits right) :
    2 ^ 53 * (left - right) ≤ |left| + |right| := by
  have positive : (0 : Int) < unitsPerOne := by exact_mod_cast unitsPerOne_pos
  have scaled : 2 ^ 53 * (left - right) * unitsPerOne ≤ (|left| + |right|) * unitsPerOne := by
    have leftNear := (nearestUnits_near left).2
    have rightNear := (nearestUnits_near right).1
    linarith
  exact le_of_mul_le_mul_right scaled positive

/-- The number nearest to an integer of 64 bits is finite. -/
theorem ofInt_eq (small : value.natAbs ≤ 2 ^ 64) :
    ofInt value = finite (value < 0) (roundUnits (value.natAbs * unitsPerOne) 1) := by
  have most : 2 ^ 64 * unitsPerOne ≤ maxUnits := by
    unfold unitsPerOne
    decide +kernel
  have precise : IsPrecise (2 ^ 64 * unitsPerOne) := by
    rw [← Nat.one_mul unitsPerOne, Nat.mul_comm]
    exact (isPrecise_mul_unitsPerOne (by decide)).shifted 64
  have bound : roundUnits (value.natAbs * unitsPerOne) 1 ≤ maxUnits := by
    refine (roundUnits_mono (Nat.mul_le_mul_right _ small)).trans ?_
    rwa [roundUnits_of_isPrecise precise]
  rw [ofInt, ofRatio, ofUnits, if_neg (Nat.not_lt.mpr bound)]

end

end Binary64
end Conformance
