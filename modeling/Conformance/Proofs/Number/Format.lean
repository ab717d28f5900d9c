import Conformance.Number.Literal
import Mathlib.Algebra.Ring.Nat

namespace Conformance

/-!
# Numbers of the format

A binary64 number is kept as a count of units, which can be any count.  The numbers of the
format are those with at most 53 significant bits.  Rounding makes no others, so every number
that is made of a ratio or of an integer is one of them.
-/

namespace Binary64

/-- A count of units with at most 53 significant bits, as all numbers of the format have. -/
def IsPrecise (units : Nat) : Prop :=
  ∃ significand exponent, significand < 2 ^ 53 ∧ units = significand * 2 ^ exponent

/-- A number of the format: what is finite has at most 53 significant bits. -/
def IsRepresentable (number : Binary64) : Prop :=
  ∀ negative units, number = .finite negative units → IsPrecise units

/-! ## Rounding -/

/-- A significand of 53 bits may also be carried to the next power of two. -/
theorem isPrecise_of_le {significand : Nat} (bound : significand ≤ 2 ^ 53) (shift : Nat) :
    IsPrecise (significand * 2 ^ shift) := by
  rcases Nat.lt_or_eq_of_le bound with small | carried
  · exact ⟨significand, shift, small, rfl⟩
  · refine ⟨1, 53 + shift, by decide, ?_⟩
    rw [carried, Nat.one_mul, Nat.pow_add]

/-- What is rounded is precise. -/
theorem isPrecise_roundUnits (numerator denominator : Nat) :
    IsPrecise (roundUnits numerator denominator) := by
  have kept : numerator /
      (Nat.pow 2 ((numerator / denominator).log2 + 1 - 53) * denominator) < 2 ^ 53 := by
    rw [Nat.pow_eq, Nat.mul_comm, ← Nat.div_div_eq_div_mul]
    generalize numerator / denominator = whole
    refine Nat.div_lt_of_lt_mul (Nat.lt_of_lt_of_le Nat.lt_log2_self ?_)
    rw [← Nat.pow_add]
    exact Nat.pow_le_pow_right (by decide) (by omega)
  rw [roundUnits]
  refine isPrecise_of_le ?_ _
  split
  · exact Nat.le_of_lt kept
  · split
    · exact kept
    · split
      · exact Nat.le_of_lt kept
      · exact kept

theorem isRepresentable_finite {units : Nat} (precise : IsPrecise units) (negative : Bool) :
    (finite negative units).IsRepresentable := by
  rintro _ _ ⟨⟩
  exact precise

theorem isRepresentable_ofRatio (negative : Bool) (numerator denominator : Nat) :
    (ofRatio negative numerator denominator).IsRepresentable := by
  have precise := isPrecise_roundUnits (numerator * unitsPerOne) denominator
  unfold ofRatio ofUnits
  generalize roundUnits (numerator * unitsPerOne) denominator = units at precise ⊢
  generalize maxUnits = most
  split
  · rintro _ _ ⟨⟩
  · exact isRepresentable_finite precise negative

theorem isRepresentable_ofInt (value : Int) : (ofInt value).IsRepresentable := by
  unfold ofInt
  apply isRepresentable_ofRatio

end Binary64
end Conformance
