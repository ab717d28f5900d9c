import Conformance.Number.Layout
import Conformance.Proofs.Number.Shortest

namespace Conformance
namespace Binary64

/-!
# Plain texts of numbers

A plain text is written without an exponent, so its digits and the place of its decimal point
denote a magnitude.  The magnitude is the shortest decimal of the number, and that rounds to
no other number.  So no two numbers have one plain text, and a text with a sign in front is
the text of no magnitude.
-/

/-- The magnitude that digits with a decimal point denote. -/
def magnitudeOf (text : List Char) : ℚ :=
  let whole := text.takeWhile (· != '.')
  let fraction := (text.dropWhile (· != '.')).drop 1
  Nat.ofDigitChars 10 (whole ++ fraction) 0 * (10 : ℚ) ^ (-(fraction.length : Int))

section

variable {whole fraction digits : List Char} {point : Int}

/-- Digits without a decimal point. -/
theorem magnitudeOf_whole (noPoint : ∀ c ∈ whole, (c != '.') = true) :
    magnitudeOf whole = Nat.ofDigitChars 10 whole 0 := by
  have front : whole.takeWhile (· != '.') = whole := by
    simpa using @List.takeWhile_append_of_pos _ _ whole [] noPoint
  have behind : whole.dropWhile (· != '.') = [] := by
    simpa using @List.dropWhile_append_of_pos _ _ whole [] noPoint
  simp only [magnitudeOf, front, behind, List.drop_nil, List.append_nil, List.length_nil,
    Int.natCast_zero, neg_zero, zpow_zero, mul_one]

/-- Digits around a decimal point. -/
theorem magnitudeOf_point (noPoint : ∀ c ∈ whole, (c != '.') = true) :
    magnitudeOf (whole ++ '.' :: fraction) =
      Nat.ofDigitChars 10 (whole ++ fraction) 0 * (10 : ℚ) ^ (-(fraction.length : Int)) := by
  have front : (whole ++ '.' :: fraction).takeWhile (· != '.') = whole := by
    rw [List.takeWhile_append_of_pos noPoint]
    simp
  have behind : (whole ++ '.' :: fraction).dropWhile (· != '.') = '.' :: fraction := by
    rw [List.dropWhile_append_of_pos noPoint]
    simp
  simp only [magnitudeOf, front, behind, List.drop_one, List.tail_cons]

theorem isDigit_ne_point {c : Char} (digit : c.isDigit = true) : (c != '.') = true := by
  refine bne_iff_ne.mpr ?_
  rintro rfl
  cases digit

theorem ofDigitChars_zeros (count : Nat) (digits : List Char) :
    Nat.ofDigitChars 10 (List.replicate count '0' ++ digits) 0 = Nat.ofDigitChars 10 digits 0 := by
  rw [Nat.ofDigitChars_append, Nat.ofDigitChars_replicate_zero, Nat.mul_zero]

/-- Wherever the decimal point of a plain text goes, the text denotes what the digits and the
point say. -/
theorem magnitudeOf_positionalText (areDigits : ∀ c ∈ digits, c.isDigit = true) :
    magnitudeOf (positionalText plainLayout digits point) =
      Nat.ofDigitChars 10 digits 0 * (10 : ℚ) ^ (point - digits.length) := by
  have noPoint : ∀ c ∈ digits, (c != '.') = true := fun c listed =>
    isDigit_ne_point (areDigits c listed)
  rw [positionalText]
  split
  case isTrue negative =>
    have text : '0' :: '.' :: zeros (-point) ++ digits = ['0'] ++ '.' :: (zeros (-point) ++ digits) :=
      rfl
    rw [text, magnitudeOf_point (List.forall_mem_singleton.mpr (by decide))]
    have front : ['0'] ++ (zeros (-point) ++ digits) =
        List.replicate ((-point).toNat + 1) '0' ++ digits := rfl
    rw [front, ofDigitChars_zeros, List.length_append, zeros, List.length_replicate]
    congr 2
    omega
  case isFalse positive =>
    split
    case isTrue long =>
      rcases Int.eq_ofNat_of_zero_le (show 0 ≤ point - digits.length by omega) with ⟨count, equal⟩
      have text : digits ++ zeros (point - digits.length) ++ plainLayout.wholeSuffix.toList =
          digits ++ List.replicate count '0' := by
        rw [equal]
        exact List.append_nil _
      have noPointBehind : ∀ c ∈ List.replicate count '0', (c != '.') = true := by
        intro c listed
        rw [List.eq_of_mem_replicate listed]
        decide
      rw [text, magnitudeOf_whole (List.forall_mem_append.mpr ⟨noPoint, noPointBehind⟩),
        Nat.ofDigitChars_append, Nat.ofDigitChars_replicate_zero, equal, zpow_natCast, Nat.cast_mul,
        Nat.cast_pow, mul_comm]
      rfl
    case isFalse short =>
      have before : ∀ c ∈ digits.take point.toNat, (c != '.') = true := fun c listed =>
        noPoint c (List.mem_of_mem_take listed)
      rw [magnitudeOf_point before, List.take_append_drop, List.length_drop]
      congr 2
      omega

theorem zeros_isDigit (count : Int) : ∀ c ∈ zeros count, c.isDigit = true := by
  intro c listed
  rw [List.eq_of_mem_replicate listed]
  rfl

/-- A plain text has no characters but digits and a decimal point. -/
theorem positionalText_characters (areDigits : ∀ c ∈ digits, c.isDigit = true) :
    ∀ c ∈ positionalText plainLayout digits point, c.isDigit = true ∨ c = '.' := by
  intro c listed
  rw [positionalText] at listed
  split at listed
  case isTrue =>
    rcases List.mem_cons.mp listed with rfl | behind
    · exact .inl rfl
    · rcases List.mem_cons.mp behind with rfl | figure
      · exact .inr rfl
      · rcases List.mem_append.mp figure with blank | digit
        · exact .inl (zeros_isDigit _ c blank)
        · exact .inl (areDigits c digit)
  case isFalse =>
    split at listed
    case isTrue =>
      rcases List.mem_append.mp listed with figure | ⟨⟨⟩⟩
      rcases List.mem_append.mp figure with digit | blank
      · exact .inl (areDigits c digit)
      · exact .inl (zeros_isDigit _ c blank)
    case isFalse =>
      rcases List.mem_append.mp listed with before | behind
      · exact .inl (areDigits c (List.mem_of_mem_take before))
      · rcases List.mem_cons.mp behind with rfl | after
        · exact .inr rfl
        · exact .inl (areDigits c (List.mem_of_mem_drop after))

/-- Behind the digits that are kept stand zeros. -/
theorem toDigits_eq_significantDigits (decimal : Decimal) : ∃ count,
    Nat.toDigits 10 decimal.digits = (significantDigits decimal).1 ++ List.replicate count '0' := by
  let backwards := (Nat.toDigits 10 decimal.digits).reverse
  have blanks : backwards.takeWhile (· = '0') =
      List.replicate (backwards.takeWhile (· = '0')).length '0' := by
    refine List.eq_replicate_iff.mpr ⟨rfl, fun c listed => ?_⟩
    exact of_decide_eq_true (List.all_eq_true.mp List.all_takeWhile c listed)
  refine ⟨(backwards.takeWhile (· = '0')).length, ?_⟩
  calc
    Nat.toDigits 10 decimal.digits = backwards.reverse := (List.reverse_reverse _).symm
    _ = (backwards.takeWhile (· = '0') ++ backwards.dropWhile (· = '0')).reverse := by
      rw [List.takeWhile_append_dropWhile]
    _ = (backwards.dropWhile (· = '0')).reverse ++ (backwards.takeWhile (· = '0')).reverse :=
      List.reverse_append
    _ = _ := by
      rw [blanks, List.reverse_replicate, List.length_replicate]
      rfl

/-- The digits of a decimal that are kept denote the decimal, with the decimal point where it
is put. -/
theorem significantDigits_value (decimal : Decimal) :
    Nat.ofDigitChars 10 (significantDigits decimal).1 0 *
        (10 : ℚ) ^ ((significantDigits decimal).2 - (significantDigits decimal).1.length) =
      decimal.value := by
  rcases toDigits_eq_significantDigits decimal with ⟨count, equal⟩
  have digits : decimal.digits = 10 ^ count * Nat.ofDigitChars 10 (significantDigits decimal).1 0 := by
    rw [← Nat.ofDigitChars_replicate_zero, ← Nat.ofDigitChars_append, ← equal,
      Nat.ofDigitChars_ten_toDigits]
  have point : (significantDigits decimal).2 - (significantDigits decimal).1.length =
      count + decimal.exponent := by
    have lengths := congrArg List.length equal
    rw [List.length_append, List.length_replicate] at lengths
    have pointEq : (significantDigits decimal).2 =
        (Nat.toDigits 10 decimal.digits).length + decimal.exponent := rfl
    omega
  rw [point, zpow_add₀ (by norm_num), zpow_natCast, Decimal.value, digits, Nat.cast_mul, Nat.cast_pow]
  push_cast
  ring

theorem significantDigits_isDigit (decimal : Decimal) :
    ∀ c ∈ (significantDigits decimal).1, c.isDigit = true := by
  intro c listed
  rcases toDigits_eq_significantDigits decimal with ⟨count, equal⟩
  refine Nat.isDigit_of_mem_toDigits (b := 10) (n := decimal.digits) (by decide) (by decide) ?_
  rw [equal]
  exact List.mem_append_left _ listed

end

/-! ## Texts of numbers -/

section

variable {units otherUnits : Nat}

theorem magnitudeText_eq {decimal : Decimal} (positive : units ≠ 0)
    (isShortest : shortest units = decimal) :
    magnitudeText plainLayout units =
      positionalText plainLayout (significantDigits decimal).1 (significantDigits decimal).2 := by
  rw [magnitudeText, if_neg positive, isShortest]
  rfl

/-- The plain text of a positive magnitude denotes its shortest decimal. -/
theorem magnitudeOf_magnitudeText (positive : units ≠ 0) :
    magnitudeOf (magnitudeText plainLayout units) = (shortest units).value := by
  rw [magnitudeText_eq positive rfl, magnitudeOf_positionalText (significantDigits_isDigit _),
    significantDigits_value]

theorem magnitudeText_zero : magnitudeText plainLayout 0 = ['0'] := rfl

theorem magnitudeOf_magnitudeText_ne_zero (precise : IsPrecise units) (positive : units ≠ 0) :
    magnitudeOf (magnitudeText plainLayout units) ≠ magnitudeOf (magnitudeText plainLayout 0) := by
  have zero : magnitudeOf ['0'] = 0 := by
    rw [magnitudeOf_whole (List.forall_mem_singleton.mpr (by decide))]
    rfl
  rw [magnitudeText_zero, zero, magnitudeOf_magnitudeText positive, Decimal.value]
  exact mul_ne_zero (Nat.cast_ne_zero.mpr (shortest_holds precise positive).1)
    (zpow_ne_zero _ (by norm_num))

/-- No two magnitudes have one plain text. -/
theorem magnitudeText_injective (precise : IsPrecise units) (otherPrecise : IsPrecise otherUnits)
    (same : magnitudeText plainLayout units = magnitudeText plainLayout otherUnits) :
    units = otherUnits := by
  by_cases positive : units = 0
  · by_cases otherPositive : otherUnits = 0
    · rw [positive, otherPositive]
    · rw [positive] at same
      exact absurd (congrArg magnitudeOf same.symm)
        (magnitudeOf_magnitudeText_ne_zero otherPrecise otherPositive)
  · by_cases otherPositive : otherUnits = 0
    · rw [otherPositive] at same
      exact absurd (congrArg magnitudeOf same) (magnitudeOf_magnitudeText_ne_zero precise positive)
    · have values : (shortest units).value = (shortest otherUnits).value := by
        rw [← magnitudeOf_magnitudeText positive, same, magnitudeOf_magnitudeText otherPositive]
      have holds := (shortest_holds precise positive).2
      rw [values] at holds
      exact eq_of_holds precise otherPrecise positive otherPositive holds
        (shortest_holds otherPrecise otherPositive).2

/-- A plain text has no characters but digits and a decimal point. -/
theorem magnitudeText_characters (units : Nat) :
    ∀ c ∈ magnitudeText plainLayout units, c.isDigit = true ∨ c = '.' := by
  by_cases positive : units = 0
  · rw [positive, magnitudeText_zero]
    exact List.forall_mem_singleton.mpr (.inl rfl)
  · rw [magnitudeText_eq positive rfl]
    exact positionalText_characters (significantDigits_isDigit _)

theorem toList_plain (negative : Bool) (units : Nat) :
    (finite negative units).plain.toList =
      (if negative then ['-'] else []) ++ magnitudeText plainLayout units := by
  rw [plain, format]
  exact String.toList_ofList

/-- The plain text of a finite number has no characters but digits, a sign and a decimal
point. -/
theorem plain_characters {number : Binary64} (isFinite : number.isFinite = true) :
    ∀ c ∈ number.plain.toList, c.isDigit = true ∨ c = '-' ∨ c = '.' := by
  cases number with
  | nan | infinite negative => cases isFinite
  | finite negative units =>
      intro c listed
      rw [toList_plain] at listed
      rcases List.mem_append.mp listed with sign | figure
      · cases negative with
        | false => cases sign
        | true => exact .inr (.inl (List.mem_singleton.mp sign))
      · exact (magnitudeText_characters units c figure).imp_right .inr

/-- No two finite numbers have one plain text. -/
theorem plain_injective {left right : Binary64} (leftFinite : left.isFinite = true)
    (rightFinite : right.isFinite = true) (leftRepresentable : left.IsRepresentable)
    (rightRepresentable : right.IsRepresentable) (same : left.plain = right.plain) :
    left = right := by
  have noSign {units otherUnits : Nat} :
      magnitudeText plainLayout units ≠ '-' :: magnitudeText plainLayout otherUnits := by
    intro equal
    have sign : '-' ∈ magnitudeText plainLayout units := by
      rw [equal]
      exact List.mem_cons_self
    rcases magnitudeText_characters units '-' sign with ⟨⟨⟩⟩ | ⟨⟨⟩⟩
  cases left with
  | nan | infinite negative => cases leftFinite
  | finite negative units =>
      cases right with
      | nan | infinite negative => cases rightFinite
      | finite otherNegative otherUnits =>
          have texts := congrArg String.toList same
          rw [toList_plain, toList_plain] at texts
          cases negative <;> cases otherNegative
          case false.false =>
            rw [magnitudeText_injective (leftRepresentable _ _ rfl) (rightRepresentable _ _ rfl)
              texts]
          case false.true => exact absurd texts noSign
          case true.false => exact absurd texts.symm noSign
          case true.true =>
            rw [magnitudeText_injective (leftRepresentable _ _ rfl) (rightRepresentable _ _ rfl)
              (List.cons.inj texts).2]

end

end Binary64
end Conformance
