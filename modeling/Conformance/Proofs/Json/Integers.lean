import Conformance.Proofs.Json.Spelling
import Mathlib.Data.List.TakeWhile

namespace Conformance

/-!
# Integers in JSON text

The reader collects the digits of a number in a word of 64 bits.  The digits of an integer
that is a word fit into it, so they are read as the integer, exactly.
-/

namespace Literal

theorem le_foldl_digits (digits : List Nat) (significand : Nat) :
    significand ≤ digits.foldl (fun value digit => 10 * value + digit) significand := by
  induction digits generalizing significand with
  | nil => exact Nat.le_refl significand
  | cons digit rest inductionHypothesis =>
      exact Nat.le_trans (by omega) (inductionHypothesis (10 * significand + digit))

/-- Digits whose number is a word are all collected. -/
theorem collect_eq {digits : List Nat} {significand : Nat}
    (fits : digits.foldl (fun value digit => 10 * value + digit) significand ≤ Number.wordMax) :
    collect significand digits =
      ⟨digits.foldl (fun value digit => 10 * value + digit) significand, 0⟩ := by
  induction digits generalizing significand with
  | nil => rfl
  | cons digit rest inductionHypothesis =>
      have here : ¬ Number.wordMax < 10 * significand + digit :=
        Nat.not_lt.mpr (Nat.le_trans (le_foldl_digits rest _) fits)
      rw [collect, if_neg here]
      exact inductionHypothesis fits

end Literal

namespace Json.Token

/-- The digits of a natural number denote it. -/
theorem digitsValue_toDigits (number : Nat) :
    Literal.digitsValue ((Nat.toDigits 10 number).map digitValue) = number := by
  rw [Literal.digitsValue, List.foldl_map]
  exact Nat.ofDigitChars_toDigits (by decide) (by decide)

theorem toDigits_isDigit (number : Nat) : ∀ c ∈ Nat.toDigits 10 number, c.isDigit = true :=
  fun _ => Nat.isDigit_of_mem_toDigits (by decide) (by decide)

/-- A number of several digits does not start with zero. -/
theorem toDigits_head (number : Nat) :
    number ≠ 0 → (Nat.toDigits 10 number).head? ≠ some '0' := by
  induction number using Nat.strongRecOn with
  | ind number inductionHypothesis =>
      intro positive
      rw [Nat.toDigits_eq_if (by decide)]
      split
      case isTrue small =>
        have digits : ∀ digit < 10, digit ≠ 0 → [digit.digitChar].head? ≠ some '0' := by decide
        exact digits number small positive
      case isFalse large =>
        rw [List.head?_append]
        have shorter := inductionHypothesis (number / 10) (by omega) (by omega)
        cases digits : Nat.toDigits 10 (number / 10) with
        | nil => exact absurd digits Nat.toDigits_ne_nil
        | cons c rest =>
            rw [digits] at shorter
            exact shorter

/-- The digits of a natural number are a literal, with or without a minus in front. -/
theorem literal?_toDigits (number : Nat) :
    literal? (Nat.toDigits 10 number) =
        some ⟨false, (Nat.toDigits 10 number).map digitValue, none, none⟩ ∧
      literal? ('-' :: Nat.toDigits 10 number) =
        some ⟨true, (Nat.toDigits 10 number).map digitValue, none, none⟩ := by
  have all := toDigits_isDigit number
  have several : ¬ ((Nat.toDigits 10 number).head? = some '0' ∧
      1 < (Nat.toDigits 10 number).length) := by
    rintro ⟨zero, several⟩
    by_cases isZero : number = 0
    · subst isZero
      exact absurd several (by decide)
    · exact toDigits_head number isZero zero
  have nonempty : Nat.toDigits 10 number ≠ [] := Nat.toDigits_ne_nil
  revert all several nonempty
  generalize Nat.toDigits 10 number = digits
  intro all several nonempty
  have taken : digits.takeWhile Char.isDigit = digits := List.takeWhile_eq_self_iff.mpr all
  have dropped : digits.dropWhile Char.isDigit = [] := List.dropWhile_eq_nil_iff.mpr all
  have begins : ¬ (digits = [] || (digits.head? = some '0' && 1 < digits.length)) = true := by
    simpa only [nonempty, decide_false, Bool.false_or, Bool.and_eq_true, decide_eq_true_eq]
      using several
  constructor
  · unfold literal?
    split
    case h_1 negative unsigned sign =>
      split at sign
      case h_1 => exact absurd (all '-' List.mem_cons_self) (by decide)
      case h_2 =>
        cases sign
        simp only [taken, dropped, if_neg begins]
        rfl
  · unfold literal?
    simp only [taken, dropped, if_neg begins]
    rfl

/-- The digits of a word are all collected. -/
theorem collect_toDigits {number : Nat} (fits : number ≤ Number.wordMax) :
    Literal.collect 0 ((Nat.toDigits 10 number).map digitValue) = ⟨number, 0⟩ := by
  have value := digitsValue_toDigits number
  rw [Literal.digitsValue] at value
  rw [Literal.collect_eq (by rwa [value]), value]

/-- An integer that is a signed or an unsigned word is read as itself. -/
theorem readsBack_integer {value : Int} (atLeast : Number.signedMin ≤ value)
    (atMost : value ≤ Number.wordMax) :
    ReadsBack (.integer value) := by
  cases value with
  | ofNat number =>
      have digits : numberChars (.integer (.ofNat number)) = Nat.toDigits 10 number := by
        change (Nat.repr number).toList = _
        rw [Nat.repr_eq_ofList_toDigits, String.toList_ofList]
      have fits : number ≤ Number.wordMax := Int.ofNat_le.mp atMost
      rw [ReadsBack, digits, (literal?_toDigits number).1]
      simp only [Option.bind_some, Literal.wordScaled?, collect_toDigits fits]
      rfl
  | negSucc number =>
      have digits : numberChars (.integer (.negSucc number)) =
          '-' :: Nat.toDigits 10 (number + 1) := by
        change ("-" ++ Nat.repr (number + 1)).toList = _
        rw [Nat.repr_eq_ofList_toDigits, String.toList_append]
        exact congrArg ('-' :: ·) String.toList_ofList
      have least : number + 1 ≤ Nat.pow 2 63 := by
        rw [show Number.signedMin = -9223372036854775808 from rfl] at atLeast
        rw [show Nat.pow 2 63 = 9223372036854775808 from rfl]
        omega
      have fits : number + 1 ≤ Number.wordMax := Nat.le_trans least (by decide)
      have signed : ¬ (number + 1 = 0 || Nat.pow 2 63 < number + 1) = true := by
        rw [Bool.or_eq_true, decide_eq_true_eq, decide_eq_true_eq]
        rintro (zero | large)
        · exact absurd zero (Nat.succ_ne_zero number)
        · exact absurd large (Nat.not_lt.mpr least)
      rw [ReadsBack, digits, (literal?_toDigits (number + 1)).2]
      simp only [Option.bind_some, Literal.wordScaled?, collect_toDigits fits, if_neg signed]
      rfl

end Json.Token
end Conformance
