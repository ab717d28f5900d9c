import Conformance.Json.Token
import Conformance.Proofs.Text.Delimited
import Mathlib.Data.Nat.Digits.Defs

namespace Conformance
namespace Text

/-!
# Literals in emitted code

The compiler reads a quoted text as a string literal.  It goes through the literal once: between two
characters it can meet the last quote, a backslash or a character that stands for itself, and behind
a backslash the letter of a short escape or a code point in braces.  Of the escapes of the language
only those are read here that quoting makes use of, so whatever is read here denotes the same text
to the compiler.

Quoted texts are delimited, which tells two of them apart, but not what they denote.  That a quoted
text denotes what was quoted takes the reader, with the digits of a code point in progress.
-/

/-- Where a reader is inside of a literal.  Of a code point it knows how many digits it has read,
and the number that they denote. -/
inductive Inside where
  | text
  | escape
  | brace
  | code (count value : Nat)

/-- The characters that the rest of a literal denotes, up to the quote that ends it. -/
def literalFrom? : Inside → List Char → Option (List Char)
  | _, [] => none
  | .text, c :: rest =>
      if c = '"' then if rest.isEmpty then some [] else none
      else if c = '\\' then literalFrom? .escape rest
      else if c = '\r' then none
      else (literalFrom? .text rest).map (c :: ·)
  | .escape, letter :: rest =>
      if letter = 'u' then literalFrom? .brace rest
      else (escapes.lookup letter).bind fun c => (literalFrom? .text rest).map (c :: ·)
  | .brace, c :: rest => if c = '{' then literalFrom? (.code 0 0) rest else none
  | .code count value, c :: rest =>
      if c = '}' then
        if 0 < count ∧ count ≤ 6 ∧ value.isValidChar then
          (literalFrom? .text rest).map (Char.ofNat value :: ·)
        else none
      else
        (Json.Token.hexDigit? c).bind fun digit =>
          literalFrom? (.code (count + 1) (16 * value + digit)) rest

/-- The text that a literal denotes. -/
def literal? (literal : String) : Option String :=
  match literal.toList with
  | '"' :: rest => (literalFrom? .text rest).map String.ofList
  | _ => none

variable {rest : List Char}

/-! ## Code points -/

theorem literalFrom?_digit (count value : Nat) {digit : Nat} (small : digit < 16) :
    literalFrom? (.code count value) (digit.digitChar :: rest) =
      literalFrom? (.code (count + 1) (16 * value + digit)) rest := by
  have digits : ∀ digit < 16, digit.digitChar ≠ '}' ∧
      Json.Token.hexDigit? digit.digitChar = some digit := by decide
  rw [literalFrom?, if_neg (digits digit small).1, (digits digit small).2, Option.bind_some]

/-- The digits of a number are read as the number. -/
theorem literalFrom?_digits (number : Nat) : ∀ rest : List Char,
    literalFrom? (.code 0 0) (Nat.toDigits 16 number ++ rest) =
      literalFrom? (.code (Nat.toDigits 16 number).length number) rest := by
  induction number using Nat.strongRecOn with
  | ind number inductionHypothesis =>
      intro rest
      rw [Nat.toDigits_eq_if (by decide)]
      split
      case isTrue small =>
        rw [List.singleton_append, literalFrom?_digit 0 0 small]
        simp only [Nat.mul_zero, Nat.zero_add, List.length_singleton]
      case isFalse =>
        -- All digits but the last one are those of a sixteenth of the number.
        have lowest : number % 16 < 16 := Nat.mod_lt _ (by decide)
        rw [List.append_assoc, List.singleton_append, inductionHypothesis (number / 16) (by omega),
          literalFrom?_digit _ _ lowest, Nat.div_add_mod, List.length_append, List.length_singleton]

/-- A code point in braces is read as its character. -/
theorem literalFrom?_code (c : Char) :
    literalFrom? .text ('\\' :: 'u' :: '{' :: Nat.toDigits 16 c.toNat ++ ['}'] ++ rest) =
      (literalFrom? .text rest).map (c :: ·) := by
  have valid : c.toNat.isValidChar := c.valid
  have count : (Nat.toDigits 16 c.toNat).length ≤ 6 := by
    apply Nat.toDigits_length 16 _ _ (by decide)
    unfold Nat.isValidChar at valid
    omega
  have begun : 0 < (Nat.toDigits 16 c.toNat).length :=
    List.length_pos_of_ne_nil Nat.toDigits_ne_nil
  have digits := literalFrom?_digits c.toNat ('}' :: rest)
  rw [List.append_assoc, List.singleton_append]
  refine Eq.trans (b := literalFrom? (.code 0 0) (Nat.toDigits 16 c.toNat ++ '}' :: rest)) rfl ?_
  rw [digits, literalFrom?, if_pos rfl, if_pos ⟨begun, count, valid⟩, Char.ofNat_toNat]

/-! ## Quoted texts -/

/-- A quoted character is read as itself. -/
theorem literalFrom?_quotedChar (c : Char) :
    literalFrom? .text (quotedChar c ++ rest) = (literalFrom? .text rest).map (c :: ·) := by
  unfold quotedChar
  split
  case h_6 noEnd noEscape _ noReturn _ =>
    split
    case isTrue zero =>
      have isZero : c = Char.ofNat 0 := by rw [← zero, Char.ofNat_toNat]
      rw [isZero]
      rfl
    case isFalse =>
      split
      · rw [List.singleton_append, literalFrom?, if_neg noEnd, if_neg noEscape, if_neg noReturn]
      · exact literalFrom?_code c
  all_goals rfl

/-- The end of a line is not written as itself. -/
theorem newline_not_mem_quotedChar (c : Char) : '\n' ∉ quotedChar c := by
  unfold quotedChar
  split
  case h_6 _ _ noNewline _ _ =>
    split
    · decide
    · split
      · exact fun member => noNewline (List.mem_singleton.mp member).symm
      · intro member
        simp only [List.cons_append, List.mem_cons, List.mem_append, List.not_mem_nil, or_false] at member
        rcases member with wrong | wrong | wrong | digit | wrong
        · cases wrong
        · cases wrong
        · cases wrong
        · exact absurd (toDigits_hex_isAlphanum _ _ digit) (by decide)
        · cases wrong
  all_goals decide

/-- A quoted text stands on one line. -/
theorem newline_not_mem_quoted (text : String) : '\n' ∉ (quoted text).toList := by
  rw [toList_quoted]
  simp only [List.mem_cons, List.mem_append, List.mem_flatMap, List.not_mem_nil, or_false, not_or]
  refine ⟨by decide, ?_, by decide⟩
  rintro ⟨c, _, written⟩
  exact newline_not_mem_quotedChar c written

end Text
end Conformance
