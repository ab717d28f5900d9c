import Conformance.Text.Quoted
import Mathlib.Data.List.Basic

namespace Conformance
namespace Text

/-!
# Texts that show where they end

Some texts can be recognized in front of anything that may follow them: two of them with
something behind are equal only if both parts are.  A run of characters of one sort is such
a text in front of what is not of that sort, and a quoted text is one in front of anything,
whatever characters are quoted.
-/

section

variable {Source : Type} {characters rest others : List Char}

/-- What is written shows where it ends, in front of some texts. -/
def Delimits (written : Source → List Char) (ends : List Char → Prop) : Prop :=
  ∀ ⦃left right : Source⦄ ⦃rest others : List Char⦄, ends rest → ends others →
    written left ++ rest = written right ++ others → left = right ∧ rest = others

/-- A text that does not begin with a character of some sort. -/
def Stops (sort : Char → Bool) (rest : List Char) : Prop :=
  ∀ c ∈ rest.head?, sort c = false

theorem stops_cons {sort : Char → Bool} {c : Char} (stops : sort c = false) (rest : List Char) :
    Stops sort (c :: rest) := by
  rintro _ ⟨⟩
  exact stops

/-- A run of characters of one sort ends where the first other character is. -/
theorem run_delimits {sort : Char → Bool} {first second : List Char}
    (firstSort : ∀ c ∈ first, sort c = true) (secondSort : ∀ c ∈ second, sort c = true)
    (stops : Stops sort rest) (otherStops : Stops sort others)
    (same : first ++ rest = second ++ others) : first = second ∧ rest = others := by
  induction first generalizing second with
  | nil =>
      cases second with
      | nil => exact ⟨rfl, same⟩
      | cons c second =>
          have other := stops c (by rw [show rest = c :: (second ++ others) from same]; rfl)
          rw [secondSort c List.mem_cons_self] at other
          cases other
  | cons c first inductionHypothesis =>
      cases second with
      | nil =>
          have other := otherStops c (by rw [show others = c :: (first ++ rest) from same.symm]; rfl)
          rw [firstSort c List.mem_cons_self] at other
          cases other
      | cons d second =>
          rw [List.forall_mem_cons] at firstSort secondSort
          rcases List.cons.inj same with ⟨rfl, tails⟩
          rcases inductionHypothesis firstSort.2 secondSort.2 tails with ⟨rfl, rests⟩
          exact ⟨rfl, rests⟩

/-- Parts that show where they end, up to a character that begins none of them, show together
where they end. -/
theorem flatMap_delimits {written : Source → List Char} {close : Char}
    (delimits : Delimits written fun _ => True)
    (apart : ∀ source rest others, written source ++ rest ≠ close :: others) :
    Delimits (fun sources : List Source => sources.flatMap written ++ [close]) fun _ => True := by
  intro left
  induction left with
  | nil =>
      intro right rest others _ _ same
      cases right with
      | nil => exact ⟨rfl, (List.cons.inj same).2⟩
      | cons source right =>
          simp only [List.flatMap_cons, List.append_assoc] at same
          exact absurd same.symm (apart source _ _)
  | cons source left inductionHypothesis =>
      intro right rest others _ _ same
      simp only [List.flatMap_cons, List.append_assoc] at same
      cases right with
      | nil => exact absurd same (apart source _ _)
      | cons other right =>
          simp only [List.flatMap_cons, List.append_assoc] at same
          rcases delimits trivial trivial same with ⟨rfl, tails⟩
          rw [← List.append_assoc, ← List.append_assoc] at tails
          rcases inductionHypothesis trivial trivial tails with ⟨rfl, rests⟩
          exact ⟨rfl, rests⟩

end

/-! ## Numbers -/

/-- The digits of a number denote it. -/
theorem natural_injective {left right : Nat} (same : toString left = toString right) :
    left = right := by
  have digits := congrArg String.toList same
  rw [Nat.toString_eq_ofList_toDigits, Nat.toString_eq_ofList_toDigits, String.toList_ofList,
    String.toList_ofList] at digits
  rw [← Nat.ofDigitChars_ten_toDigits (n := left), digits, Nat.ofDigitChars_ten_toDigits]

theorem isDigit_bounds {c : Char} (digit : c.isDigit = true) : 48 ≤ c.toNat ∧ c.toNat ≤ 57 := by
  rw [Char.isDigit, Bool.and_eq_true, decide_eq_true_eq, decide_eq_true_eq] at digit
  exact digit

theorem natural_isDigit (number : Nat) : ∀ c ∈ (toString number).toList, c.isDigit = true := by
  intro c listed
  rw [Nat.toString_eq_repr, Nat.repr_eq_ofList_toDigits, String.toList_ofList] at listed
  exact Nat.isDigit_of_mem_toDigits (by decide) (by decide) listed

/-- A number ends where the first character is that is no digit. -/
theorem natural_delimits :
    Delimits (fun number : Nat => (toString number).toList) (Stops Char.isDigit) := by
  intro left right rest others stops otherStops same
  rcases run_delimits (natural_isDigit left) (natural_isDigit right) stops otherStops same with
    ⟨digits, rests⟩
  exact ⟨natural_injective (String.toList_injective digits), rests⟩

/-! ## Quoted texts -/

/-- The digits of a number to the base of sixteen denote it. -/
theorem toDigits_hex_injective {left : Nat} : ∀ {right : Nat},
    Nat.toDigits 16 left = Nat.toDigits 16 right → left = right := by
  have digits : ∀ first < 16, ∀ second < 16,
      first.digitChar = second.digitChar → first = second := by decide
  induction left using Nat.strongRecOn with
  | ind left inductionHypothesis =>
      intro right same
      have leftDigits := Nat.toDigits_eq_if (b := 16) (n := left) (by decide)
      have rightDigits := Nat.toDigits_eq_if (b := 16) (n := right) (by decide)
      rw [leftDigits, rightDigits] at same
      split at same <;> split at same
      case isTrue.isTrue small smallRight =>
        exact digits _ small _ smallRight (List.singleton_inj.mp same)
      case isTrue.isFalse =>
        exact absurd (List.append_eq_singleton_iff.mp same.symm) (by simp [Nat.toDigits_ne_nil])
      case isFalse.isTrue =>
        exact absurd (List.append_eq_singleton_iff.mp same) (by simp [Nat.toDigits_ne_nil])
      case isFalse.isFalse =>
        rcases List.append_singleton_inj.mp same with ⟨higher, lowest⟩
        have quotient := inductionHypothesis (left / 16) (by omega) higher
        have remainder := digits _ (Nat.mod_lt _ (by decide)) _ (Nat.mod_lt _ (by decide)) lowest
        omega

/-- The characters with short escapes, each behind its letter. -/
def escapes : List (Char × Char) :=
  [('"', '"'), ('\\', '\\'), ('n', '\n'), ('r', '\r'), ('t', '\t'), ('0', Char.ofNat 0)]

/-- The ways in which a character can be quoted. -/
inductive QuotedAs (c : Char) : List Char → Prop where
  | escape {letter : Char} (listed : (letter, c) ∈ escapes) : QuotedAs c ['\\', letter]
  | code : QuotedAs c ('\\' :: 'u' :: '{' :: Nat.toDigits 16 c.toNat ++ ['}'])
  | plain (noEscape : c ≠ '\\') (noEnd : c ≠ '"') : QuotedAs c [c]

theorem quotedAs_quotedChar (c : Char) : QuotedAs c (quotedChar c) := by
  unfold quotedChar
  split
  case h_6 noEnd noEscape _ _ _ =>
    split
    case isTrue zero =>
      have isZero : c = Char.ofNat 0 := by rw [← zero, Char.ofNat_toNat]
      rw [isZero]
      exact .escape (by decide)
    case isFalse =>
      split
      · exact .plain noEscape noEnd
      · exact .code
  all_goals exact .escape (by decide)

theorem toDigits_hex_isAlphanum (number : Nat) :
    ∀ c ∈ Nat.toDigits 16 number, c.isAlphanum = true := by
  have digits : ∀ digit < 16, digit.digitChar.isAlphanum = true := by decide
  induction number using Nat.strongRecOn with
  | ind number inductionHypothesis =>
      rw [Nat.toDigits_eq_if (by decide)]
      split
      case isTrue small => exact List.forall_mem_singleton.mpr (digits number small)
      case isFalse =>
        exact List.forall_mem_append.mpr ⟨inductionHypothesis (number / 16) (by omega),
          List.forall_mem_singleton.mpr (digits _ (Nat.mod_lt _ (by decide)))⟩

theorem letter_of_escapes : ∀ first ∈ escapes, first.1 ≠ 'u' ∧
    ∀ second ∈ escapes, first.1 = second.1 → first.2 = second.2 := by
  decide

/-- A quoted character shows where it ends. -/
theorem quotedChar_delimits : Delimits quotedChar fun _ => True := by
  intro left right rest others _ _ same
  have leftAs := quotedAs_quotedChar left
  have rightAs := quotedAs_quotedChar right
  revert leftAs rightAs same
  generalize quotedChar left = leftText
  generalize quotedChar right = rightText
  intro same leftAs rightAs
  cases leftAs with
  | escape listed =>
      cases rightAs with
      | escape otherListed =>
          rcases List.cons.inj (List.cons.inj same).2 with ⟨letters, rests⟩
          exact ⟨(letter_of_escapes _ listed).2 _ otherListed letters, rests⟩
      | code =>
          exact absurd (List.cons.inj (List.cons.inj same).2).1 (letter_of_escapes _ listed).1
      | plain noEscape => exact absurd (List.cons.inj same).1.symm noEscape
  | code =>
      cases rightAs with
      | escape listed =>
          exact absurd (List.cons.inj (List.cons.inj same).2).1.symm (letter_of_escapes _ listed).1
      | code =>
          simp only [List.cons_append, List.append_assoc, List.nil_append] at same
          have tails := (List.cons.inj (List.cons.inj (List.cons.inj same).2).2).2
          rcases run_delimits (toDigits_hex_isAlphanum _) (toDigits_hex_isAlphanum _)
            (stops_cons rfl rest) (stops_cons rfl others) tails with ⟨digits, rests⟩
          exact ⟨Char.toNat_inj.mp (toDigits_hex_injective digits), (List.cons.inj rests).2⟩
      | plain noEscape => exact absurd (List.cons.inj same).1.symm noEscape
  | plain noEscape =>
      cases rightAs with
      | escape | code => exact absurd (List.cons.inj same).1 noEscape
      | plain => exact List.cons.inj same

/-- No quoted character begins with the quote that ends the text. -/
theorem quotedChar_ne_quote (c : Char) (rest others : List Char) :
    quotedChar c ++ rest ≠ '"' :: others := by
  have quotedAs := quotedAs_quotedChar c
  revert quotedAs
  generalize quotedChar c = characters
  intro quotedAs same
  cases quotedAs with
  | escape | code => exact absurd (List.cons.inj same).1 (by decide)
  | plain _ noEnd => exact absurd (List.cons.inj same).1 noEnd

theorem toList_quoted (text : String) :
    (quoted text).toList = '"' :: (text.toList.flatMap quotedChar ++ ['"']) := by
  rw [quoted, String.toList_ofList]
  rfl

/-- A quoted text shows where it ends. -/
theorem quoted_delimits : Delimits (fun text => (quoted text).toList) fun _ => True := by
  intro left right rest others _ _ same
  simp only [toList_quoted, List.cons_append] at same
  rcases flatMap_delimits quotedChar_delimits quotedChar_ne_quote trivial trivial
    (List.cons.inj same).2 with ⟨characters, rests⟩
  exact ⟨String.toList_injective characters, rests⟩

end Text
end Conformance
