import Conformance.Proofs.Emission.Tags
import Conformance.Proofs.Text.Capitals

namespace Conformance

/-!
# Names of variants

A variant that is not renamed is named by its literal, with every word capitalized.  Nothing but a
digit at the beginning is repaired in such a name, and nothing is refused.  So the name is an
identifier only for some literals.  They are the ones that have a word, that consist of separators
and characters of identifiers, whose first word begins with a digit or as an identifier does, and
whose only word is not `self`.
-/

namespace Naming

open Text

variable {literal : String} {first : Char} {front rest back : List Char}

/-! ## Identifiers -/

/-- A name is an identifier of emitted code.  It begins with a character that can begin one, or
with an underscore in front of others, goes on with characters that can stand in one, and is no
keyword. -/
structure IsIdentifier (name : String) : Prop where
  begins : ∃ first rest, name.toList = first :: rest ∧
    (CanBegin first ∨ first = '_' ∧ rest ≠ [])
  continues : ∀ c ∈ name.toList, CanContinue c
  free : name ∉ keywords

def AllSeparators (characters : List Char) : Prop := ∀ c ∈ characters, isSeparator c = true

/-- The only word of a literal is `self`, however its first letter is written. -/
def IsSelf (literal : String) : Prop :=
  ∃ front first back, literal.toList = front ++ first :: 'e' :: 'l' :: 'f' :: back ∧
    AllSeparators front ∧ AllSeparators back ∧ first ∈ ['s', 'S', 'ſ']

/-- A literal can be capitalized to an identifier. -/
structure IsSpeakable (literal : String) : Prop where
  begins : ∃ first ∈ literal.toList.find? (!isSeparator ·),
    CanBegin first ∨ first = iotaBelow ∨ first.isDigit = true
  continues : ∀ c ∈ literal.toList, isSeparator c = true ∨ CanContinue c
  free : ¬ IsSelf literal

/-! ## Capitalized words -/

theorem pascalFrom_append (separators : AllSeparators front) :
    pascalFrom true (front ++ rest) = pascalFrom true rest := by
  induction front with
  | nil => rfl
  | cons c front inductionHypothesis =>
      rw [AllSeparators, List.forall_mem_cons] at separators
      rw [List.cons_append, pascalFrom, if_pos separators.1, inductionHypothesis separators.2]

theorem pascalFrom_separators {fresh : Bool} (separators : AllSeparators back) :
    pascalFrom fresh back = [] := by
  induction back generalizing fresh with
  | nil => rfl
  | cons c back inductionHypothesis =>
      rw [AllSeparators, List.forall_mem_cons] at separators
      rw [pascalFrom, if_pos separators.1, inductionHypothesis separators.2]

/-- A capitalized text consists of characters of identifiers exactly if the text does between
its separators. -/
theorem canContinue_pascalFrom {fresh : Bool} {characters : List Char} :
    (∀ c ∈ pascalFrom fresh characters, CanContinue c) ↔
      ∀ c ∈ characters, isSeparator c = true ∨ CanContinue c := by
  induction characters generalizing fresh with
  | nil => simp [pascalFrom]
  | cons c rest inductionHypothesis =>
      rw [List.forall_mem_cons, pascalFrom]
      cases separator : isSeparator c with
      | true => simpa using inductionHypothesis
      | false =>
          cases fresh with
          | true =>
              simp only [Bool.false_eq_true, if_false, if_true, false_or, List.forall_mem_append,
                canContinue_toUppercase, inductionHypothesis]
          | false =>
              simp only [Bool.false_eq_true, if_false, false_or, List.forall_mem_cons,
                inductionHypothesis]

theorem isSeparator_small {c : Char} (small : c.isLower = true) : isSeparator c = false := by
  refine Bool.eq_false_iff.mpr fun separator => ?_
  simp only [isSeparator, Bool.or_eq_true, decide_eq_true_eq] at separator
  rcases separator with ((((rfl | rfl) | rfl) | rfl) | rfl) | rfl <;> revert small <;> decide

/-- Behind separators, the first word begins with the capital of its first letter. -/
theorem pascalFrom_word (separators : AllSeparators front) (letter : isSeparator first = false) :
    pascalFrom true (front ++ first :: rest) = toUppercase first ++ pascalFrom false rest := by
  rw [pascalFrom_append separators, pascalFrom, if_neg (by rw [letter]; decide), if_pos rfl]

theorem find?_word : rest.find? (!isSeparator ·) = some first ↔ isSeparator first = false ∧
    ∃ front others, rest = front ++ first :: others ∧ AllSeparators front := by
  simp [List.find?_eq_some_iff_append, AllSeparators]

theorem find?_no_word : rest.find? (!isSeparator ·) = none ↔ AllSeparators rest := by
  simp [List.find?_eq_none, AllSeparators]

/-- The rest of a word in small letters is followed by separators only, because every further word
would bring in a capital. -/
theorem pascalFrom_eq_small {small : List Char}
    (letters : ∀ c ∈ small, c.isLower = true) :
    pascalFrom false rest = small ↔ ∃ back, rest = small ++ back ∧ AllSeparators back := by
  constructor
  · intro same
    induction rest generalizing small with
    | nil => exact ⟨[], by rw [← same]; rfl, nofun⟩
    | cons c rest inductionHypothesis =>
        rw [pascalFrom] at same
        cases separator : isSeparator c with
        | true =>
            rw [if_pos separator] at same
            cases word : rest.find? (!isSeparator ·) with
            | none =>
                have separators := find?_no_word.mp word
                rw [pascalFrom_separators separators] at same
                exact ⟨c :: rest, by rw [← same]; rfl, List.forall_mem_cons.mpr ⟨separator, separators⟩⟩
            | some first =>
                rcases find?_word.mp word with ⟨letter, front, others, rfl, separators⟩
                rcases exists_capital first with ⟨capital, more, converted, _, notSmall, _⟩
                rw [pascalFrom_word separators letter, converted] at same
                have isSmall := letters capital (by rw [← same]; exact List.mem_cons_self)
                cases notSmall.symm.trans isSmall
        | false =>
            rw [if_neg (by rw [separator]; decide), if_neg Bool.false_ne_true] at same
            subst same
            rcases inductionHypothesis (List.forall_mem_cons.mp letters).2 rfl with
              ⟨back, left, separators⟩
            exact ⟨back, congrArg (c :: ·) left, separators⟩
  · rintro ⟨back, rfl, separators⟩
    induction small with
    | nil => exact pascalFrom_separators separators
    | cons c small inductionHypothesis =>
        rw [List.forall_mem_cons] at letters
        rw [List.cons_append, pascalFrom, if_neg (by rw [isSeparator_small letters.1]; decide),
          if_neg Bool.false_ne_true, inductionHypothesis letters.2]

/-! ## Keywords -/

/-- All keywords begin with a small letter, except one. -/
theorem keywords_begin :
    keywords.all (fun word => word == "Self" || word.toList.head?.any Char.isLower) = true := by
  decide +kernel

theorem pascal_word (whole : literal.toList = front ++ first :: rest)
    (separators : AllSeparators front) (letter : isSeparator first = false) :
    (pascal literal).toList = guardDigit (toUppercase first ++ pascalFrom false rest) := by
  rw [pascal, String.toList_ofList, whole, pascalFrom_word separators letter]

theorem pascal_no_word (separators : AllSeparators literal.toList) : pascal literal = "" := by
  rw [pascal, pascalFrom_separators separators]
  rfl

theorem isLower_elf : ∀ c ∈ ['e', 'l', 'f'], c.isLower = true :=
  List.all_eq_true.mp (by decide)

/-- A capitalized literal is a keyword only if it is `Self`. -/
theorem pascal_mem_keywords : pascal literal ∈ keywords ↔ IsSelf literal := by
  have self : "Self".toList = ['S', 'e', 'l', 'f'] := rfl
  constructor
  · intro keyword
    cases word : literal.toList.find? (!isSeparator ·) with
    | none =>
        rw [pascal_no_word (find?_no_word.mp word)] at keyword
        exact absurd keyword (by decide)
    | some first =>
        rcases find?_word.mp word with ⟨letter, front, others, whole, separators⟩
        rcases exists_capital first with ⟨capital, more, converted, _, notSmall, _⟩
        have name := pascal_word whole separators letter
        rw [converted, List.cons_append, guardDigit] at name
        rcases (Bool.or_eq_true _ _).mp (List.all_eq_true.mp keywords_begin _ keyword) with
          isSelf | begins
        · rw [beq_iff_eq.mp isSelf, self] at name
          split at name
          case isTrue => cases name
          case isFalse =>
            rw [← List.cons_append, ← converted] at name
            rcases toUppercase_append_eq_s.mp name.symm with ⟨isS, left⟩
            rcases (pascalFrom_eq_small isLower_elf).mp left with ⟨back, rfl, others⟩
            exact ⟨front, first, back, whole, separators, others, isS⟩
        · rw [name] at begins
          split at begins
          case isTrue => cases begins
          case isFalse => cases notSmall.symm.trans begins
  · rintro ⟨front, first, back, whole, separators, others, isS⟩
    have letters : ['s', 'S', 'ſ'].all (!isSeparator ·) = true := by decide
    have letter : isSeparator first = false := by simpa using List.all_eq_true.mp letters first isS
    have name := pascal_word whole separators letter
    have left := (pascalFrom_eq_small isLower_elf).mpr ⟨back, rfl, others⟩
    have capital := toUppercase_append_eq_s.mpr ⟨isS, left⟩
    have same : pascal literal = "Self" :=
      String.toList_injective (name.trans (congrArg guardDigit capital))
    rw [same]
    decide

/-! ## Which names are identifiers -/

theorem toUppercase_digit (digit : first.isDigit = true) : toUppercase first = [first] := by
  have bounds := isDigit_bounds digit
  have converted := toUpper_ascii first.toNat (by omega)
  rw [if_neg (by omega), Char.ofNat_toNat] at converted
  rw [toUppercase, isAscii, if_pos (decide_eq_true (by omega)), converted]

theorem canContinue_guardDigit {characters : List Char} :
    (∀ c ∈ guardDigit characters, CanContinue c) ↔ ∀ c ∈ characters, CanContinue c := by
  cases characters with
  | nil => rfl
  | cons c rest =>
      rw [guardDigit]
      split
      · rw [List.forall_mem_cons, and_iff_right canContinue_underscore]
      · rfl

/-- The name of a variant begins as an identifier exactly if its literal does, or if the literal
begins with what is repaired or capitalized. -/
theorem guardDigit_begins (letter : isSeparator first = false) :
    (∃ initial others, guardDigit (toUppercase first ++ rest) = initial :: others ∧
      (CanBegin initial ∨ initial = '_' ∧ others ≠ [])) ↔
    CanBegin first ∨ first = iotaBelow ∨ first.isDigit = true := by
  cases digit : first.isDigit with
  | true =>
      rw [toUppercase_digit digit]
      refine iff_of_true ⟨'_', first :: rest, if_pos digit, .inr ⟨rfl, ?_⟩⟩ (.inr (.inr rfl))
      exact List.cons_ne_nil first rest
  | false =>
      rcases exists_capital first with ⟨capital, more, converted, begins, _, plain⟩
      have unguarded : capital.isDigit = false ∧ capital ≠ '_' := by
        rcases plain with rfl | plain
        · refine ⟨digit, ?_⟩
          rintro rfl
          exact absurd letter (by decide)
        · exact plain
      rw [converted, List.cons_append, guardDigit, if_neg (by rw [unguarded.1]; decide)]
      constructor
      · rintro ⟨initial, others, same, initialBegins⟩
        cases same
        rcases initialBegins with canBegin | ⟨underscore, _⟩
        · exact (begins.mp canBegin).imp_right .inl
        · exact absurd underscore unguarded.2
      · rintro (canBegin | iota | isDigit)
        · exact ⟨capital, _, rfl, .inl (begins.mpr (.inl canBegin))⟩
        · exact ⟨capital, _, rfl, .inl (begins.mpr (.inr iota))⟩
        · cases isDigit

/-- The name of a variant is an identifier exactly if its literal is speakable. -/
theorem isIdentifier_pascal : IsIdentifier (pascal literal) ↔ IsSpeakable literal := by
  have continues : (∀ c ∈ (pascal literal).toList, CanContinue c) ↔
      ∀ c ∈ literal.toList, isSeparator c = true ∨ CanContinue c := by
    rw [pascal, String.toList_ofList, canContinue_guardDigit, canContinue_pascalFrom]
  have begins : (∃ first rest, (pascal literal).toList = first :: rest ∧
      (CanBegin first ∨ first = '_' ∧ rest ≠ [])) ↔
        ∃ first ∈ literal.toList.find? (!isSeparator ·),
          CanBegin first ∨ first = iotaBelow ∨ first.isDigit = true := by
    cases word : literal.toList.find? (!isSeparator ·) with
    | none =>
        rw [pascal_no_word (find?_no_word.mp word)]
        exact iff_of_false nofun nofun
    | some first =>
        rcases find?_word.mp word with ⟨letter, front, others, whole, separators⟩
        rw [pascal_word whole separators letter, guardDigit_begins letter]
        simp
  constructor
  · rintro ⟨nameBegins, nameContinues, free⟩
    exact ⟨begins.mp nameBegins, continues.mp nameContinues, fun isSelf =>
      free (pascal_mem_keywords.mpr isSelf)⟩
  · rintro ⟨literalBegins, literalContinues, free⟩
    exact ⟨begins.mpr literalBegins, continues.mpr literalContinues, fun keyword =>
      free (pascal_mem_keywords.mp keyword)⟩

/-- A literal of small letters is speakable, unless it is `self`. -/
theorem isSpeakable_of_isLower (letters : ∀ c ∈ literal.toList, c.isLower = true)
    (named : literal ≠ "") (other : literal ≠ "self") : IsSpeakable literal := by
  have none_separates {characters : List Char} (part : characters ⊆ literal.toList)
      (separators : AllSeparators characters) : characters = [] := by
    apply List.eq_nil_iff_forall_not_mem.mpr
    intro c listed
    cases (isSeparator_small (letters c (part listed))).symm.trans (separators c listed)
  refine ⟨?begins, ?continues, ?free⟩
  case begins =>
    cases whole : literal.toList with
    | nil => exact absurd (String.toList_eq_nil_iff.mp whole) named
    | cons first rest =>
        have small := letters first (by rw [whole]; exact List.mem_cons_self)
        refine ⟨first, ?_, .inl (canBegin_isLower small).1⟩
        rw [List.find?_cons_of_pos (by rw [isSeparator_small small]; rfl)]
        rfl
  case continues =>
    intro c listed
    right
    exact (canBegin_isLower (letters c listed)).2
  case free =>
    rintro ⟨front, first, back, whole, separators, others, isS⟩
    have frontEmpty := none_separates (by rw [whole]; simp) separators
    have backEmpty := none_separates (by rw [whole]; intro c listed; simp [listed]) others
    have small := letters first (by rw [whole]; simp)
    rw [frontEmpty, backEmpty] at whole
    simp only [List.mem_cons, List.not_mem_nil, or_false] at isS
    rcases isS with rfl | rfl | rfl
    · exact other (String.toList_injective whole)
    · cases small
    · cases small

end Naming

/-! ## Names in declarations -/

namespace Nominal

variable {rootName : Option String} {enumName : String} {alternatives : List Shape}
  {trail : Location} {before after : Registry}

/-- In the enum of a tagged union, the variant of an alternative has its literal. -/
theorem variant_of_alternative {tag : String} {literals : List String}
    (tagged : discriminant? alternatives = some (tag, literals)) {index : Nat} {shape : Shape}
    (listed : alternatives[index]? = some shape) :
    ∃ literal, literal? tag shape = some literal ∧
      (EnumDeclaration.ofUnion enumName tag alternatives literals).variants[index]? =
        some ⟨literal, variantName shape.header literal, structName shape.header literal⟩ := by
  have here := congrArg (·[index]?) (discriminant?_eq_some tagged).1
  simp only [List.getElem?_map, listed, Option.map_some] at here
  rcases Option.map_eq_some_iff.mp here.symm with ⟨literal, literalListed, equal⟩
  have beside : (alternatives.zip literals)[index]? = some (shape, literal) :=
    List.getElem?_zip_eq_some.mpr ⟨listed, literalListed⟩
  exact ⟨literal, equal.symm, by rw [EnumDeclaration.ofUnion, List.getElem?_map, beside]; rfl⟩

/-- Wherever an enum is declared for a union, an alternative that is not renamed has a variant with
the capitalized literal as its name, and a struct of that name if it does not declare another.
This name is an identifier exactly if the literal is speakable. -/
theorem declared_variant_names
    (answers : (declareEnum rootName enumName alternatives trail).Answers before () after) :
    ∃ (declared : EnumDeclaration) (between : Registry) (fresh : Bool),
      between.insert enumName declared.text = .ok (fresh, after) ∧
      declared.variants.length = alternatives.length ∧
      ∀ (index : Nat) (shape : Shape), alternatives[index]? = some shape →
        shape.header.rename = none →
        ∃ variant, declared.variants[index]? = some variant ∧
          literal? declared.tag shape = some variant.literal ∧
          variant.name = Naming.pascal variant.literal ∧
          (shape.header.name = none → variant.struct = variant.name) ∧
          (Naming.IsIdentifier variant.name ↔ Naming.IsSpeakable variant.literal) := by
  rcases declareEnum_answers.mp answers with
    ⟨tag, literals, tagged, lines, between, fresh, written, inserted⟩
  rw [variants_lines (length_literals tagged) written] at inserted
  refine ⟨.ofUnion enumName tag alternatives literals, between, fresh, inserted, ?_, ?_⟩
  · rw [EnumDeclaration.ofUnion, List.length_map, List.length_zip, ← length_literals tagged,
      Nat.min_self]
  · intro index shape listed unrenamed
    rcases variant_of_alternative tagged listed with ⟨literal, found, variant⟩
    have name : variantName shape.header literal = Naming.pascal literal := by
      rw [variantName, unrenamed, Option.getD_none]
    refine ⟨_, variant, found, name, fun undeclared => ?_, ?_⟩
    · simp only [structName, undeclared, Option.getD_none]
    · rw [name]
      exact Naming.isIdentifier_pascal

/-- An alternative that has a literal under the tag and nothing else. -/
def party (literal : String) : Shape :=
  .node ⟨true, false, none, none, false⟩
    (.object [("kind", .node ⟨true, false, none, none, false⟩ (.leaf (.exact literal)))])

theorem literal?_party {tag literal other : String}
    (found : literal? tag (party literal) = some other) : other = literal := by
  rcases literal?_eq_some found with ⟨_, _, _, isParty, tagged, _⟩
  cases isParty
  cases List.mem_singleton.mp tagged
  rfl

/-- The enum of two parties is declared with their capitalized literals. -/
theorem declared_variant_names_parties :
    let emission := (declareEnum none "Party" [party "self", party "other"] []).run (.empty .strict)
    emission.1 = .ok () ∧ ∃ (declared : EnumDeclaration) (between : Registry) (fresh : Bool),
      between.insert "Party" declared.text = .ok (fresh, emission.2) ∧
      ∃ variant, declared.variants[1]? = some variant ∧ variant.name = "Other" ∧
        variant.struct = "Other" ∧ Naming.IsIdentifier "Other" := by
  intro emission
  have emitted : emission.1 = .ok () := by decide +kernel
  have answers := Prod.ext emitted (Eq.refl emission.2)
  rcases declared_variant_names answers with ⟨declared, between, fresh, inserted, _, named⟩
  rcases named 1 (party "other") rfl rfl with ⟨variant, listed, found, name, struct, identifier⟩
  have literal := literal?_party found
  have capitalized : Naming.pascal "other" = "Other" := by decide +kernel
  rw [literal, capitalized] at name
  rw [name, literal] at identifier
  have speakable : Naming.IsSpeakable "other" :=
    Naming.isSpeakable_of_isLower (List.all_eq_true.mp (by decide)) (by decide) (by decide)
  exact ⟨emitted, declared, between, fresh, inserted, variant, listed, name,
    (struct rfl).trans name, identifier.mpr speakable⟩

/-- A union whose first alternative is called `self` is emitted, and declares a struct and a variant
under a keyword. -/
theorem self_is_declared :
    let emission := (declareEnum none "Party" [party "self", party "other"] []).run (.empty .strict)
    let declared :=
      EnumDeclaration.ofUnion "Party" "kind" [party "self", party "other"] ["self", "other"]
    emission.1 = .ok () ∧ emission.2.get? "Party" = some declared.text ∧
      emission.2.contains "Self" = true ∧ declared.variants.map (·.name) = ["Self", "Other"] ∧
      ¬ Naming.IsIdentifier "Self" :=
  ⟨by decide +kernel, by decide +kernel, by decide +kernel, by decide +kernel,
    fun identifier => identifier.free (by decide)⟩

end Nominal
end Conformance
