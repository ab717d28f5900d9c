import Conformance.Emission.Naming
import Conformance.Proofs.Text.Ranges
import Mathlib.Data.List.Infix

namespace Conformance
namespace Naming

/-!
# Names of fields

The name of a field is made of its key in two steps.  Snake case turns the key into words of small
letters and digits with single underscores in between, and what is not a name yet is repaired: an
empty name, a digit at the beginning, a keyword.  For a key in ASCII the result is always the name
of a field, whatever the key is, and snake case leaves a name alone that is in snake case already.

A key in another script keeps its letters, and those are not looked at here.  But its name has no
blank in it either, and no mark of ASCII except for underscores and the sign of the mark.

The repairs get in each other's way nowhere.  An underscore in front of a digit makes no keyword,
because no keyword begins with an underscore, and one behind a keyword makes no other keyword.
-/

open Text

variable {c : Char} {written rest : List Char}

/-! ## Names of the target -/

/-- The keywords of the 2021 edition that are in use. -/
def strictKeywords : List String :=
  ["as", "async", "await", "break", "const", "continue", "crate", "dyn", "else", "enum", "extern",
    "false", "fn", "for", "if", "impl", "in", "let", "loop", "match", "mod", "move", "mut", "pub",
    "ref", "return", "self", "Self", "static", "struct", "super", "trait", "true", "type", "unsafe",
    "use", "where", "while"]

/-- The keywords of the 2021 edition that are kept for later use. -/
def futureKeywords : List String :=
  ["abstract", "become", "box", "do", "final", "macro", "override", "priv", "try", "typeof",
    "unsized", "virtual", "yield"]

/-- The keywords that the mark `r#` does not make names of. -/
def pathKeywords : List String := ["crate", "self", "super", "Self"]

/-- A small letter or a digit of ASCII. -/
def isWordCharacter (c : Char) : Bool := c.isLower || c.isDigit

/-- A word that a name can be: a small letter or an underscore with small letters, digits and
underscores behind it, but not the underscore alone. -/
structure IsWord (name : String) : Prop where
  begins : ∃ first rest, name.toList = first :: rest ∧ (first.isLower = true ∨ first = '_')
  continues : ∀ c ∈ name.toList, isWordCharacter c = true ∨ c = '_'
  ne_underscore : name ≠ "_"

/-- A name that a field can have: a word that is no keyword, or a marked keyword. -/
def IsFieldName (name : String) : Prop :=
  (IsWord name ∧ name ∉ strictKeywords ∧ name ∉ futureKeywords) ∨
    ∃ keyword ∈ strictKeywords ++ futureKeywords, keyword ∉ pathKeywords ∧ name = "r#" ++ keyword

/-- The emitter knows all keywords and nothing else. -/
theorem keywords_perm : keywords.Perm (strictKeywords ++ futureKeywords) := by decide +kernel

theorem reserved_perm : reserved.Perm pathKeywords := by decide

/-! ## Text in snake case -/

/-- Words with single underscores behind them, written backwards. -/
inductive Spaced : List Char → Prop where
  | nil : Spaced []
  | character {c : Char} {written : List Char} (word : isWordCharacter c = true)
      (before : Spaced written) : Spaced (c :: written)
  | underscore {c : Char} {written : List Char} (word : isWordCharacter c = true)
      (before : Spaced (c :: written)) : Spaced ('_' :: c :: written)

theorem ne_underscore_of_word (word : isWordCharacter c = true) : c ≠ '_' := by
  rintro rfl
  revert word
  decide

namespace Spaced

theorem tail (spaced : Spaced (c :: written)) : Spaced written := by
  cases spaced with
  | character _ before => exact before
  | underscore _ before => exact before

theorem of_append {front : List Char} (spaced : Spaced (front ++ written)) : Spaced written := by
  induction front with
  | nil => exact spaced
  | cons c front inductionHypothesis => exact inductionHypothesis spaced.tail

theorem characters (spaced : Spaced written) : ∀ c ∈ written, isWordCharacter c = true ∨ c = '_' := by
  induction spaced with
  | nil => exact List.forall_mem_nil _
  | character word _ inductionHypothesis =>
      exact List.forall_mem_cons.mpr ⟨.inl word, inductionHypothesis⟩
  | underscore _ _ inductionHypothesis =>
      exact List.forall_mem_cons.mpr ⟨.inr rfl, inductionHypothesis⟩

/-- The text does not begin with an underscore. -/
theorem not_begins (spaced : Spaced written) : ¬ ['_'] <:+ written := by
  induction spaced with
  | nil => exact fun suffix => List.cons_ne_nil _ _ (List.suffix_nil.mp suffix)
  | character word _ inductionHypothesis =>
      rintro suffix
      rcases List.suffix_cons_iff.mp suffix with whole | inside
      · exact ne_underscore_of_word word (List.cons.inj whole).1.symm
      · exact inductionHypothesis inside
  | underscore _ _ inductionHypothesis =>
      rintro suffix
      rcases List.suffix_cons_iff.mp suffix with whole | inside
      · cases whole
      · exact inductionHypothesis inside

/-- No underscore follows another one. -/
theorem not_repeats (spaced : Spaced written) : ¬ ['_', '_'] <:+: written := by
  induction spaced with
  | nil => exact fun inside => List.cons_ne_nil _ _ (List.infix_nil.mp inside)
  | character word _ inductionHypothesis =>
      rintro inside
      rcases List.infix_cons_iff.mp inside with here | later
      · exact ne_underscore_of_word word (List.cons_prefix_cons.mp here).1.symm
      · exact inductionHypothesis later
  | underscore word _ inductionHypothesis =>
      rintro inside
      rcases List.infix_cons_iff.mp inside with here | later
      · have second := (List.cons_prefix_cons.mp (List.cons_prefix_cons.mp here).2).1
        exact ne_underscore_of_word word second.symm
      · exact inductionHypothesis later

theorem endWord (spaced : Spaced written) : Spaced (endWord written) := by
  cases spaced with
  | nil => exact .nil
  | character word before =>
      rw [Naming.endWord, if_neg (ne_underscore_of_word word)]
      exact .underscore word (.character word before)
  | underscore word before =>
      rw [Naming.endWord, if_pos rfl]
      exact .underscore word before

end Spaced

/-! ## What snake case makes of a key -/

/-- What becomes of a character of ASCII: it separates words, is a capital with a small letter, or
stays as it is. -/
theorem ascii_cases (ascii : isAscii c = true) :
    (isSeparator c || !isAlphanumeric c) = true ∨
    (isSeparator c || !isAlphanumeric c) = false ∧
      ((isUppercase c = true ∧ ∃ small, toLowercase c = [small] ∧ isWordCharacter small = true) ∨
        isUppercase c = false ∧ isWordCharacter c = true) := by
  have all : ∀ code < 128, ((isSeparator (Char.ofNat code) || !(Char.ofNat code).isAlphanum) = true ∨
      (isSeparator (Char.ofNat code) || !(Char.ofNat code).isAlphanum) = false ∧
        ((Char.ofNat code).isUpper = true ∧ isWordCharacter (Char.ofNat code).toLower = true ∨
          (Char.ofNat code).isUpper = false ∧ isWordCharacter (Char.ofNat code) = true)) := by
    decide +kernel
  have here := all c.toNat (of_decide_eq_true ascii)
  rw [Char.ofNat_toNat] at here
  simp only [isAlphanumeric, isUppercase, toLowercase, ascii, if_true]
  refine here.imp_right (And.imp_right (Or.imp_left (And.imp_right fun word => ⟨_, rfl, word⟩)))

/-- A small letter or a digit stays as it is. -/
theorem word_stays (word : isWordCharacter c = true) :
    (isSeparator c || !isAlphanumeric c) = false ∧ isUppercase c = false := by
  have all : ∀ code < 128, isWordCharacter (Char.ofNat code) = true →
      (isSeparator (Char.ofNat code) || !isAlphanumeric (Char.ofNat code)) = false ∧
        isUppercase (Char.ofNat code) = false := by decide +kernel
  have high : c.val ≤ 122 ∨ c.val ≤ 57 :=
    (Bool.or_eq_true_iff.mp word).imp (fun small => of_decide_eq_true (Bool.and_eq_true_iff.mp small).2)
      (fun digit => of_decide_eq_true (Bool.and_eq_true_iff.mp digit).2)
  have bound : c.toNat < 128 := by
    simp only [UInt32.le_iff_toNat_le] at high
    rcases high with small | digit
    · exact Nat.lt_of_le_of_lt small (by decide)
    · exact Nat.lt_of_le_of_lt digit (by decide)
  have here := all c.toNat bound
  rw [Char.ofNat_toNat] at here
  exact here word

theorem snakeFrom_spaced {characters : List Char} (ascii : ∀ c ∈ characters, isAscii c = true) :
    ∀ (previous : Option Char) {written : List Char}, Spaced written →
      Spaced (snakeFrom previous written characters) := by
  induction characters with
  | nil => exact fun _ _ spaced => spaced
  | cons c rest inductionHypothesis =>
      intro previous written spaced
      rw [List.forall_mem_cons] at ascii
      have others {written : List Char} (spaced : Spaced written) :
          Spaced (snakeFrom (some c) written rest) := inductionHypothesis ascii.2 (some c) spaced
      rw [snakeFrom]
      rcases ascii_cases ascii.1 with separates | ⟨joins, capital | small⟩
      · rw [if_pos separates]
        exact others spaced.endWord
      · rcases capital with ⟨uppercase, letter, lowered, word⟩
        rw [joins, if_neg Bool.false_ne_true, if_pos uppercase, lowered]
        refine others (.character word ?_)
        split
        · exact spaced.endWord
        · exact spaced
      · rw [joins, if_neg Bool.false_ne_true, small.1, if_neg Bool.false_ne_true]
        exact others (.character small.2 spaced)

/-- The text in front of an underscore at the end. -/
theorem Spaced.dropWhile (spaced : Spaced written) :
    Spaced (written.dropWhile (· = '_')) ∧ ¬ ['_'] <+: written.dropWhile (· = '_') := by
  have starts {c : Char} {written : List Char} (word : isWordCharacter c = true) :
      (c :: written).dropWhile (· = '_') = c :: written ∧ ¬ ['_'] <+: c :: written := by
    have other := ne_underscore_of_word word
    exact ⟨List.dropWhile_cons_of_neg (by simpa using other),
      fun here => other (List.cons_prefix_cons.mp here).1.symm⟩
  cases spaced with
  | nil => exact ⟨.nil, fun here => List.cons_ne_nil _ _ (List.prefix_nil.mp here)⟩
  | character word before =>
      rw [(starts word).1]
      exact ⟨.character word before, (starts word).2⟩
  | underscore word before =>
      rw [List.dropWhile_cons_of_pos (by decide), (starts word).1]
      exact ⟨before, (starts word).2⟩

/-- A text in snake case: words of small letters and digits with single underscores in between. -/
structure IsSnake (name : String) : Prop where
  spaced : Spaced name.toList.reverse
  ends : ¬ ['_'] <:+ name.toList

/-- A key in ASCII becomes a text in snake case. -/
theorem isSnake_snake {name : String} (ascii : ∀ c ∈ name.toList, isAscii c = true) :
    IsSnake (snake name) := by
  rcases (snakeFrom_spaced ascii none .nil).dropWhile with ⟨spaced, ends⟩
  have whole : (snake name).toList =
      ((snakeFrom none [] name.toList).dropWhile (· = '_')).reverse := by
    rw [snake, String.toList_ofList]
  refine ⟨by rwa [whole, List.reverse_reverse], ?_⟩
  rw [whole]
  exact fun suffix => ends (List.reverse_suffix.mp suffix)

/-- What is in snake case already is copied character by character. -/
theorem snakeFrom_of_spaced {characters : List Char} : ∀ (previous : Option Char)
    (written : List Char), Spaced (characters.reverse ++ written) →
      snakeFrom previous written characters = characters.reverse ++ written := by
  induction characters with
  | nil => exact fun _ _ _ => rfl
  | cons c rest inductionHypothesis =>
      intro previous written spaced
      rw [List.reverse_cons, List.append_assoc, List.singleton_append] at spaced ⊢
      rw [snakeFrom]
      cases spaced.of_append with
      | character word before =>
          rw [(word_stays word).1, if_neg Bool.false_ne_true, (word_stays word).2,
            if_neg Bool.false_ne_true]
          exact inductionHypothesis _ _ spaced
      | underscore word before =>
          rw [if_pos (by decide), endWord, if_neg (ne_underscore_of_word word)]
          exact inductionHypothesis _ _ spaced

/-- A text in snake case stays as it is. -/
theorem snake_of_isSnake {name : String} (isSnake : IsSnake name) : snake name = name := by
  have copied := snakeFrom_of_spaced none [] (by rw [List.append_nil]; exact isSnake.spaced)
  rw [List.append_nil] at copied
  have ends : ¬ ['_'] <+: name.toList.reverse := fun begins =>
    isSnake.ends (List.reverse_prefix.mp begins)
  have kept : name.toList.reverse.dropWhile (· = '_') = name.toList.reverse := by
    cases back : name.toList.reverse with
    | nil => rfl
    | cons c rest =>
        rw [back] at ends
        refine List.dropWhile_cons_of_neg fun underscore => ends ?_
        rw [of_decide_eq_true underscore]
        exact List.cons_prefix_cons.mpr ⟨rfl, List.nil_prefix⟩
  rw [snake, copied, kept, List.reverse_reverse, String.ofList_toList]

namespace IsSnake

variable {name : String}

theorem not_begins (isSnake : IsSnake name) : ¬ ['_'] <+: name.toList := fun begins =>
  isSnake.spaced.not_begins (List.reverse_suffix.mpr begins)

theorem not_repeats (isSnake : IsSnake name) : ¬ ['_', '_'] <:+: name.toList := fun inside =>
  isSnake.spaced.not_repeats (List.reverse_infix.mpr inside)

theorem characters (isSnake : IsSnake name) :
    ∀ c ∈ name.toList, isWordCharacter c = true ∨ c = '_' := fun c listed =>
  isSnake.spaced.characters c (List.mem_reverse.mpr listed)

end IsSnake

/-! ## Characters of any name -/

/-- A character outside ASCII, or a letter, a digit, an underscore or the sign of the mark. -/
def isNamePart (c : Char) : Bool := !isAscii c || c.isAlphanum || c = '_' || c = '#'

set_option maxRecDepth 100000 in
theorem images_checked :
    (toLowercaseMap.entries.toList.all fun entry =>
      entry.2.all fun code => isNamePart (Char.ofNat code)) = true := by
  have table : toLowercaseMap = CodeMap.ofTable _ := rfl
  unfold toLowercaseTable at table
  rw [table, CodeMap.ofTable_ofList]
  decide +kernel

theorem isNamePart_of_isAlphanumeric (letter : isAlphanumeric c = true) : isNamePart c = true := by
  by_cases ascii : isAscii c = true
  · rw [isAlphanumeric, if_pos ascii] at letter
    simp [isNamePart, letter]
  · simp [isNamePart, ascii]

theorem isNamePart_toLowercase (letter : isAlphanumeric c = true) :
    ∀ image ∈ toLowercase c, isNamePart image = true := by
  by_cases ascii : isAscii c = true
  · have all : ∀ code < 128, (Char.ofNat code).isAlphanum = true →
        isNamePart (Char.ofNat code).toLower = true := by decide +kernel
    rw [isAlphanumeric, if_pos ascii] at letter
    have here := all c.toNat (of_decide_eq_true ascii)
    rw [Char.ofNat_toNat] at here
    rw [toLowercase, if_pos ascii]
    exact List.forall_mem_singleton.mpr (here letter)
  · rw [toLowercase, if_neg ascii]
    cases found : toLowercaseMap.find? c.toNat with
    | none => exact List.forall_mem_singleton.mpr (isNamePart_of_isAlphanumeric letter)
    | some images =>
        have inTable := List.all_eq_true.mp images_checked _ (CodeMap.mem_of_search found)
        exact List.forall_mem_map.mpr (List.all_eq_true.mp inTable)

theorem isNamePart_endWord (before : ∀ c ∈ written, isNamePart c = true) :
    ∀ c ∈ endWord written, isNamePart c = true := by
  cases written with
  | nil => exact before
  | cons last written =>
      rw [endWord]
      split
      · exact before
      · exact List.forall_mem_cons.mpr ⟨rfl, before⟩

theorem isNamePart_snakeFrom (characters : List Char) :
    ∀ (previous : Option Char) {written : List Char}, (∀ c ∈ written, isNamePart c = true) →
      ∀ c ∈ snakeFrom previous written characters, isNamePart c = true := by
  induction characters with
  | nil => exact fun _ _ before => before
  | cons c rest inductionHypothesis =>
      intro previous written before
      rw [snakeFrom]
      split
      case isTrue => exact inductionHypothesis (some c) (isNamePart_endWord before)
      case isFalse joins =>
        have letter : isAlphanumeric c = true := by
          rw [Bool.or_eq_true, not_or] at joins
          simpa using joins.2
        split
        case isTrue =>
          refine inductionHypothesis (some c) (List.forall_mem_append.mpr ⟨?_, ?_⟩)
          · exact fun image listed => isNamePart_toLowercase letter image (List.mem_reverse.mp listed)
          · split
            · exact isNamePart_endWord before
            · exact before
        case isFalse =>
          exact inductionHypothesis (some c)
            (List.forall_mem_cons.mpr ⟨isNamePart_of_isAlphanumeric letter, before⟩)

theorem isNamePart_guardDigit (before : ∀ c ∈ written, isNamePart c = true) :
    ∀ c ∈ guardDigit written, isNamePart c = true := by
  cases written with
  | nil => exact before
  | cons first written =>
      rw [guardDigit]
      split
      · exact List.forall_mem_cons.mpr ⟨rfl, before⟩
      · exact before

theorem isNamePart_guardKeyword {name : String} (before : ∀ c ∈ name.toList, isNamePart c = true) :
    ∀ c ∈ (guardKeyword name).toList, isNamePart c = true := by
  have mark : ∀ c ∈ "r#".toList, isNamePart c = true := List.all_eq_true.mp rfl
  have underscore : ∀ c ∈ "_".toList, isNamePart c = true := List.all_eq_true.mp rfl
  rw [guardKeyword]
  split
  · rw [String.toList_append, List.forall_mem_append]
    exact ⟨before, underscore⟩
  · split
    · rw [String.toList_append, List.forall_mem_append]
      exact ⟨mark, before⟩
    · exact before

/-- The name of a field has no blank in it and no mark of ASCII but underscores and the sign of the
mark for keywords, whatever the key is. -/
theorem isNamePart_field (key : String) : ∀ c ∈ (field key).toList, isNamePart c = true := by
  have words : ∀ c ∈ (snake key).toList, isNamePart c = true := by
    have written := isNamePart_snakeFrom key.toList none (List.forall_mem_nil _)
    rw [snake, String.toList_ofList]
    exact fun c listed => written c ((List.dropWhile_sublist _).subset (List.mem_reverse.mp listed))
  rw [field]
  refine isNamePart_guardKeyword ?_
  rw [String.toList_ofList]
  refine isNamePart_guardDigit ?_
  split
  · exact List.all_eq_true.mp rfl
  · exact words

/-! ## The repairs -/

/-- A word that is no keyword of the emitter can be the name of a field. -/
theorem isFieldName_of_isWord {name : String} (word : IsWord name) (free : name ∉ keywords) :
    IsFieldName name := by
  rw [keywords_perm.mem_iff, List.mem_append, not_or] at free
  exact .inl ⟨word, free⟩

/-- A word with an underscore behind it is a word. -/
theorem IsWord.underscored {name : String} (word : IsWord name) : IsWord (name ++ "_") := by
  rcases word.begins with ⟨first, rest, whole, begins⟩
  have longer : (name ++ "_").toList = first :: (rest ++ ['_']) := by
    rw [String.toList_append, whole]
    rfl
  refine ⟨⟨first, rest ++ ['_'], longer, begins⟩, ?_, ?_⟩
  · rw [String.toList_append, List.forall_mem_append]
    exact ⟨word.continues, List.forall_mem_singleton.mpr (.inr rfl)⟩
  · intro same
    rw [same] at longer
    exact List.append_ne_nil_of_right_ne_nil rest (List.cons_ne_nil _ _) (List.cons.inj longer).2.symm

theorem underscored_not_mem_keywords : ∀ name ∈ reserved, name ++ "_" ∉ keywords := by decide +kernel

/-- Any word becomes the name of a field. -/
theorem isFieldName_guardKeyword {name : String} (word : IsWord name) :
    IsFieldName (guardKeyword name) := by
  rw [guardKeyword]
  by_cases path : name ∈ reserved
  · rw [if_pos (List.contains_iff_mem.mpr path)]
    exact isFieldName_of_isWord word.underscored (underscored_not_mem_keywords name path)
  · rw [if_neg (mt List.contains_iff_mem.mp path)]
    by_cases keyword : name ∈ keywords
    · rw [if_pos (List.contains_iff_mem.mpr keyword)]
      exact .inr ⟨name, keywords_perm.mem_iff.mp keyword, mt reserved_perm.mem_iff.mpr path, rfl⟩
    · rw [if_neg (mt List.contains_iff_mem.mp keyword)]
      exact isFieldName_of_isWord word keyword

/-- A text in snake case becomes a word, unless it is empty. -/
theorem IsSnake.isWord {name : String} (isSnake : IsSnake name) {first : Char}
    (whole : name.toList = first :: rest) : IsWord (String.ofList (guardDigit (first :: rest))) := by
  have characters := isSnake.characters
  rw [whole] at characters
  have other : first ≠ '_' := by
    rintro rfl
    exact isSnake.not_begins (by rw [whole]; exact List.cons_prefix_cons.mpr ⟨rfl, List.nil_prefix⟩)
  have word : first.isLower = true ∨ first.isDigit = true :=
    (Bool.or_eq_true _ _).mp ((characters first List.mem_cons_self).resolve_right other)
  rw [guardDigit]
  cases digit : first.isDigit with
  | true =>
      rw [if_pos rfl]
      refine ⟨⟨'_', first :: rest, String.toList_ofList, .inr rfl⟩, ?_, fun same => ?_⟩
      · rw [String.toList_ofList]
        exact List.forall_mem_cons.mpr ⟨.inr rfl, characters⟩
      · cases (String.toList_ofList.symm.trans (congrArg String.toList same) :)
  | false =>
      rw [if_neg Bool.false_ne_true]
      have small := word.resolve_right (by rw [digit]; exact Bool.false_ne_true)
      refine ⟨⟨first, rest, String.toList_ofList, .inl small⟩, ?_, fun same => ?_⟩
      · rw [String.toList_ofList]
        exact characters
      · cases (String.toList_ofList.symm.trans (congrArg String.toList same) :)
        exact other rfl

theorem isWord_fallback : IsWord "field" where
  begins := ⟨'f', ['i', 'e', 'l', 'd'], rfl, .inl rfl⟩
  continues c listed := by
    have small : "field".toList.all isWordCharacter = true := by decide
    exact .inl (List.all_eq_true.mp small c listed)
  ne_underscore := by decide

/-- For a key in ASCII the name of a field is a word that is no keyword, or a keyword that is marked
and can be marked.  Snake case leaves alone what it made of such a key, and puts no underscore at an
end of it nor two in a row. -/
theorem field_isFieldName (key : String) (ascii : ∀ c ∈ key.toList, isAscii c = true) :
    IsFieldName (field key) ∧ snake (snake key) = snake key ∧
      ¬ ['_'] <+: (snake key).toList ∧ ¬ ['_'] <:+ (snake key).toList ∧
      ¬ ['_', '_'] <:+: (snake key).toList := by
  have isSnake := isSnake_snake ascii
  refine ⟨?_, snake_of_isSnake isSnake, isSnake.not_begins, isSnake.ends, isSnake.not_repeats⟩
  apply isFieldName_guardKeyword
  cases words : (snake key).toList with
  | nil => exact isWord_fallback
  | cons first rest => exact isSnake.isWord words

/-- Keys that need every kind of repair: a run of capitals between separators, a keyword, a keyword
that cannot be marked, a digit at the beginning, and no words at all. -/
def crookedKeys : List String := ["_HTTPProxy--2Km.", "Type", "Self", "2Km", "--"]

theorem field_isFieldName_crooked :
    (∀ key ∈ crookedKeys, ∀ c ∈ key.toList, isAscii c = true) ∧
      crookedKeys.map field = ["http_proxy_2_km", "r#type", "self_", "_2_km", "field"] ∧
      ∀ key ∈ crookedKeys, IsFieldName (field key) ∧ snake (snake key) = snake key := by
  have plain : ∀ key ∈ crookedKeys, key.toList.all isAscii = true := by decide
  have ascii : ∀ key ∈ crookedKeys, ∀ c ∈ key.toList, isAscii c = true :=
    fun key listed => List.all_eq_true.mp (plain key listed)
  refine ⟨ascii, by decide +kernel, fun key listed => ?_⟩
  have named := field_isFieldName key (ascii key listed)
  exact ⟨named.1, named.2.1⟩

end Naming
end Conformance
