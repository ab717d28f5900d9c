import Conformance.Proofs.Emission.Declaration
import Conformance.Proofs.Emission.Fields

namespace Conformance
namespace Nominal

/-!
# Words in declarations

What a declaration refers to stands in its text: in the types of its fields, in what its variants
hold, or in the type that it is another name for.  Between delimiters these texts consist of words.
A word is the name of a type that the language brings along, or a declared name that the declaration
uses.

How a word is written does not tell which of both it is.  Text has the type `String`, and a schema
can declare an object by that name; then the word means the object wherever it is written.  So the
words of the language are listed here, and of a declaration all words are told that are not among
them.
-/

/-- The names of types that the language brings along, as they are written. -/
def broughtAlong : List String :=
  ["String", "u32", "u64", "i32", "i64", "f64", "bool", "serde_json::Value", "Option", "Vec",
    "std::collections::HashMap"]

theorem isWord_of_broughtAlong : ∀ name ∈ broughtAlong, IsWord name := by decide +kernel

/-- The words in some text, which are what stands between delimiters. -/
def wordsIn (text : List Char) : List String :=
  ((text.splitOnP isDelimiter).filter fun word => !word.isEmpty).map String.ofList

section

variable {mark : Char} {first rest text : List Char}

theorem wordsIn_separated (ends : isDelimiter mark = true) :
    wordsIn (first ++ mark :: rest) = wordsIn first ++ wordsIn rest := by
  rw [wordsIn, List.splitOnP_append_cons first rest ends, List.filter_append, List.map_append]
  rfl

/-- A word is the only one in its text. -/
theorem mem_wordsIn_of_isWord {name word : String} (isWord : IsWord name)
    (listed : word ∈ wordsIn name.toList) : word = name := by
  rw [wordsIn, List.splitOnP_eq_singleton isWord] at listed
  rcases List.mem_map.mp listed with ⟨characters, kept, rfl⟩
  rw [List.mem_singleton.mp (List.mem_of_mem_filter kept), String.ofList_toList]

end

/-! ## Words of a type -/

/-- A text on one line whose words are brought along or among some names. -/
structure Composed (names : List String) (text : List Char) : Prop where
  whole : '\n' ∉ text
  words : ∀ word ∈ wordsIn text, word ∈ broughtAlong ∨ word ∈ names

namespace Composed

variable {names more : List String} {mark : Char} {first rest text : List Char}

theorem nil : Composed names [] := ⟨List.not_mem_nil, List.forall_mem_nil _⟩

theorem word {name : String} (isWord : IsWord name) (known : name ∈ broughtAlong ∨ name ∈ names) :
    Composed names name.toList where
  whole := isWord.not_mem rfl
  words other listed := by
    rw [mem_wordsIn_of_isWord isWord listed]
    exact known

theorem brought {name : String} (known : name ∈ broughtAlong) : Composed names name.toList :=
  word (isWord_of_broughtAlong name known) (.inl known)

theorem separated (mark : Char) (front : Composed names first) (back : Composed names rest)
    (ends : isDelimiter mark = true ∧ mark ≠ '\n') : Composed names (first ++ mark :: rest) where
  whole := by
    rw [List.mem_append, List.mem_cons, not_or, not_or]
    exact ⟨front.whole, ends.2.symm, back.whole⟩
  words word listed := by
    rw [wordsIn_separated ends.1, List.mem_append] at listed
    exact listed.elim (front.words word) (back.words word)

theorem weaken (composed : Composed names text) (kept : ∀ name ∈ names, name ∈ more) :
    Composed more text :=
  ⟨composed.whole, fun word listed => (composed.words word listed).imp_right (kept word)⟩

/-- Texts in a row. -/
theorem intercalate {texts : List String} (each : ∀ text ∈ texts, Composed names text.toList)
    (back : Composed names rest) (ends : isDelimiter mark = true ∧ mark ≠ '\n') :
    Composed names ((", ".intercalate texts).toList ++ mark :: rest) := by
  induction texts with
  | nil => exact .separated mark .nil back ends
  | cons text texts inductionHypothesis =>
      rw [List.forall_mem_cons] at each
      cases texts with
      | nil =>
          rw [String.intercalate_singleton]
          exact .separated mark each.1 back ends
      | cons second others =>
          have split : (", ".intercalate (text :: second :: others)).toList ++ mark :: rest =
              text.toList ++ ',' :: ([] ++ ' ' ::
                ((", ".intercalate (second :: others)).toList ++ mark :: rest)) := by
            rw [String.intercalate_cons_cons]
            simp
          have behind := separated ' ' nil (inductionHypothesis each.2) (by decide)
          rw [split]
          exact .separated ',' each.1 behind (by decide)

theorem tuple {texts : List String} (each : ∀ text ∈ texts, Composed names text.toList) :
    Composed names (tupleType texts).toList := by
  have opened {text : List Char} (inside : Composed names text) : Composed names ('(' :: text) :=
    separated '(' nil inside (by decide)
  rw [tupleType.eq_def]
  split
  case h_1 single =>
    have split : ("(" ++ single ++ ",)").toList = '(' :: (single.toList ++ ',' :: ([] ++ ')' :: [])) := by
      simp
    have behind : Composed names ([] ++ ')' :: []) := .separated ')' nil nil (by decide)
    rw [split]
    exact opened (.separated ',' (each single List.mem_cons_self) behind (by decide))
  case h_2 =>
    have split : ("(" ++ ", ".intercalate texts ++ ")").toList =
        '(' :: ((", ".intercalate texts).toList ++ ')' :: []) := by
      rw [String.toList_append, String.toList_append, List.append_assoc]
      rfl
    rw [split]
    exact opened (intercalate each nil (by decide))

end Composed

namespace TypeRef

theorem mem_broughtAlong (known : Builtin) (other : known ≠ .unit) : known.text ∈ broughtAlong := by
  cases known with
  | unit => exact absurd rfl other
  | _ => decide

theorem builtin_composed {names : List String} (known : Builtin) :
    Composed names known.text.toList := by
  by_cases unit : known = .unit
  · have behind : Composed names ([] ++ ')' :: []) := .separated ')' .nil .nil (by decide)
    rw [unit]
    exact .separated '(' .nil behind (by decide)
  · exact .brought (mem_broughtAlong known unit)

theorem mapOf_toList (value : String) :
    (mapOf value).toList = "std::collections::HashMap".toList ++ '<' ::
      ("String".toList ++ ',' :: ([] ++ ' ' :: (value.toList ++ '>' :: []))) := by
  have front : "std::collections::HashMap<String, ".toList =
      "std::collections::HashMap".toList ++ '<' :: ("String".toList ++ ',' :: [' ']) := by
    decide +kernel
  have back : ">".toList = ['>'] := rfl
  unfold mapOf
  simp only [String.toList_append, front, back, List.append_assoc, List.cons_append, List.nil_append]

mutual

/-- The words of a type are brought along, or names that it uses. -/
theorem composed : ∀ type : TypeRef, (∀ name ∈ type.uses, IsWord name) →
    Composed type.uses type.text.toList
  | .builtin known, _ => builtin_composed known
  | .declared name, named =>
      .word (named name List.mem_cons_self) (.inr List.mem_cons_self)
  | .option type, named => by
      have split : (option type).text.toList =
          "Option".toList ++ '<' :: (type.text.toList ++ '>' :: []) := by simp [text]
      have inside := Composed.separated '>' (composed type named) .nil (by decide)
      rw [split]
      exact .separated '<' (.brought (by decide)) inside (by decide)
  | .vector item, named => by
      have split : (vector item).text.toList =
          "Vec".toList ++ '<' :: (item.text.toList ++ '>' :: []) := by simp [text, vectorOf]
      have inside := Composed.separated '>' (composed item named) .nil (by decide)
      rw [split]
      exact .separated '<' (.brought (by decide)) inside (by decide)
  | .tuple items, named => .tuple (texts_composed items named)
  | .map value, named => by
      have inside := Composed.separated '>' (composed value named) .nil (by decide)
      have blank := Composed.separated ' ' .nil inside (by decide)
      have key : Composed value.uses "String".toList := .brought (by decide)
      rw [text, mapOf_toList]
      exact .separated '<' (.brought (by decide)) (.separated ',' key blank (by decide)) (by decide)

theorem texts_composed : ∀ types : List TypeRef, (∀ name ∈ usesEach types, IsWord name) →
    ∀ text ∈ texts types, Composed (usesEach types) text.toList
  | [], _ => List.forall_mem_nil _
  | type :: rest, named => by
      rw [usesEach, List.forall_mem_append] at named
      rw [texts, List.forall_mem_cons]
      refine ⟨(composed type named.1).weaken fun _ => List.mem_append_left _, ?_⟩
      intro text listed
      exact (texts_composed rest named.2 text listed).weaken fun _ => List.mem_append_right _

end

end TypeRef

/-! ## Words of a declaration -/

/-- The words in the types of the fields, in what the variants hold, or in the target. -/
def WrittenDeclaration.typeWords : WrittenDeclaration → List String
  | .struct _ fields => fields.flatMap fun field => wordsIn field.type.toList
  | .enum _ _ variants => variants.flatMap fun variant => wordsIn variant.payload.toList
  | .synonym _ target => wordsIn target.toList

namespace Declaration

/-- What is written of a declaration. -/
def written : Declaration → WrittenDeclaration
  | .struct name fields =>
      .struct name (fields.map fun field =>
        WrittenField.ofField field.key field.header field.type.text)
  | .enum declared => declared.written
  | .alias name target => .synonym name target.text

/-- The names in a declaration: its own, those of its variants, and those that it uses. -/
def names : Declaration → List String
  | .struct name fields => name :: fields.flatMap fun field => field.type.uses
  | .enum declared => declared.names
  | .alias name target => name :: target.uses

variable {declaration : Declaration}

theorem text_written (declaration : Declaration) : declaration.written.text = declaration.text := by
  cases declaration with
  | struct name fields =>
      rw [written, text, ← structText_eq, Line.join_flatMap, List.map_map]
      simp only [Function.comp_def, fieldLines_eq]
  | enum declared => exact declared.text_written
  | «alias» name target => exact (aliasText_eq name target.text).symm

/-- The types of the fields of a struct. -/
theorem field_composed {name : String} {fields : List StructField}
    (named : ∀ word ∈ (struct name fields).names, IsWord word) :
    ∀ field ∈ fields, Composed (struct name fields).uses field.type.text.toList := by
  intro field listed
  have used : ∀ word ∈ field.type.uses, word ∈ (struct name fields).uses := fun word member =>
    List.mem_flatMap.mpr ⟨field, listed, member⟩
  refine (field.type.composed fun word member => ?_).weaken used
  exact named word (List.mem_cons_of_mem _ (used word member))

/-- A declaration is read as what is written of it, if the names in it are words. -/
theorem read?_written (named : ∀ word ∈ declaration.names, IsWord word) :
    WrittenDeclaration.read? declaration.written.text = some declaration.written := by
  cases declaration with
  | struct name fields =>
      refine (WrittenDeclaration.legible_struct ((named name List.mem_cons_self).not_mem rfl) ?_).read?_text
      rw [List.forall_mem_map]
      exact fun field listed =>
        WrittenField.legible_ofField field.key field.header (field_composed named field listed).whole
  | enum declared => exact EnumDeclaration.read?_written named
  | «alias» name target =>
      rw [names, List.forall_mem_cons] at named
      have whole := (target.composed named.2).whole
      exact WrittenDeclaration.Legible.read?_text (List.forall_mem_singleton.mpr
        ⟨named.1.not_mem rfl, whole, named.1.not_mem rfl⟩)

/-- The words in a declaration are brought along, or names that it uses. -/
theorem mem_typeWords (named : ∀ word ∈ declaration.names, IsWord word) :
    ∀ word ∈ declaration.written.typeWords, word ∈ broughtAlong ∨ word ∈ declaration.uses := by
  intro word listed
  cases declaration with
  | struct name fields =>
      rw [written, WrittenDeclaration.typeWords, List.flatMap_map] at listed
      rcases List.mem_flatMap.mp listed with ⟨field, member, inside⟩
      rw [WrittenField.type_ofField] at inside
      exact (field_composed named field member).words word inside
  | enum declared =>
      rw [written, EnumDeclaration.written, WrittenDeclaration.typeWords, List.flatMap_map] at listed
      rcases List.mem_flatMap.mp listed with ⟨variant, member, inside⟩
      have isWord : IsWord variant.struct := named _ (List.mem_cons_of_mem _
        (List.mem_flatMap.mpr ⟨variant, member, List.mem_cons_of_mem _ List.mem_cons_self⟩))
      rw [mem_wordsIn_of_isWord isWord inside]
      exact .inr (List.mem_map_of_mem member)
  | «alias» name target =>
      rw [names, List.forall_mem_cons] at named
      exact (target.composed named.2).words word listed

end Declaration

end Nominal
end Conformance
