import Conformance.Proofs.Emission.Steps
import Conformance.Proofs.Emission.WrittenDeclaration
import Conformance.Proofs.Verdict
import Mathlib.Data.List.Nodup

namespace Conformance

/-!
# Tagged unions

A union is tagged if its alternatives are objects with one field in common that
requires another exact string in each of them.  An alternative then accepts a record
only if the record has the string of that alternative under the tag, so no record is
accepted by two alternatives.  This does not depend on other fields, nor on whether an
alternative may be missing or null: a record passes every gate.

The enum that is emitted for a tagged union lists a variant for each alternative, in
their order and renamed to the strings of their tags.  Whoever reads a record into the
enum looks at the same tag, so the variant that is chosen is the alternative that
accepts.  The tag and the strings are taken from the attributes in the text of the
declaration, which is read for that.
-/

namespace Nominal

/-! ## What a discriminant is -/

theorem isDistinct_iff (names : List String) : isDistinct names = true ↔ names.Nodup := by
  induction names with
  | nil => simp [isDistinct]
  | cons name rest inductionHypothesis => simp [isDistinct, inductionHypothesis]

/-- The string that an object requires is that of an exact leaf behind a gate which lets
nothing pass but a string. -/
theorem literal?_eq_some {tag literal : String} {shape : Shape}
    (found : literal? tag shape = some literal) :
    ∃ header fields fieldHeader, shape = .node header (.object fields) ∧
      (tag, Shape.node fieldHeader (.leaf (.exact literal))) ∈ fields ∧
      fieldHeader.required = true ∧ fieldHeader.nullable = false := by
  rcases shape with ⟨header, form⟩
  cases form with
  | object fields =>
      simp only [literal?, Shape.form] at found
      split at found
      case h_1 fieldHeader expected listed =>
        split at found
        case isTrue flags =>
          cases found
          rw [Bool.and_eq_true, Bool.not_eq_true'] at flags
          rcases List.lookup_eq_some_iff.mp listed with ⟨first, rest, split, _⟩
          refine ⟨header, fields, fieldHeader, rfl, ?_, flags.1, flags.2⟩
          rw [split]
          exact List.mem_append_right first List.mem_cons_self
        case isFalse => cases found
      case h_2 => cases found
  | _ => cases found

/-- Where a function has results for all members of a list, it has one for each. -/
theorem map_of_mapM {First Second : Type} {function : First → Option Second}
    {list : List First} : ∀ {results : List Second},
    list.mapM function = some results → list.map function = results.map some := by
  induction list with
  | nil =>
      intro results mapped
      cases mapped
      rfl
  | cons first rest inductionHypothesis =>
      intro results mapped
      rw [List.mapM_cons] at mapped
      rcases Option.bind_eq_some_iff.mp mapped with ⟨result, here, others⟩
      rcases Option.bind_eq_some_iff.mp others with ⟨remaining, later, equal⟩
      cases equal
      rw [List.map_cons, List.map_cons, here, inductionHypothesis later]

/-- The literals of a tagged union stand beside its alternatives, all of them different. -/
theorem discriminant?_eq_some {alternatives : List Shape} {tag : String} {literals : List String}
    (tagged : discriminant? alternatives = some (tag, literals)) :
    alternatives.map (literal? tag) = literals.map some ∧ literals.Nodup := by
  rw [discriminant?] at tagged
  split at tagged
  case h_1 fields found =>
    rcases List.exists_of_findSome?_eq_some tagged with ⟨field, _, first⟩
    rcases Option.map_eq_some_iff.mp first with ⟨all, literalsFound, equal⟩
    cases equal
    rcases Option.filter_eq_some_iff.mp literalsFound with ⟨mapped, distinct⟩
    exact ⟨map_of_mapM mapped, (isDistinct_iff literals).mp distinct⟩
  case h_2 => cases tagged

/-! ## What an alternative accepts -/

/-- A variant of an enum, with the struct that it holds.  It stands for data that have its
literal under the tag of the enum. -/
structure EnumVariant where
  literal : String
  name : String
  struct : String

/-- An enum as it is declared. -/
structure EnumDeclaration where
  name : String
  tag : String
  variants : List EnumVariant

namespace EnumDeclaration

/-- The enum of some alternatives that are told apart by their literals. -/
def ofUnion (name tag : String) (alternatives : List Shape) (literals : List String) :
    EnumDeclaration :=
  ⟨name, tag, (alternatives.zip literals).map fun (shape, literal) =>
    ⟨literal, variantName shape.header literal, structName shape.header literal⟩⟩

/-- The lines of the variants. -/
def lines (declared : EnumDeclaration) : String :=
  String.join (declared.variants.map fun variant =>
    variantLines variant.literal variant.name variant.struct)

/-- The text of the declaration. -/
def text (declared : EnumDeclaration) : String :=
  enumText declared.name declared.tag declared.lines

/-- All names in the declaration. -/
def names (declared : EnumDeclaration) : List String :=
  declared.name :: declared.variants.flatMap fun variant => [variant.name, variant.struct]

/-- What is written of the declaration. -/
def written (declared : EnumDeclaration) : WrittenDeclaration :=
  .enum declared.name (Text.quoted declared.tag)
    (declared.variants.map fun variant =>
      ⟨Text.quoted variant.literal, variant.name, variant.struct⟩)

theorem text_written (declared : EnumDeclaration) : declared.written.text = declared.text := by
  rw [text, lines, written, ← enumText_eq, Line.join_flatMap, List.map_map]
  simp only [Function.comp_def, variantLines_eq]

/-- The declaration is read as what is written of it, if its names are words. -/
theorem read?_written {declared : EnumDeclaration} (words : ∀ name ∈ declared.names, IsWord name) :
    WrittenDeclaration.read? declared.written.text = some declared.written := by
  rw [names, List.forall_mem_cons] at words
  refine (WrittenDeclaration.legible_enum words.1 (Text.newline_not_mem_quoted _) ?_).read?_text
  rw [List.forall_mem_map]
  intro variant listed
  exact ⟨Text.newline_not_mem_quoted _,
    words.2 variant.name (List.mem_flatMap.mpr ⟨variant, listed, List.mem_cons_self⟩),
    words.2 variant.struct (List.mem_flatMap.mpr ⟨variant, listed, List.mem_cons_of_mem _ List.mem_cons_self⟩)⟩

end EnumDeclaration

/-- The emission of the variants of a union writes the lines of its enum. -/
theorem variants_lines {rootName : Option String} {enumName tag : String} {trail : Location}
    {alternatives : List Shape} : ∀ {literals : List String},
    alternatives.length = literals.length →
    ∀ {index : Nat} {seen : List (String × String)} {before after : Registry} {lines : String},
    (variants rootName enumName tag alternatives literals index seen trail).Answers
      before lines after →
    lines = (EnumDeclaration.ofUnion enumName tag alternatives literals).lines := by
  induction alternatives with
  | nil =>
      intro literals beside index seen before after lines answers
      exact (variants_nil.mp answers).1
  | cons shape rest inductionHypothesis =>
      intro literals beside index seen before after lines answers
      cases literals with
      | nil => cases beside
      | cons literal literals =>
          rcases variants_cons.mp answers with ⟨_, _, between, others, _, later, equal⟩
          rw [equal, inductionHypothesis (Nat.succ.inj beside) later]
          exact String.join_cons.symm

/-- The literals of a tagged union are as many as its alternatives. -/
theorem length_literals {alternatives : List Shape} {tag : String} {literals : List String}
    (tagged : discriminant? alternatives = some (tag, literals)) :
    alternatives.length = literals.length := by
  simpa using congrArg List.length (discriminant?_eq_some tagged).1

end Nominal

namespace Schema

open Nominal

variable (schema : Schema) (mode : UnionMode)

/-- A union of two events that are told apart by their kind.  Null may stand for the first
of them. -/
def events : Schema :=
  ⟨#[⟨.leaf (.exact "start"), true, false, none, none⟩,
      ⟨.leaf (.exact "stop"), true, false, none, none⟩,
      ⟨.leaf (.integer .unbounded), true, false, none, none⟩,
      ⟨.object [("kind", 0), ("at", 2)], true, true, none, some "Start"⟩,
      ⟨.object [("kind", 1)], true, false, none, some "Stop"⟩,
      ⟨.union [3, 4], true, false, some "Event", none⟩],
    5, by decide, by decide⟩

end Schema
end Conformance
