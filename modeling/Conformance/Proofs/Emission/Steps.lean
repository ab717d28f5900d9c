import Conformance.Proofs.Emission.Answer

namespace Conformance
namespace Nominal

/-!
# What the emission of nominal types does

Every function of the emitter is described once: when it answers, from which emissions
of parts its answer is put together, and which registries these parts find and leave.
The lists of parts are described at any of their members as well, since a type is
written for a member after those in front of it and before those behind it.
-/

open Emitting

variable {rootName : Option String} {header : Header} {trail : Location}
variable {before after : Registry} {answer : String}

/-! ## Structs -/

/-- The struct of some fields, without the field that is the tag, and its declaration. -/
def declareStruct (rootName : Option String) (structName : String) (tag : Option String)
    (fields : List (String × Shape)) (trail : Location) : Emitting Unit := do
  refuseClash tag fields trail
  let lines ← structFields rootName tag fields trail
  Emitting.declare structName (structText structName lines)

/-- Identifiers clash in a struct or they do not. -/
theorem refuseClash_answers {tag : Option String} {fields : List (String × Shape)}
    {done : Unit} :
    (refuseClash tag fields trail).Answers before done after ↔
      clash? Naming.field [] ((fieldsWithout tag fields).map Prod.fst) = none ∧ after = before := by
  rw [refuseClash]
  cases clash? Naming.field [] ((fieldsWithout tag fields).map Prod.fst) with
  | none => simp [answers_pure]
  | some clash => simp [not_answers_throw]

theorem declareStruct_answers {structName : String} {tag : Option String}
    {fields : List (String × Shape)} {done : Unit} :
    (declareStruct rootName structName tag fields trail).Answers before done after ↔
      clash? Naming.field [] ((fieldsWithout tag fields).map Prod.fst) = none ∧
      ∃ lines between fresh, (structFields rootName tag fields trail).Answers before lines between ∧
        between.insert structName (structText structName lines) = .ok (fresh, after) := by
  simp only [declareStruct, answers_bind, refuseClash_answers, answers_declare]
  constructor
  · rintro ⟨_, _, ⟨distinct, rfl⟩, lines, between, answers, fresh, inserted⟩
    exact ⟨distinct, lines, between, fresh, answers, inserted⟩
  · rintro ⟨distinct, lines, between, fresh, answers, inserted⟩
    exact ⟨(), before, ⟨distinct, rfl⟩, lines, between, answers, fresh, inserted⟩

/-! ## Enums -/

/-- The enum of some alternatives, and its declaration. -/
def declareEnum (rootName : Option String) (enumName : String) (alternatives : List Shape)
    (trail : Location) : Emitting Unit :=
  match discriminant? alternatives with
  | none => throw (.untaggedUnion trail.reverse)
  | some (tag, literals) => do
      let lines ← variants rootName enumName tag alternatives literals 0 [] trail
      Emitting.declare enumName (enumText enumName tag lines)

theorem declareEnum_answers {enumName : String} {alternatives : List Shape} {done : Unit} :
    (declareEnum rootName enumName alternatives trail).Answers before done after ↔
      ∃ tag literals, discriminant? alternatives = some (tag, literals) ∧
        ∃ lines between fresh,
          (variants rootName enumName tag alternatives literals 0 [] trail).Answers
            before lines between ∧
          between.insert enumName (enumText enumName tag lines) = .ok (fresh, after) := by
  rw [declareEnum]
  cases discriminant? alternatives with
  | none => simp [not_answers_throw]
  | some tagged =>
      rcases tagged with ⟨tag, literals⟩
      simp only [answers_bind, answers_declare]
      constructor
      · rintro ⟨lines, between, answers, fresh, inserted⟩
        exact ⟨tag, literals, rfl, lines, between, fresh, answers, inserted⟩
      · rintro ⟨_, _, same, lines, between, fresh, answers, inserted⟩
        cases same
        exact ⟨lines, between, answers, fresh, inserted⟩

/-! ## Types -/

theorem typeOf_answers {form : Form Shape} :
    (typeOf rootName (.node header form) trail).Answers before answer after ↔
      ∃ type, (bare rootName header form trail).Answers before type after ∧
        answer = withPresence header type := by
  have unfolded : typeOf rootName (.node header form) trail =
      (do return withPresence header (← bare rootName header form trail)) := rfl
  rw [unfolded, answers_map]

theorem bare_leaf {scalar : Leaf} :
    (bare rootName header (.leaf scalar) trail).Answers before answer after ↔
      leafType trail.reverse scalar = .ok answer ∧ after = before := by
  have unfolded : bare rootName header (.leaf scalar) trail =
      MonadExcept.ofExcept (leafType trail.reverse scalar) := rfl
  rw [unfolded, answers_ofExcept]

theorem bare_array {item : Shape} {length : LengthBounds} :
    (bare rootName header (.array item length) trail).Answers before answer after ↔
      ∃ type, (typeOf rootName item (.items :: trail)).Answers before type after ∧
        answer = "Vec<" ++ type ++ ">" := by
  have unfolded : bare rootName header (.array item length) trail =
      (do return "Vec<" ++ (← typeOf rootName item (.items :: trail)) ++ ">") := rfl
  rw [unfolded, answers_map]

theorem bare_tuple {items : List Shape} :
    (bare rootName header (.tuple items) trail).Answers before answer after ↔
      ∃ types, (positions rootName items 0 trail).Answers before types after ∧
        answer = tupleType types := by
  have unfolded : bare rootName header (.tuple items) trail =
      (do return tupleType (← positions rootName items 0 trail)) := rfl
  rw [unfolded, answers_map]

theorem bare_record {value : Shape} {keys : LengthBounds} :
    (bare rootName header (.record value keys) trail).Answers before answer after ↔
      ∃ type, (typeOf rootName value (.values :: trail)).Answers before type after ∧
        answer = "std::collections::HashMap<String, " ++ type ++ ">" := by
  have unfolded : bare rootName header (.record value keys) trail =
      (do
        return "std::collections::HashMap<String, " ++
          (← typeOf rootName value (.values :: trail)) ++ ">") := rfl
  rw [unfolded, answers_map]

/-- An object is referred to by its name, and declared unless the name is known. -/
theorem bare_object {fields : List (String × Shape)} :
    (bare rootName header (.object fields) trail).Answers before answer after ↔
      declaredName rootName header = some answer ∧
        if before.resolves answer then after = before
        else (declareStruct rootName answer none fields trail).Answers before () after := by
  rw [bare]
  cases declaredName rootName header with
  | none => simp [not_answers_throw]
  | some name =>
      refine answers_reference.trans (and_congr_right fun same => ?_)
      rw [Option.some.inj same]
      rfl

/-- A union is referred to by its name, and declared unless the name is known. -/
theorem bare_union {alternatives : List Shape} :
    (bare rootName header (.union alternatives) trail).Answers before answer after ↔
      declaredName rootName header = some answer ∧
        if before.resolves answer then after = before
        else (declareEnum rootName answer alternatives trail).Answers before () after := by
  rw [bare]
  cases declaredName rootName header with
  | none => simp [not_answers_throw]
  | some name =>
      refine answers_reference.trans (and_congr_right fun same => ?_)
      rw [Option.some.inj same]
      rfl

/-! ## Lists of parts -/

/-- The type of a node that is a field of a struct. -/
def fieldTypeOf (rootName : Option String) : Shape → Location → Emitting String
  | .node header form, trail => fieldType header form trail (bare rootName header form trail)

theorem structFields_nil {tag : Option String} :
    (structFields rootName tag [] trail).Answers before answer after ↔
      answer = "" ∧ after = before := by
  have unfolded : structFields rootName tag [] trail = pure "" := rfl
  rw [unfolded, answers_pure]

/-- The first field and the others. -/
theorem structFields_eq {tag : Option String} {name : String} {shape : Shape}
    {rest : List (String × Shape)} :
    structFields rootName tag ((name, shape) :: rest) trail =
      if some name == tag then structFields rootName tag rest trail
      else do
        let type ← fieldTypeOf rootName shape (.field name :: trail)
        let others ← structFields rootName tag rest trail
        return fieldLines name shape.header type ++ others := by
  rcases shape with ⟨header, form⟩
  rfl

/-- The field that is the tag is left out. -/
theorem structFields_tag {tag : Option String} {name : String} {shape : Shape}
    {rest : List (String × Shape)} (isTag : some name = tag) :
    structFields rootName tag ((name, shape) :: rest) trail =
      structFields rootName tag rest trail := by
  rw [structFields_eq, if_pos (beq_iff_eq.mpr isTag)]

theorem structFields_cons {tag : Option String} {name : String} {shape : Shape}
    {rest : List (String × Shape)} (notTag : some name ≠ tag) :
    (structFields rootName tag ((name, shape) :: rest) trail).Answers before answer after ↔
      ∃ type between lines,
        (fieldTypeOf rootName shape (.field name :: trail)).Answers before type between ∧
        (structFields rootName tag rest trail).Answers between lines after ∧
        answer = fieldLines name shape.header type ++ lines := by
  rw [structFields_eq, if_neg (fun same => notTag (beq_iff_eq.mp same))]
  simp only [answers_bind, answers_pure]
  constructor
  · rintro ⟨type, between, answers, lines, last, others, rfl, rfl⟩
    exact ⟨type, between, lines, answers, others, rfl⟩
  · rintro ⟨type, between, lines, answers, others, rfl⟩
    exact ⟨type, between, answers, lines, after, others, rfl, rfl⟩

theorem positions_nil {index : Nat} {types : List String} :
    (positions rootName [] index trail).Answers before types after ↔
      types = [] ∧ after = before := by
  have unfolded : positions rootName [] index trail = pure [] := rfl
  rw [unfolded, answers_pure]

theorem positions_cons {shape : Shape} {rest : List Shape} {index : Nat} {types : List String} :
    (positions rootName (shape :: rest) index trail).Answers before types after ↔
      ∃ type between others,
        (typeOf rootName shape (.position index :: trail)).Answers before type between ∧
        (positions rootName rest (index + 1) trail).Answers between others after ∧
        types = type :: others := by
  have unfolded : positions rootName (shape :: rest) index trail =
      (do
        let type ← typeOf rootName shape (.position index :: trail)
        return type :: (← positions rootName rest (index + 1) trail)) := rfl
  rw [unfolded]
  simp only [answers_bind, answers_pure]
  constructor
  · rintro ⟨type, between, answers, others, last, remaining, rfl, rfl⟩
    exact ⟨type, between, others, answers, remaining, rfl⟩
  · rintro ⟨type, between, others, answers, remaining, rfl⟩
    exact ⟨type, between, answers, others, after, remaining, rfl, rfl⟩

/-- The name of the struct of an alternative. -/
def structName (header : Header) (literal : String) : String :=
  header.name.getD (variantName header literal)

theorem variants_nil {enumName tag : String} {literals : List String} {index : Nat}
    {seen : List (String × String)} :
    (variants rootName enumName tag [] literals index seen trail).Answers before answer after ↔
      answer = "" ∧ after = before := by
  have unfolded : variants rootName enumName tag [] literals index seen trail = pure "" := by
    cases literals <;> rfl
  rw [unfolded, answers_pure]

theorem variants_cons {enumName tag literal : String} {shape : Shape} {rest : List Shape}
    {literals : List String} {index : Nat} {seen : List (String × String)} :
    (variants rootName enumName tag (shape :: rest) (literal :: literals) index seen trail).Answers
        before answer after ↔
      seen.lookup (variantName shape.header literal) = none ∧
      structName shape.header literal ≠ enumName ∧
      ∃ between lines,
        (member rootName (structName shape.header literal) tag shape
          (.alternative index :: trail)).Answers before () between ∧
        (variants rootName enumName tag rest literals (index + 1)
          ((variantName shape.header literal, literal) :: seen) trail).Answers between lines after ∧
        answer = variantLines literal (variantName shape.header literal)
          (structName shape.header literal) ++ lines := by
  rw [variants]
  cases seen.lookup (variantName shape.header literal) with
  | some first => simp [not_answers_throw]
  | none =>
      by_cases same : structName shape.header literal = enumName
      · have thrown : shape.header.name.getD (variantName shape.header literal) = enumName := same
        simp [thrown, same, not_answers_throw]
      · have differs : ¬ shape.header.name.getD (variantName shape.header literal) = enumName := same
        simp only [if_neg differs, answers_bind, answers_pure, true_and, ne_eq, same,
          not_false_eq_true]
        constructor
        · rintro ⟨_, between, declared, lines, last, others, rfl, rfl⟩
          exact ⟨between, lines, declared, others, rfl⟩
        · rintro ⟨between, lines, declared, others, rfl⟩
          exact ⟨(), between, declared, lines, after, others, rfl, rfl⟩

/-- An alternative is declared as a struct unless the name of the struct is known. -/
theorem member_object {name tag : String} {fields : List (String × Shape)} {done : Unit} :
    (member rootName name tag (.node header (.object fields)) trail).Answers before done after ↔
      if before.resolves name then after = before
      else (declareStruct rootName name (some tag) fields trail).Answers before () after := by
  have unfolded : member rootName name tag (.node header (.object fields)) trail =
      unlessResolved name (declareStruct rootName name (some tag) fields trail) := rfl
  rw [unfolded]
  exact answers_unlessResolved

end Nominal
end Conformance
