import Conformance.Emission.Export
import Conformance.Proofs.Emission.Outline

namespace Conformance

/-!
# Whole generations

The generation of a schema carries out the plan of its root.  What comes after that looks
at the registry once more.  A root that is given a name gets an alias under it if nothing
has been declared under the name by then, and a schema without such a name is refused if
nothing is declared at all.

A generation that succeeded can be repeated on the registry that it left.  The plan of the
root changes nothing the second time, and at the end the name of the root is known.
-/

namespace Emitting

variable {First : Type} {before after : Registry}

/-- Looking at the registry answers with it. -/
theorem answers_get {answer : Registry} :
    (get : Emitting Registry).Answers before answer after ↔ answer = before ∧ after = before := by
  change (pure before : Emitting Registry).Answers before answer after ↔ _
  exact answers_pure

theorem answers_resolves {name : String} {answer : Bool} :
    (resolves name).Answers before answer after ↔
      answer = before.resolves name ∧ after = before := by
  change (pure (before.resolves name) : Emitting Bool).Answers before answer after ↔ _
  exact answers_pure

/-- What is done under a condition. -/
theorem answers_ite {condition : Prop} [Decidable condition] {first second : Emitting First}
    {answer : First} :
    (if condition then first else second).Answers before answer after ↔
      if condition then first.Answers before answer after else second.Answers before answer after := by
  split <;> rfl

end Emitting

namespace Nominal

open Emitting

variable {schema : Schema} {rootName : Option String} {before after : Registry} {text : String}

/-- The end of a generation, after everything below its root is registered. -/
inductive Concludes (schema : Schema) : Option String → Registry → Registry → Prop where
  | known {name : String} {registry : Registry} (declared : registry.contains name = true) :
      Concludes schema (some name) registry registry
  | aliased {name : String} {registry : Registry} (unknown : registry.get? name = none) :
      Concludes schema (some name) registry
        { registry with
          definitions := registry.definitions ++
            [(name, aliasText name (reference (some name) schema.rootShape))] }
  | unnamed {registry : Registry} (declares : registry.definitions ≠ []) :
      Concludes schema none registry registry

/-- The plan of the root of a schema. -/
def rootPlan (rootName : Option String) (schema : Schema) : Plan :=
  typePlan rootName schema.rootShape []

/-- Without a name for the root, a generation ends if anything is declared. -/
theorem concludes_unnamed_iff :
    Concludes schema none before after ↔ before.definitions ≠ [] ∧ after = before := by
  constructor
  · intro concludes
    cases concludes with
    | unnamed declares => exact ⟨declares, rfl⟩
  · rintro ⟨declares, rfl⟩
    exact .unnamed declares

/-- With a name for the root, a generation ends with an alias unless the name is known. -/
theorem concludes_named_iff {name : String} :
    Concludes schema (some name) before after ↔
      if before.contains name then after = before
      else ∃ fresh, before.insert name
        (aliasText name (reference (some name) schema.rootShape)) = .ok (fresh, after) := by
  constructor
  · intro concludes
    cases concludes with
    | known declared => rw [if_pos declared]
    | aliased unknown =>
        rw [if_neg (by simp [Registry.contains, unknown])]
        exact ⟨true, Registry.insert_unknown unknown _⟩
  · intro ending
    split at ending
    case isTrue declared =>
      rw [ending]
      exact .known declared
    case isFalse undeclared =>
      have unknown : before.get? name = none := by simpa [Registry.contains] using undeclared
      rcases ending with ⟨fresh, inserted⟩
      rw [Registry.insert_unknown unknown] at inserted
      cases inserted
      exact .aliased unknown

/-- A generation that answers has carried out the plan of its root and come to an end. -/
theorem generate_answers :
    (generate rootName schema).Answers before text after ↔
      ∃ between, (rootPlan rootName schema).Leads before between ∧
        Concludes schema rootName between after ∧ text = after.render := by
  rw [generate, emit_eq, Plan.answering_bind, Plan.answers_perform_bind]
  refine exists_congr fun between => and_congr_right fun _ => ?_
  cases rootName with
  | none =>
      simp only [concludes_unnamed_iff, answers_bind, answers_get, answers_ite, not_answers_throw,
        answers_pure, false_and, exists_false, and_assoc, exists_and_left, exists_eq_left]
      cases between.definitions <;> simp +contextual [and_comm]
  | some name =>
      simp only [concludes_named_iff, answers_bind, answers_get, answers_ite, answers_declare,
        answers_pure, and_assoc, exists_and_left, exists_eq_left]
      cases between.contains name <;> simp +contextual [and_comm]

/-- The end of a generation keeps what is registered. -/
theorem Concludes.extends (concludes : Concludes schema rootName before after) :
    before.Extends after := by
  cases concludes with
  | known | unnamed => exact .refl _
  | aliased unknown => exact Registry.insert_extends (Registry.insert_unknown unknown _)

/-- Once a generation came to an end, it can come to the same end again. -/
theorem Concludes.again (concludes : Concludes schema rootName before after) :
    Concludes schema rootName after after := by
  cases concludes with
  | known declared => exact .known declared
  | aliased unknown =>
      apply Concludes.known
      rw [Registry.contains, Registry.get?_append, unknown, if_pos rfl]
      rfl
  | unnamed declares => exact .unnamed declares

/-- A generation ends without an alias if the name of the root is taken. -/
theorem Concludes.eq_of_known {name held : String}
    (concludes : Concludes schema (some name) before after)
    (known : before.get? name = some held) : after = before := by
  cases concludes with
  | known => rfl
  | aliased unknown =>
      rw [unknown] at known
      cases known

/-- A generation ends with an alias if nothing is registered under the name of the root. -/
theorem Concludes.get?_of_unknown {name : String}
    (concludes : Concludes schema (some name) before after) (unknown : before.get? name = none) :
    after.get? name = some (aliasText name (reference (some name) schema.rootShape)) := by
  cases concludes with
  | known declared =>
      rw [Registry.contains, unknown] at declared
      cases declared
  | aliased => rw [Registry.get?_append, unknown, if_pos rfl, Option.none_or]

/-- A generation of nominal types can be repeated. -/
theorem generate_repeats (generated : (generate rootName schema).Answers before text after) :
    (generate rootName schema).Answers after text after := by
  rcases generate_answers.mp generated with ⟨between, leads, concludes, rfl⟩
  exact generate_answers.mpr ⟨after, leads.again concludes.extends, concludes.again, rfl⟩

end Nominal

namespace Structural

open Emitting

variable {schema : Schema} {rootName : Option String} {before after : Registry} {text : String}

/-- A generation of structural types carries out a plan as well, if its root has a name:
unless the name is known, the root is declared. -/
theorem generate_answers {name : String}
    (named : (rootName <|> schema.rootShape.header.name) = some name) :
    (generate rootName schema).Answers before text after ↔
      (Plan.unlessKnown name
        (.register name (declaration name (expression 0 schema.rootShape)))).Leads before after ∧
      text = after.render := by
  rw [generate, Plan.leads_unlessKnown, Plan.leads_register]
  simp only [named, answers_bind, answers_resolves, answers_get, answers_ite, answers_declare,
    answers_pure, and_assoc, exists_and_left, exists_eq_left]
  cases before.resolves name with
  | true =>
      simp only [Bool.not_true, Bool.false_eq_true, if_false, if_true]
      constructor
      · rintro ⟨rfl, rfl⟩
        exact ⟨rfl, rfl⟩
      · rintro ⟨rfl, rfl⟩
        exact ⟨rfl, rfl⟩
  | false =>
      simp only [Bool.not_false, Bool.false_eq_true, if_false, if_true]
      constructor
      · rintro ⟨_, registry, inserted, rfl, rfl⟩
        exact ⟨inserted, rfl⟩
      · rintro ⟨inserted, rfl⟩
        exact ⟨(), after, inserted, rfl, rfl⟩

/-- A generation of structural types can be repeated. -/
theorem generate_repeats (generated : (generate rootName schema).Answers before text after) :
    (generate rootName schema).Answers after text after := by
  cases named : rootName <|> schema.rootShape.header.name with
  | none =>
      rw [generate] at generated ⊢
      simp only [named, answers_pure, and_true] at generated ⊢
      exact generated.1
  | some name =>
      rcases (generate_answers named).mp generated with ⟨leads, rfl⟩
      exact (generate_answers named).mpr ⟨leads.again (.refl after), rfl⟩

end Structural

namespace Schema

/-- Generations can be repeated, in both languages. -/
theorem generate_again (schema : Schema) (language : Language) {rootName : Option String}
    {before after : Registry} {text : String}
    (generated : (schema.generate language rootName).Answers before text after) :
    (schema.generate language rootName).Answers after text after := by
  cases language with
  | typeScript => exact Structural.generate_repeats generated
  | rust => exact Nominal.generate_repeats generated

/-- Generating the events again adds nothing, although another declaration stands under the
name of the first event. -/
theorem generate_again_events :
    let before : Registry := ⟨.firstWins, [("Start", "pub type Start = i64;\n")]⟩
    let generation := (events.generate .rust none).run before
    generation.1 = .ok generation.2.render ∧
      (events.generate .rust none).run generation.2 = generation := by
  intro before generation
  have succeeded : generation.1 = .ok generation.2.render := by decide +kernel
  have answers : (events.generate .rust none).Answers before generation.2.render generation.2 :=
    Prod.ext succeeded rfl
  exact ⟨succeeded, (generate_again events .rust answers).trans (Prod.ext succeeded rfl).symm⟩

end Schema
end Conformance
