import Conformance.Proofs.Check.Relaxation
import Conformance.Proofs.Program.Equivalence

namespace Conformance

/-!
# The verdict on a value

A value passes a check if nothing is found.  How a check is made leaves its traces
in what is found: the mode of unions decides what a union says and how far its
alternatives go, early failing cuts a report off, a context stands in front of every
path, and a program reaches its findings in another way than a walk.  Whether
anything is found at all is the same in every case.

What has to be shown is that the two modes agree.  A union says nothing exactly when
one of its alternatives says nothing, in either mode, and every other form says
nothing exactly when all of its children do.  So the verdicts of the children
determine the verdict of a node, and the modes agree on it by induction on the tree.
-/

namespace Judgement

/-! ## Judgements with one verdict -/

/-- Judgements of which one finds nothing in a value exactly when the other does. -/
def SameVerdict (first second : Judgement) : Prop :=
  ∀ value : Option Value, first value = [] ↔ second value = []

theorem gated_verdict (required nullable nullIsValue : Bool) {first second : Value → List Finding}
    (same : ∀ value : Value, first value = [] ↔ second value = []) :
    SameVerdict (gated required nullable nullIsValue first)
      (gated required nullable nullIsValue second) := by
  intro value
  simp only [gated]
  cases presence required nullable nullIsValue value with
  | missing => exact Iff.rfl
  | skip => exact Iff.rfl
  | check =>
      cases value with
      | none => exact Iff.rfl
      | some value => exact same value

end Judgement

variable (counting : Counting) (first second : UnionMode)

theorem Form.judge_verdict {form : Form Shape} (proper : form.Proper)
    (children : ∀ shape ∈ form.children,
      Judgement.SameVerdict (shape.judge counting first) (shape.judge counting second))
    (value : Value) :
    (form.map (Shape.judge counting first)).judge counting first value = [] ↔
      (form.map (Shape.judge counting second)).judge counting second value = [] := by
  have unchanged := Form.Relaxed.refl form
  constructor
  · exact unchanged.judge_spares proper fun shape member value => (children shape member value).mp
  · exact unchanged.judge_spares proper fun shape member value => (children shape member value).mpr

/-- In both modes a proper tree finds nothing in the same values. -/
theorem Shape.judge_verdict {shape : Shape} (proper : shape.Proper) :
    Judgement.SameVerdict (shape.judge counting first) (shape.judge counting second) := by
  induction proper with
  | node header form own children inductionHypothesis =>
      rw [Shape.judge_node, Shape.judge_node]
      exact Judgement.gated_verdict _ _ _ fun value =>
        Form.judge_verdict counting first second own inductionHypothesis value

/-! ## Checks of a schema -/

namespace Schema

/-- The checks that a schema offers: the interpreter in one of its modes, and every
program that is assembled of the schema, each with options of its own. -/
inductive Offers (schema : Schema) : (Option Value → List Failure) → Prop where
  | interpreter (mode : UnionMode) (options : CheckOptions) :
      Offers schema (schema.interpret mode options)
  | program {mode : UnionMode} {budget : Nat} {program : Program}
      (assembled : schema.assemble mode budget = .ok program) (options : CheckOptions) :
      Offers schema (program.run options)

variable {schema : Schema} {value : Option Value}

theorem judge_verdict (schema : Schema) (first second : UnionMode) (value : Option Value) :
    schema.judge first schema.root value = [] ↔ schema.judge second schema.root value = [] :=
  Shape.judge_verdict .every first second (schema.shape_proper schema.root) value

/-- The interpreter accepts the same values in both modes and with all options. -/
theorem interpret_verdict (schema : Schema) (first second : UnionMode)
    (options other : CheckOptions) (value : Option Value) :
    schema.interpret first options value = [] ↔ schema.interpret second other value = [] :=
  (schema.interpret_eq_nil_iff first options value).trans
    ((schema.judge_verdict first second value).trans
      (schema.interpret_eq_nil_iff second other value).symm)

/-- Every check that a schema offers has the verdict of the judgement in one mode. -/
theorem Offers.eq_nil_iff {check : Option Value → List Failure} (offered : schema.Offers check)
    (moderate : ∀ present ∈ value, present.Moderate) (reference : UnionMode) :
    check value = [] ↔ schema.judge reference schema.root value = [] := by
  have interpreted (mode : UnionMode) (options : CheckOptions) :
      schema.interpret mode options value = [] ↔ schema.judge reference schema.root value = [] :=
    (schema.interpret_eq_nil_iff mode options value).trans
      (schema.judge_verdict mode reference value)
  cases offered with
  | interpreter mode options => exact interpreted mode options
  | @program mode _ _ assembled options =>
      rw [assembled_report assembled moderate options]
      exact interpreted mode options

/-- Whether a value passes does not depend on how it is checked: the engine, the mode,
the context and early failing make no difference. -/
theorem verdict_unique {first second : Option Value → List Failure} (offered : schema.Offers first)
    (other : schema.Offers second) (moderate : ∀ present ∈ value, present.Moderate) :
    first value = [] ↔ second value = [] :=
  (offered.eq_nil_iff moderate .all).trans (other.eq_nil_iff moderate .all).symm

/-- A program that lets unions speak for all alternatives, and an interpreter that
fails early at a union which speaks for itself. -/
theorem verdict_listOfUnions :
    listOfUnions.assemble .all 64 = .ok (listOfUnions.layout .all) ∧
    (∀ present ∈ some (Value.list [.text "abcd"]), present.Moderate) ∧
    ((listOfUnions.layout .all).run ⟨"list", false⟩ (some (.list [.text "abcd"])) = [] ↔
      listOfUnions.interpret .synthesized ⟨"", true⟩ (some (.list [.text "abcd"])) = []) := by
  have moderate : ∀ present ∈ some (Value.list [.text "abcd"]), present.Moderate :=
    Value.forall_mem_some (.list _ (by decide) (List.forall_mem_singleton.mpr (.text "abcd")))
  exact ⟨assemble_listOfUnions, moderate,
    verdict_unique (.program assemble_listOfUnions ⟨"list", false⟩)
      (.interpreter .synthesized ⟨"", true⟩) moderate⟩

end Schema
end Conformance
