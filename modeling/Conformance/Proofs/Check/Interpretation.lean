import Conformance.Proofs.Check.Follow

namespace Conformance

/-!
# What the interpreter computes

The walk that checks a value starts with no findings, at the root of the value.
There the law of walks says that the interpreter reports the judgement of its
schema, all of it or the first of it.

The judgement itself is determined by one equation for each node of the arena, in
which the judgements of its children stand side by side.
-/

namespace Shape

/-- A check of a whole value reports what the judgement of the tree says. -/
theorem findings_eq_kept (mode : UnionMode) (halt : Bool) (value : Option Value) {shape : Shape}
    (proper : shape.Proper) :
    shape.findings mode halt value = kept halt (shape.judge .every mode value) := by
  have follows := walk_follows mode proper value [] halt #[]
  rw [Finding.beneath_nil] at follows
  rw [findings, follows]
  simp [Walked.after]

end Shape

namespace Schema

theorem findings_eq_kept (schema : Schema) (mode : UnionMode) (id : NodeId) (halt : Bool)
    (value : Option Value) :
    (schema.shape id).findings mode halt value = kept halt (schema.judge mode id value) :=
  Shape.findings_eq_kept mode halt value (schema.shape_proper id)

/-- What the interpreter answers, with and without early failing. -/
theorem interpret_eq_kept (schema : Schema) (mode : UnionMode) (options : CheckOptions)
    (value : Option Value) :
    schema.interpret mode options value =
      (kept options.earlyFail (schema.judge mode schema.root value)).map (·.failure options.path) := by
  rw [interpret, rootShape, findings_eq_kept]

/-- The interpreter computes the failures of its schema.  They are put together
from the failures of parts: the judgement of every node is the one equation below,
in which a step down to a child extends the context of the failures of the child.
A check that goes on after failures, at any node and in any context, reports
exactly them. -/
theorem interpret_eq_failures (schema : Schema) (mode : UnionMode) :
    (∀ (id : NodeId) (node : Node), schema.nodes[id]? = some node →
      schema.judge mode id =
        Judgement.gated node.required node.nullable (schema.nullIsValue id)
          ((node.form.map (schema.judge mode)).judge .every mode)) ∧
    (∀ (id : NodeId) (segment : Segment) (value : Option Value) (path : String),
      ((schema.judge mode id).step segment value).map (·.failure path) =
        schema.failures mode id value (segment.below path)) ∧
    (∀ (id : NodeId) (value : Option Value) (path : String),
      ((schema.shape id).findings mode false value).map (·.failure path) =
        schema.failures mode id value path) ∧
    ∀ (value : Option Value) (path : String),
      schema.interpret mode ⟨path, false⟩ value = schema.failures mode schema.root value path := by
  refine ⟨?equation, ?child, ?node, ?root⟩
  case equation =>
    intro id node listed
    exact schema.judge_eq mode listed
  case child =>
    intro id segment value path
    exact (schema.judge mode id).step_failure segment value path
  case node =>
    intro id value path
    rw [findings_eq_kept, kept_false]
    rfl
  case root =>
    intro value path
    rw [interpret_eq_kept]
    rfl

/-- A list of unions, one alternative of which is a list again. -/
def listOfUnions : Schema :=
  ⟨#[⟨.leaf (.string ⟨1, 3⟩), true, false, none, none⟩,
      ⟨.leaf (.integer .unbounded), true, false, none, none⟩,
      ⟨.array 1 .unbounded, true, false, none, none⟩,
      ⟨.union [0, 2], true, false, none, none⟩,
      ⟨.array 3 ⟨1, maxSafeLength⟩, true, false, none, none⟩],
    4, by decide, by decide⟩

/-- The union of the list, and the list as a whole. -/
theorem interpret_listOfUnions :
    listOfUnions.nodes[3]? = some listOfUnions.nodes[3] ∧
    listOfUnions.judge .all 3 =
      Judgement.gated true false (listOfUnions.nullIsValue 3)
        (((Form.union [0, 2]).map (listOfUnions.judge .all)).judge .every .all) ∧
    listOfUnions.interpret .all ⟨"list", false⟩ (some (.list [.text "ab", .list [.boolean true]])) =
      listOfUnions.failures .all 4 (some (.list [.text "ab", .list [.boolean true]])) "list" := by
  have listed : listOfUnions.nodes[3]? = some listOfUnions.nodes[3] := rfl
  rcases listOfUnions.interpret_eq_failures .all with ⟨equation, _, _, root⟩
  exact ⟨listed, equation 3 _ listed, root _ "list"⟩

end Schema
end Conformance
