import Conformance.Check.Walk
import Conformance.Proofs.Numbered.Walk

namespace Conformance
namespace Schema

/-!
# Checks by number

Two walks take part in a check.  One goes through unions to find out whether null has to be seen,
the other goes through a value.  Both are written on the arena here, a function for each kind of
list that a node has children in, and the check of a value asks for null at every number anew.

A function takes what is done at the numbers of children as an argument.  So it can be compared with
its counterpart on trees as soon as both do the same at the children.
-/

variable (schema : Schema)

/-! ## Null -/

/-- Whether the node of a number has to see null. -/
def nullStep (id : NodeId) (visit : NodeId → Bool) : Bool :=
  match (schema.node id).form with
  | .leaf scalar => scalar.inspectsNull
  | .union alternatives =>
      alternatives.any fun alternative => (schema.node alternative).nullable || visit alternative
  | _ => false

/-- Whether a node has to see null, by number. -/
def nullIsValueAt : NodeId → Bool := follow false schema.nullStep

theorem any_eq_alternativesTakeNull {visit : NodeId → Bool} {alternatives : List NodeId}
    (same : ∀ child ∈ alternatives, visit child = (schema.shape child).nullIsValue) :
    (alternatives.any fun alternative => (schema.node alternative).nullable || visit alternative) =
      alternativesTakeNull (alternatives.map schema.shape) := by
  induction alternatives with
  | nil => rfl
  | cons alternative rest inductionHypothesis =>
      rw [List.forall_mem_cons] at same
      rw [List.any_cons, List.map_cons, alternativesTakeNull, inductionHypothesis same.2, same.1,
        header_shape]
      rfl

/-- Whether null has to be seen is the same by number and in the tree. -/
theorem nullIsValueAt_eq (id : NodeId) : schema.nullIsValueAt id = (schema.shape id).nullIsValue := by
  apply schema.follow_eq Shape.nullIsValue
  intro id visit inFront
  have same : ∀ child ∈ (schema.node id).form.children,
      visit child = (schema.shape child).nullIsValue := fun child member =>
    inFront child (schema.child_lt_node member)
  rw [nullStep, shape_node, Shape.nullIsValue]
  revert same
  cases (schema.node id).form with
  | union alternatives => exact fun same => schema.any_eq_alternativesTakeNull same
  | _ => exact fun _ => rfl

theorem nullIsValueAt_form (id : NodeId) :
    schema.nullIsValueAt id = Form.nullIsValue ((schema.node id).form.map schema.shape) := by
  rw [nullIsValueAt_eq, shape_node, Shape.nullIsValue]

/-! ## Values -/

section

variable (mode : UnionMode) (visit : NodeId → Visit)

/-- Checks the fields of an object in the order of their declaration. -/
def fieldsAt : List (String × NodeId) → List (String × Value) → List Segment → Bool →
    Array Finding → Walked
  | [], _, _, _, found => .pass found
  | (name, child) :: rest, entries, trail, halt, found =>
      let walked := visit child (Value.lookup? name entries) (.key name :: trail) halt found
      if walked.halted then walked else fieldsAt rest entries trail halt walked.found

/-- Checks the positions of a tuple. -/
def tupleAt : List NodeId → List (Segment × Value) → List Segment → Bool → Array Finding → Walked
  | child :: rest, (segment, value) :: values, trail, halt, found =>
      let walked := visit child (some value) (segment :: trail) halt found
      if walked.halted then walked else tupleAt rest values trail halt walked.found
  | _, _, _, _, found => .pass found

/-- Tries alternatives until one finds nothing, and tells whether one did. -/
def alternativesAt : List NodeId → Value → List Segment → Bool → Array Finding →
    Bool × Array Finding
  | [], _, _, _, found => (false, found)
  | child :: rest, value, trail, halt, found =>
      let walked := visit child (some value) trail halt found
      if walked.found.size = found.size then (true, walked.found)
      else alternativesAt rest value trail halt walked.found

/-- Checks a value that passed the gate. -/
def formAt : Form NodeId → Value → List Segment → Bool → Array Finding → Walked
  | .leaf scalar, value, trail, halt, found => walkLeaf scalar value trail halt found
  | .object fields, value, trail, halt, found =>
      match value with
      | .record entries => fieldsAt visit fields entries trail halt found
      | _ => .raise .notObject (some value) none trail halt found
  | .array item length, value, trail, halt, found =>
      match value with
      | .list items =>
          if length.contains items.length then
            visitEach (visit item) trail halt (Value.indexed items) found
          else
            .raise (.length length "items") (some value) (some items.length) trail halt found
      | _ => .raise .notArray (some value) none trail halt found
  | .tuple children, value, trail, halt, found =>
      match value with
      | .list items =>
          if items.length = children.length then
            tupleAt visit children (Value.indexed items) trail halt found
          else
            .raise (.tupleArity children.length) (some value) (some items.length) trail halt found
      | _ => .raise .notArray (some value) none trail halt found
  | .record child keys, value, trail, halt, found =>
      match value with
      | .record entries =>
          if keys.contains entries.length then
            visitEach (visit child) trail halt (Value.keyed entries) found
          else
            .raise (.length keys "keys") (some value) (some entries.length) trail halt found
      | _ => .raise .notObject (some value) none trail halt found
  | .union alternatives, value, trail, halt, found =>
      let (accepted, after) :=
        alternativesAt visit alternatives value trail (halt || mode == .synthesized) found
      if accepted then .pass (after.shrink found.size)
      else closeUnion mode alternatives.length found.size value trail halt after

/-- Checks a value against the node of a number. -/
def walkStep (id : NodeId) (visit : NodeId → Visit) : Visit := fun value trail halt found =>
  let node := schema.node id
  match presence node.required node.nullable (schema.nullIsValueAt id) value with
  | .missing => .raise .required value none trail halt found
  | .skip => .pass found
  | .check =>
      match value with
      | some value => formAt mode visit node.form value trail halt found
      | none => .pass found

/-- Checks a value by number. -/
def walkAt : NodeId → Visit := follow (fun _ _ _ found => .pass found) (schema.walkStep mode)

/-! ### What is done at the children -/

section

variable {visit} {mode}

theorem fieldsAt_eq {fields : List (String × NodeId)}
    (same : ∀ child ∈ fields.map Prod.snd, visit child = walk mode (schema.shape child))
    (entries : List (String × Value)) (trail : List Segment) (halt : Bool) : ∀ found,
    fieldsAt visit fields entries trail halt found =
      walkFields mode (fields.map fun (name, child) => (name, schema.shape child)) entries trail halt
        found := by
  induction fields with
  | nil => exact fun _ => rfl
  | cons field rest inductionHypothesis =>
      intro found
      rw [List.map_cons, List.forall_mem_cons] at same
      rw [fieldsAt, List.map_cons, walkFields, same.1]
      simp only [inductionHypothesis same.2]

theorem tupleAt_eq {children : List NodeId}
    (same : ∀ child ∈ children, visit child = walk mode (schema.shape child))
    (trail : List Segment) (halt : Bool) : ∀ values found,
    tupleAt visit children values trail halt found =
      walkTuple mode (children.map schema.shape) values trail halt found := by
  induction children with
  | nil => exact fun _ _ => rfl
  | cons child rest inductionHypothesis =>
      intro values found
      rw [List.forall_mem_cons] at same
      cases values with
      | nil => rfl
      | cons value values =>
          rw [tupleAt, List.map_cons, walkTuple, same.1]
          simp only [inductionHypothesis same.2]

theorem alternativesAt_eq {alternatives : List NodeId}
    (same : ∀ child ∈ alternatives, visit child = walk mode (schema.shape child))
    (value : Value) (trail : List Segment) (halt : Bool) : ∀ found,
    alternativesAt visit alternatives value trail halt found =
      walkAlternatives mode (alternatives.map schema.shape) value trail halt found := by
  induction alternatives with
  | nil => exact fun _ => rfl
  | cons child rest inductionHypothesis =>
      intro found
      rw [List.forall_mem_cons] at same
      rw [alternativesAt, List.map_cons, walkAlternatives, same.1]
      simp only [inductionHypothesis same.2]

theorem formAt_eq {form : Form NodeId}
    (same : ∀ child ∈ form.children, visit child = walk mode (schema.shape child))
    (value : Value) (trail : List Segment) (halt : Bool) (found : Array Finding) :
    formAt mode visit form value trail halt found =
      walkForm mode (form.map schema.shape) value trail halt found := by
  cases form with
  | leaf scalar => rfl
  | object fields =>
      have each := schema.fieldsAt_eq same
      cases value <;> simp only [formAt, Form.map, walkForm, each]
  | array item length =>
      have here := same item List.mem_cons_self
      cases value <;> simp only [formAt, Form.map, walkForm, here]
  | tuple children =>
      have each : ∀ child ∈ children, visit child = walk mode (schema.shape child) := same
      cases value <;>
        simp only [formAt, Form.map, walkForm, schema.tupleAt_eq each, List.length_map]
  | record child keys =>
      have here := same child List.mem_cons_self
      cases value <;> simp only [formAt, Form.map, walkForm, here]
  | union alternatives =>
      have each : ∀ child ∈ alternatives, visit child = walk mode (schema.shape child) := same
      simp only [formAt, Form.map, walkForm, schema.alternativesAt_eq each, List.length_map]

end

/-- Checking by number finds what checking against the tree does. -/
theorem walkAt_eq (id : NodeId) : schema.walkAt mode id = walk mode (schema.shape id) := by
  apply schema.follow_eq (walk mode)
  intro id visit inFront
  have same : ∀ child ∈ (schema.node id).form.children,
      visit child = walk mode (schema.shape child) := fun child member =>
    inFront child (schema.child_lt_node member)
  funext value trail halt found
  rw [shape_node]
  simp only [walkStep, walk, schema.nullIsValueAt_form, schema.formAt_eq same]
  rfl

end

/-- The failures of a value, by number. -/
def interpretAt (mode : UnionMode) (options : CheckOptions) (value : Option Value) : List Failure :=
  (schema.walkAt mode schema.root value [] options.earlyFail #[]).found.toList.map
    (·.failure options.path)

theorem interpretAt_eq (mode : UnionMode) (options : CheckOptions) (value : Option Value) :
    schema.interpretAt mode options value = schema.interpret mode options value := by
  rw [interpretAt, walkAt_eq]
  rfl

end Schema
end Conformance
