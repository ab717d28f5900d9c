import Conformance.Check.Walk
import Conformance.Proofs.Schema.Tree

namespace Conformance

/-!
# Judgements

A walk threads one growing array through a whole tree, stops early where it is
told to and cuts the array back at unions.  The definitions here say what a tree
finds in a value without any of that: every node has its own list, and the list
of a composite is put together from the lists of its children.

A judgement does not know where its value stands.  Its findings have places
relative to that value, and a parent prefixes the step that leads to the child.

There are two ways to compare a count with bounds.  A walk compares every count;
an assembled program drops bounds that bind neither side.  Both are instances of
one definition, so that what holds of judgements holds of both.
-/

/-- Which counts are compared with their bounds: all of them, or only those whose
bounds bind one side at least. -/
inductive Counting where
  | every
  | binding
deriving DecidableEq, Repr

namespace LengthBounds

/-- Neither side binds if there is no lower bound and the upper one is out of reach. -/
theorem isUnbounded_iff (bounds : LengthBounds) :
    bounds.isUnbounded = true ↔ bounds.min = 0 ∧ maxSafeLength ≤ bounds.max := by
  rw [isUnbounded, lower?, upper?]
  by_cases lower : 0 < bounds.min <;> by_cases upper : bounds.max < maxSafeLength <;>
    simp [lower, upper] <;> omega

/-- Whether a count passes. -/
def admits (counting : Counting) (bounds : LengthBounds) (count : Nat) : Bool :=
  match counting with
  | .every => bounds.contains count
  | .binding => bounds.isUnbounded || bounds.contains count

@[simp] theorem admits_every (bounds : LengthBounds) (count : Nat) :
    bounds.admits .every count = bounds.contains count := rfl

@[simp] theorem admits_binding (bounds : LengthBounds) (count : Nat) :
    bounds.admits .binding count = (bounds.isUnbounded || bounds.contains count) := rfl

end LengthBounds

namespace Leaf

/-- Whether the bounds of a leaf take part. -/
def countsWith (counting : Counting) : Leaf → Bool
  | .string length | .buffer length => counting == .every || !length.isUnbounded
  | _ => true

/-- The template of a violation that is reported. -/
def reported? (counting : Counting) (scalar : Leaf) (violation : Violation) : Option Template :=
  match violation.kind with
  | .wrongType => scalar.template? .wrongType
  | .constraint =>
      if scalar.countsWith counting then scalar.template? .constraint else none

end Leaf

namespace Finding

/-- A finding seen from one step further up. -/
def under (segment : Segment) (finding : Finding) : Finding :=
  { finding with place := segment :: finding.place }

/-- A finding below the end of a trail, which tells its steps innermost first. -/
def beneath (trail : List Segment) (finding : Finding) : Finding :=
  { finding with place := trail.reverse ++ finding.place }

theorem beneath_under (trail : List Segment) (segment : Segment) (finding : Finding) :
    (finding.under segment).beneath trail = finding.beneath (segment :: trail) := by
  simp only [under, beneath, List.reverse_cons, List.append_assoc, List.singleton_append]

theorem map_beneath_under (trail : List Segment) (segment : Segment) (findings : List Finding) :
    (findings.map (under segment)).map (beneath trail) = findings.map (beneath (segment :: trail)) := by
  rw [List.map_map]
  exact List.map_congr_left fun finding _ => beneath_under trail segment finding

/-- At the top of a walk a place is complete. -/
theorem beneath_nil (findings : List Finding) : findings.map (beneath []) = findings := by
  have unchanged : beneath [] = id := rfl
  rw [unchanged, List.map_id]

/-- A context may be extended by a step before or after a finding is reported. -/
theorem failure_under (context : String) (segment : Segment) (finding : Finding) :
    (finding.under segment).failure context = finding.failure (segment.below context) :=
  rfl

/-- So do the steps of a trail, all at once. -/
theorem failure_beneath (context : String) (trail : List Segment) (finding : Finding) :
    (finding.beneath trail).failure context =
      finding.failure (Segment.render context trail.reverse) := by
  simp only [beneath, failure, Segment.render, List.foldl_append]

end Finding

/-- A finding at the value that is judged. -/
def Template.here (template : Template) (value : Option Value) (count : Option Nat) : Finding :=
  template.finding value count []

theorem Template.here_beneath (template : Template) (value : Option Value) (count : Option Nat)
    (trail : List Segment) :
    (template.here value count).beneath trail = template.finding value count trail.reverse := by
  simp only [here, finding, Finding.beneath, List.append_nil]

/-- What a check finds in a value that may be absent. -/
abbrev Judgement : Type := Option Value → List Finding

namespace Judgement

/-- Judges a value behind a gate. -/
def gated (required nullable nullIsValue : Bool) (form : Value → List Finding) : Judgement :=
  fun value =>
    match presence required nullable nullIsValue value with
    | .missing => [Template.required.here value none]
    | .skip => []
    | .check =>
        match value with
        | some value => form value
        | none => []

/-- Judges a value one step down. -/
def step (child : Judgement) (segment : Segment) (value : Option Value) : List Finding :=
  (child value).map (.under segment)

/-- Judges values one step down, one after another. -/
def each (child : Judgement) (values : List (Segment × Value)) : List Finding :=
  values.flatMap fun (segment, value) => child.step segment (some value)

/-- Judges the fields of a record in the order of their declaration. -/
def fields (children : List (String × Judgement)) (entries : List (String × Value)) : List Finding :=
  children.flatMap fun (name, child) => child.step (.key name) (Value.lookup? name entries)

/-- Judges values position by position. -/
def positions (children : List Judgement) (values : List (Segment × Value)) : List Finding :=
  (children.zip values).flatMap fun (child, segment, value) => child.step segment (some value)

/-- What a union says about a value from what its alternatives say. -/
def union (mode : UnionMode) (value : Value) (reports : List (List Finding)) : List Finding :=
  if reports.any List.isEmpty then []
  else
    match mode with
    | .synthesized => [(Template.unionMismatch reports.length).here (some value) none]
    | .all => reports.flatten

/-- Judges a value by a leaf. -/
def leaf (counting : Counting) (scalar : Leaf) (value : Value) : List Finding :=
  match scalar.violation? value with
  | none => []
  | some violation =>
      match scalar.reported? counting violation with
      | some template => [template.here (some value) violation.found]
      | none => []

end Judgement

/-- What a node finds in a value behind its gate, from what its children find. -/
def Form.judge (counting : Counting) (mode : UnionMode) : Form Judgement → Value → List Finding
  | .leaf scalar, value => Judgement.leaf counting scalar value
  | .object children, value =>
      match value with
      | .record entries => Judgement.fields children entries
      | _ => [Template.notObject.here (some value) none]
  | .array item length, value =>
      match value with
      | .list items =>
          if length.admits counting items.length then item.each (Value.indexed items)
          else [(Template.length length "items").here (some value) (some items.length)]
      | _ => [Template.notArray.here (some value) none]
  | .tuple children, value =>
      match value with
      | .list items =>
          if items.length = children.length then Judgement.positions children (Value.indexed items)
          else [(Template.tupleArity children.length).here (some value) (some items.length)]
      | _ => [Template.notArray.here (some value) none]
  | .record child keys, value =>
      match value with
      | .record entries =>
          if keys.admits counting entries.length then child.each (Value.keyed entries)
          else [(Template.length keys "keys").here (some value) (some entries.length)]
      | _ => [Template.notObject.here (some value) none]
  | .union children, value =>
      Judgement.union mode value (children.map (· (some value)))

mutual

/-- What a tree finds in a value. -/
def Shape.judge (counting : Counting) (mode : UnionMode) : Shape → Judgement
  | .node header form =>
      Judgement.gated header.required header.nullable (Form.nullIsValue form)
        ((Form.judgements counting mode form).judge counting mode)

/-- The form with a judgement in the place of every child. -/
def Form.judgements (counting : Counting) (mode : UnionMode) : Form Shape → Form Judgement
  | .leaf scalar => .leaf scalar
  | .object fields => .object (Shape.fieldJudgements counting mode fields)
  | .array item length => .array (Shape.judge counting mode item) length
  | .tuple items => .tuple (Shape.judgements counting mode items)
  | .record value keys => .record (Shape.judge counting mode value) keys
  | .union alternatives => .union (Shape.judgements counting mode alternatives)

/-- The judgements of fields. -/
def Shape.fieldJudgements (counting : Counting) (mode : UnionMode) :
    List (String × Shape) → List (String × Judgement)
  | [] => []
  | (name, shape) :: rest =>
      (name, Shape.judge counting mode shape) :: Shape.fieldJudgements counting mode rest

/-- The judgements of some trees. -/
def Shape.judgements (counting : Counting) (mode : UnionMode) : List Shape → List Judgement
  | [] => []
  | shape :: rest => Shape.judge counting mode shape :: Shape.judgements counting mode rest

end

/-! ## The equations of judgements -/

namespace Judgement

/-- A step down lengthens the trail by its segment. -/
theorem step_beneath (child : Judgement) (segment : Segment) (value : Option Value)
    (trail : List Segment) :
    (child.step segment value).map (Finding.beneath trail) =
      (child value).map (Finding.beneath (segment :: trail)) :=
  Finding.map_beneath_under trail segment (child value)

/-- A step down extends the context of a child by its segment. -/
theorem step_failure (child : Judgement) (segment : Segment) (value : Option Value)
    (context : String) :
    (child.step segment value).map (·.failure context) =
      (child value).map (·.failure (segment.below context)) := by
  rw [step, List.map_map]
  exact List.map_congr_left fun finding _ => finding.failure_under context segment

theorem each_cons_beneath (child : Judgement) (segment : Segment) (value : Value)
    (rest : List (Segment × Value)) (trail : List Segment) :
    (child.each ((segment, value) :: rest)).map (Finding.beneath trail) =
      (child (some value)).map (Finding.beneath (segment :: trail)) ++
        (child.each rest).map (Finding.beneath trail) := by
  rw [each, List.flatMap_cons, List.map_append, step_beneath]
  rfl

theorem fields_cons (name : String) (child : Judgement) (rest : List (String × Judgement))
    (entries : List (String × Value)) :
    fields ((name, child) :: rest) entries =
      child.step (.key name) (Value.lookup? name entries) ++ fields rest entries := by
  rw [fields, List.flatMap_cons]
  rfl

theorem fields_cons_beneath (name : String) (child : Judgement) (rest : List (String × Judgement))
    (entries : List (String × Value)) (trail : List Segment) :
    (fields ((name, child) :: rest) entries).map (Finding.beneath trail) =
      (child (Value.lookup? name entries)).map (Finding.beneath (.key name :: trail)) ++
        (fields rest entries).map (Finding.beneath trail) := by
  rw [fields_cons, List.map_append, step_beneath]

theorem positions_cons (child : Judgement) (rest : List Judgement) (segment : Segment) (value : Value)
    (values : List (Segment × Value)) :
    positions (child :: rest) ((segment, value) :: values) =
      child.step segment (some value) ++ positions rest values := by
  rw [positions, List.zip_cons_cons, List.flatMap_cons]
  rfl

theorem positions_cons_beneath (child : Judgement) (rest : List Judgement) (segment : Segment)
    (value : Value) (values : List (Segment × Value)) (trail : List Segment) :
    (positions (child :: rest) ((segment, value) :: values)).map (Finding.beneath trail) =
      (child (some value)).map (Finding.beneath (segment :: trail)) ++
        (positions rest values).map (Finding.beneath trail) := by
  rw [positions_cons, List.map_append, step_beneath]

@[simp] theorem positions_nil_left (values : List (Segment × Value)) : positions [] values = [] := rfl

@[simp] theorem positions_nil_right (children : List Judgement) : positions children [] = [] := by
  rw [positions, List.zip_nil_right, List.flatMap_nil]

end Judgement

namespace Shape

theorem fieldJudgements_eq_map (counting : Counting) (mode : UnionMode)
    (fields : List (String × Shape)) :
    fieldJudgements counting mode fields =
      fields.map fun (name, shape) => (name, shape.judge counting mode) := by
  induction fields with
  | nil => rfl
  | cons field rest inductionHypothesis =>
      rw [List.map_cons, ← inductionHypothesis]
      rfl

theorem judgements_eq_map (counting : Counting) (mode : UnionMode) (shapes : List Shape) :
    judgements counting mode shapes = shapes.map (judge counting mode) := by
  induction shapes with
  | nil => rfl
  | cons shape rest inductionHypothesis =>
      rw [List.map_cons, ← inductionHypothesis]
      rfl

end Shape

theorem Form.judgements_eq_map (counting : Counting) (mode : UnionMode) (form : Form Shape) :
    form.judgements counting mode = form.map (Shape.judge counting mode) := by
  cases form with
  | leaf scalar => rfl
  | object fields => exact congrArg Form.object (Shape.fieldJudgements_eq_map counting mode fields)
  | array item length => rfl
  | tuple items => exact congrArg Form.tuple (Shape.judgements_eq_map counting mode items)
  | record value keys => rfl
  | union alternatives =>
      exact congrArg Form.union (Shape.judgements_eq_map counting mode alternatives)

/-- The judgement of a tree in terms of those of its children. -/
theorem Shape.judge_node (counting : Counting) (mode : UnionMode) (header : Header)
    (form : Form Shape) :
    (Shape.node header form).judge counting mode =
      Judgement.gated header.required header.nullable (Form.nullIsValue form)
        ((form.map (Shape.judge counting mode)).judge counting mode) := by
  rw [← Form.judgements_eq_map]
  rfl

namespace Schema

/-- What a node of a schema finds in a value. -/
def judge (schema : Schema) (mode : UnionMode) (id : NodeId) : Judgement :=
  (schema.shape id).judge .every mode

/-- The failures of a value at a node, in a context. -/
def failures (schema : Schema) (mode : UnionMode) (id : NodeId) (value : Option Value)
    (path : String) : List Failure :=
  (schema.judge mode id value).map (·.failure path)

/-- Whether null reaches the checks of a node. -/
def nullIsValue (schema : Schema) (id : NodeId) : Bool := (schema.shape id).nullIsValue

/-- The judgement of a node of an arena, with the judgements of the nodes it
refers to in the place of their numbers. -/
theorem judge_eq (schema : Schema) (mode : UnionMode) {id : Nat} {node : Node}
    (listed : schema.nodes[id]? = some node) :
    schema.judge mode id =
      Judgement.gated node.required node.nullable (schema.nullIsValue id)
        ((node.form.map (schema.judge mode)).judge .every mode) := by
  have children : (node.form.map schema.shape).map (Shape.judge .every mode) =
      node.form.map (schema.judge mode) := by
    cases node.form <;> simp [Form.map, judge]
  rw [judge, nullIsValue, schema.shape_eq listed, Shape.judge_node, children]
  rfl

end Schema
end Conformance
