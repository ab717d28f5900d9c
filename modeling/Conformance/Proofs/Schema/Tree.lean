import Conformance.Schema.Shape
import Mathlib.Data.Option.Basic

namespace Conformance

/-!
# The tree of a finished schema

Finishing an arena checks every node once, so a schema carries its good form as
one equation about a search for errors.  The statements here turn that equation
into the two facts that every walk rests on: the children of a node come before
it, and every node is proper in itself.

With the first, the tree of a node is the node with the trees of its children,
whatever else the arena holds.  With the second, the tree of a node is proper all
the way down.
-/

namespace Form

variable {Child Target : Type}

/-- What finishing asks of a node besides its references. -/
def Proper : Form Child → Prop
  | .leaf (.string length) | .leaf (.buffer length) => length.min ≤ length.max
  | .leaf (.integer range) => range.min ≤ range.max
  | .leaf (.real range) =>
      range.min.isNaN = false ∧ range.max.isNaN = false ∧ range.max.lt range.min = false
  | .leaf _ => True
  | .object fields => (fields.map Prod.fst).Nodup
  | .array _ length => length.min ≤ length.max
  | .tuple _ => True
  | .record _ keys => keys.min ≤ keys.max
  | .union alternatives => alternatives ≠ []

theorem children_map (change : Child → Target) (form : Form Child) :
    (form.map change).children = form.children.map change := by
  cases form with
  | object fields =>
      simp only [map, children, List.map_map]
      rfl
  | _ => rfl

theorem map_congr {first second : Child → Target} (form : Form Child)
    (agree : ∀ child ∈ form.children, first child = second child) :
    form.map first = form.map second := by
  cases form with
  | leaf scalar => rfl
  | object fields =>
      simp only [map, Form.object.injEq]
      apply List.map_congr_left
      intro field listed
      have same := agree field.2 (List.mem_map_of_mem listed)
      rw [same]
  | array item length =>
      simp only [map, agree item List.mem_cons_self]
  | tuple items =>
      simp only [map, Form.tuple.injEq]
      exact List.map_congr_left agree
  | record value keys =>
      simp only [map, agree value List.mem_cons_self]
  | union alternatives =>
      simp only [map, Form.union.injEq]
      exact List.map_congr_left agree

theorem map_proper {change : Child → Target} {form : Form Child} (proper : form.Proper) :
    (form.map change).Proper := by
  cases form with
  | leaf scalar => cases scalar <;> exact proper
  | object fields =>
      have names : (fields.map fun field => (field.1, change field.2)).map Prod.fst =
          fields.map Prod.fst := by
        rw [List.map_map]
        rfl
      simp only [map, Proper, names]
      exact proper
  | array item length => exact proper
  | tuple items => trivial
  | record value keys => exact proper
  | union alternatives =>
      intro empty
      exact proper (List.map_eq_nil_iff.mp empty)

end Form

theorem Node.defaultRequired_map {Child Target : Type} (change : Child → Target) (form : Form Child) :
    Node.defaultRequired (form.map change) = Node.defaultRequired form := by
  cases form with
  | leaf scalar => cases scalar <;> rfl
  | _ => rfl

/-! ## What the search for errors establishes -/

theorem repeatedName?_eq_none_iff (names : List String) : ∀ seen : List String,
    repeatedName? seen names = none ↔ names.Nodup ∧ ∀ name ∈ names, name ∉ seen := by
  induction names with
  | nil =>
      intro seen
      simp [repeatedName?]
  | cons name rest inductionHypothesis =>
      intro seen
      by_cases listed : name ∈ seen
      · simp [repeatedName?, listed]
      · have later := inductionHypothesis (name :: seen)
        simp only [repeatedName?, List.contains_eq_mem, listed, decide_false,
          Bool.false_eq_true, if_false, later, List.nodup_cons, List.mem_cons]
        grind

namespace Node

theorem lengthError?_eq_none_iff (id : NodeId) (bounds : LengthBounds) :
    lengthError? id bounds = none ↔ bounds.min ≤ bounds.max := by
  by_cases inverted : bounds.max < bounds.min
  · simp [lengthError?, inverted]
  · simp [lengthError?, inverted, Nat.le_of_not_lt inverted]

/-- A node is reported for what it is itself exactly when it is not proper. -/
theorem ownError?_eq_none_iff (id : NodeId) (form : Form NodeId) :
    ownError? id form = none ↔ form.Proper := by
  cases form with
  | leaf scalar =>
      cases scalar with
      | string length => exact lengthError?_eq_none_iff id length
      | buffer length => exact lengthError?_eq_none_iff id length
      | integer range => simp [ownError?, leafError?, Form.Proper]
      | real range => simp [ownError?, leafError?, Form.Proper, and_assoc]
      | _ => simp [ownError?, leafError?, Form.Proper]
  | object fields =>
      simp [ownError?, Form.Proper, repeatedName?_eq_none_iff]
  | array item length => exact lengthError?_eq_none_iff id length
  | tuple items => simp [ownError?, Form.Proper]
  | record value keys => exact lengthError?_eq_none_iff id keys
  | union alternatives => simp [ownError?, Form.Proper]

theorem referenceError?_eq_none_iff {size id : Nat} (bound : id ≤ size) (children : List NodeId) :
    referenceError? size id children = none ↔ ∀ child ∈ children, child < id := by
  induction children with
  | nil => simp [referenceError?]
  | cons child rest inductionHypothesis =>
      rw [List.forall_mem_cons, referenceError?]
      by_cases unknown : size ≤ child
      · have late : ¬ child < id := Nat.not_lt.mpr (Nat.le_trans bound unknown)
        simp only [if_pos unknown, late, false_and, reduceCtorEq]
      · by_cases forward : id ≤ child
        · have late : ¬ child < id := Nat.not_lt.mpr forward
          simp only [if_neg unknown, if_pos forward, late, false_and, reduceCtorEq]
        · have early : child < id := Nat.lt_of_not_le forward
          simp only [if_neg unknown, if_neg forward, early, true_and, inductionHypothesis]

/-- The check of one node, said without its error. -/
theorem error?_eq_none_iff {size id : Nat} (bound : id ≤ size) (node : Node) :
    node.error? size id = none ↔ (∀ child ∈ node.form.children, child < id) ∧ node.form.Proper := by
  rw [error?, Option.orElse_eq_none,
    referenceError?_eq_none_iff bound, ownError?_eq_none_iff]

end Node

/-- No error among numbered nodes means no error of any of them. -/
theorem nodesError?_eq_none_iff (size : Nat) (nodes : List Node) : ∀ first : NodeId,
    nodesError? size first nodes = none ↔
      ∀ (offset : Nat) (node : Node), nodes[offset]? = some node →
        node.error? size (first + offset) = none := by
  induction nodes with
  | nil =>
      intro first
      simp [nodesError?]
  | cons node rest inductionHypothesis =>
      intro first
      rw [nodesError?, Option.orElse_eq_none,
        inductionHypothesis (first + 1)]
      constructor
      · rintro ⟨here, later⟩ offset other listed
        cases offset with
        | zero =>
            have same : node = other := by simpa using listed
            rw [← same]
            exact here
        | succ offset =>
            have step := later offset other (by simpa using listed)
            rwa [Nat.add_assoc, Nat.add_comm 1] at step
      · intro every
        refine ⟨every 0 node rfl, ?_⟩
        intro offset other listed
        have step := every (offset + 1) other (by simpa using listed)
        rwa [Nat.add_assoc, Nat.add_comm 1]

namespace Schema

/-- Every node of a finished schema passed its check. -/
theorem error?_eq_none (schema : Schema) {id : Nat} {node : Node}
    (listed : schema.nodes[id]? = some node) : node.error? schema.nodes.size id = none := by
  have every := (nodesError?_eq_none_iff schema.nodes.size schema.nodes.toList 0).mp schema.no_error
  have here := every id node (by simpa using listed)
  rwa [Nat.zero_add] at here

theorem id_lt_size {schema : Schema} {id : Nat} {node : Node}
    (listed : schema.nodes[id]? = some node) : id < schema.nodes.size :=
  (Array.getElem?_eq_some_iff.mp listed).1

/-- The children of a node come before it. -/
theorem child_lt (schema : Schema) {id : Nat} {node : Node}
    (listed : schema.nodes[id]? = some node) : ∀ child ∈ node.form.children, child < id :=
  ((Node.error?_eq_none_iff (Nat.le_of_lt (id_lt_size listed)) node).mp
    (schema.error?_eq_none listed)).1

/-- Every node of a finished schema is proper. -/
theorem node_proper (schema : Schema) {id : Nat} {node : Node}
    (listed : schema.nodes[id]? = some node) : node.form.Proper :=
  ((Node.error?_eq_none_iff (Nat.le_of_lt (id_lt_size listed)) node).mp
    (schema.error?_eq_none listed)).2

/-! ## The tree of a node is built from the trees of its children -/

private theorem grow_size (root : NodeId) (shapes : Array Shape) (node : Node) :
    (grow root shapes node).size = shapes.size + 1 := by
  simp only [grow, Array.size_push]

private theorem grow_keeps (root : NodeId) (shapes : Array Shape) (node : Node) {id : Nat}
    (early : id < shapes.size) : (grow root shapes node)[id]? = shapes[id]? := by
  rw [grow, Array.getElem?_push, if_neg (Nat.ne_of_lt early)]

private theorem foldl_grow_size (root : NodeId) (nodes : List Node) : ∀ shapes : Array Shape,
    (nodes.foldl (grow root) shapes).size = shapes.size + nodes.length := by
  induction nodes with
  | nil =>
      intro shapes
      rfl
  | cons node rest inductionHypothesis =>
      intro shapes
      rw [List.foldl_cons, inductionHypothesis, grow_size, List.length_cons]
      omega

private theorem foldl_grow_keeps (root : NodeId) (nodes : List Node) : ∀ (shapes : Array Shape)
    {id : Nat}, id < shapes.size → (nodes.foldl (grow root) shapes)[id]? = shapes[id]? := by
  induction nodes with
  | nil =>
      intro shapes id early
      rfl
  | cons node rest inductionHypothesis =>
      intro shapes id early
      have later : id < (grow root shapes node).size := by
        rw [grow_size]
        exact Nat.lt_succ_of_lt early
      rw [List.foldl_cons, inductionHypothesis _ later, grow_keeps root shapes node early]

/-- The tree of a node is the node with the trees of its children.  The numbers
of the arena play no other part. -/
theorem shape_eq (schema : Schema) {id : Nat} {node : Node}
    (listed : schema.nodes[id]? = some node) :
    schema.shape id = .node (node.header (id == schema.root)) (node.form.map schema.shape) := by
  have early := id_lt_size listed
  have inList : id < schema.nodes.toList.length := by simpa using early
  have atId : schema.nodes.toList[id] = node := by
    have found : schema.nodes.toList[id]? = some node := by simpa using listed
    rw [List.getElem?_eq_getElem inList] at found
    exact Option.some.inj found
  -- The trees before the node, and everything that is added after it.
  let before := (schema.nodes.toList.take id).foldl (grow schema.root) #[]
  have beforeSize : before.size = id := by
    simp only [before, foldl_grow_size, List.length_take, Array.size_empty]
    omega
  have split : schema.shapes =
      (schema.nodes.toList.drop (id + 1)).foldl (grow schema.root) (grow schema.root before node) := by
    have parts := List.take_append_drop id schema.nodes.toList
    rw [List.drop_eq_getElem_cons inList, atId] at parts
    rw [shapes, ← Array.foldl_toList]
    calc
      schema.nodes.toList.foldl (grow schema.root) #[] =
          (schema.nodes.toList.take id ++ node :: schema.nodes.toList.drop (id + 1)).foldl
            (grow schema.root) #[] := by rw [parts]
      _ = (schema.nodes.toList.drop (id + 1)).foldl (grow schema.root)
            (grow schema.root before node) := by rw [List.foldl_append, List.foldl_cons]
  have child : ∀ other ∈ node.form.children,
      before[other]?.getD .anything = schema.shape other := by
    intro other member
    have smaller : other < before.size := by
      rw [beforeSize]
      exact schema.child_lt listed other member
    have kept : other < (grow schema.root before node).size := by
      rw [grow_size]
      exact Nat.lt_succ_of_lt smaller
    rw [shape, split, foldl_grow_keeps _ _ _ kept, grow_keeps _ _ _ smaller]
  have here : id < (grow schema.root before node).size := by
    rw [grow_size, beforeSize]
    exact Nat.lt_succ_self id
  rw [shape, split, foldl_grow_keeps _ _ _ here, grow, Array.getElem?_push, beforeSize,
    if_pos rfl, Option.getD_some, Form.map_congr node.form child]

/-- A number without a node stands for the tree that accepts everything. -/
theorem shape_eq_anything (schema : Schema) {id : Nat} (missing : schema.nodes[id]? = none) :
    schema.shape id = .anything := by
  have size : schema.shapes.size = schema.nodes.size := by
    rw [shapes, ← Array.foldl_toList, foldl_grow_size]
    simp
  rw [Array.getElem?_eq_none_iff] at missing
  rw [shape, Array.getElem?_eq_none (by omega), Option.getD_none]

/-- The children in the tree of a node are trees of nodes again. -/
theorem child_shape (schema : Schema) {id : Nat} {header : Header} {form : Form Shape}
    (tree : schema.shape id = .node header form) :
    ∀ child ∈ form.children, ∃ other, child = schema.shape other := by
  intro child member
  cases listed : schema.nodes[id]? with
  | none =>
      rw [schema.shape_eq_anything listed] at tree
      cases tree
      cases member
  | some node =>
      rw [schema.shape_eq listed] at tree
      cases tree
      rw [Form.children_map] at member
      rcases List.mem_map.mp member with ⟨other, _, equal⟩
      exact ⟨other, equal.symm⟩

end Schema

/-! ## Induction on trees -/

namespace Shape

/-- A property of trees that passes from the children of a node to the node holds
of all trees, whatever the form that holds the children. -/
theorem induction {motive : Shape → Prop}
    (node : ∀ header form, (∀ child ∈ form.children, motive child) → motive (.node header form)) :
    ∀ shape, motive shape := by
  intro shape
  refine @Shape.rec motive
    (fun form => ∀ child ∈ form.children, motive child)
    (fun fields => ∀ child ∈ fields.map Prod.snd, motive child)
    (fun shapes => ∀ child ∈ shapes, motive child)
    (fun field => motive field.2)
    node ?leaf ?object ?array ?tuple ?record ?union ?noFields ?fields ?noShapes ?shapes ?field shape
  case leaf =>
    intro scalar child member
    cases member
  case object => exact fun fields children => children
  case array =>
    intro item length holds child member
    rw [List.mem_singleton.mp member]
    exact holds
  case tuple => exact fun items children => children
  case record =>
    intro value keys holds child member
    rw [List.mem_singleton.mp member]
    exact holds
  case union => exact fun alternatives children => children
  case noFields =>
    intro child member
    cases member
  case fields => exact fun field rest first others => List.forall_mem_cons.mpr ⟨first, others⟩
  case noShapes =>
    intro child member
    cases member
  case shapes => exact fun shape rest first others => List.forall_mem_cons.mpr ⟨first, others⟩
  case field => exact fun name shape holds => holds

/-- Every node of a tree is proper. -/
inductive Proper : Shape → Prop where
  | node (header : Header) (form : Form Shape) (own : form.Proper)
      (children : ∀ child ∈ form.children, Proper child) : Proper (.node header form)

end Shape

/-- The trees of a finished schema are proper. -/
theorem Schema.shape_proper (schema : Schema) (id : Nat) : (schema.shape id).Proper := by
  induction id using Nat.strongRecOn with
  | _ id inductionHypothesis =>
      cases listed : schema.nodes[id]? with
      | none =>
          rw [schema.shape_eq_anything listed]
          exact .node _ _ trivial (fun child member => nomatch member)
      | some node =>
          rw [schema.shape_eq listed]
          refine .node _ _ (Form.map_proper (schema.node_proper listed)) ?_
          intro child member
          rw [Form.children_map] at member
          rcases List.mem_map.mp member with ⟨other, listedChild, equal⟩
          rw [← equal]
          exact inductionHypothesis other (schema.child_lt listed other listedChild)

end Conformance
