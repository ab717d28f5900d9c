import Conformance.Proofs.Program.Budget

namespace Conformance

/-!
# The extent of a program

A tree tells beforehand how large its program is.  Each node has its operations, counted by
`Shape.opCount`, and each value that is taken out of another one has a slot: the fields of an
object, the positions of a tuple, and the one element that a loop looks at.  Alternatives look
at the value of their union and need no slots of their own.

A node that is shared in the arena is counted wherever it occurs in the tree, for its block is
laid out as often.  So the tree may need many more operations than the arena has nodes.  The
count is exact all the same: assembly goes through for every budget from the count on, always
with the same program, and is refused for every smaller one.
-/

mutual

/-- The count of slots of a tree below the slot of its own value. -/
def Shape.slotCount : Shape → Nat
  | .node _ form => Form.slotCount form

/-- The count of slots of a form.  A loop has one slot for all elements. -/
def Form.slotCount : Form Shape → Nat
  | .leaf _ => 0
  | .object fields => Shape.fieldSlotCount fields
  | .array item _ => 1 + Shape.slotCount item
  | .tuple items => Shape.itemSlotCount items
  | .record value _ => 1 + Shape.slotCount value
  | .union alternatives => Shape.alternativeSlotCount alternatives

/-- Each field has a slot. -/
def Shape.fieldSlotCount : List (String × Shape) → Nat
  | [] => 0
  | (_, shape) :: rest => 1 + Shape.slotCount shape + Shape.fieldSlotCount rest

/-- Each position has a slot. -/
def Shape.itemSlotCount : List Shape → Nat
  | [] => 0
  | shape :: rest => 1 + Shape.slotCount shape + Shape.itemSlotCount rest

/-- Alternatives share the slot of their union. -/
def Shape.alternativeSlotCount : List Shape → Nat
  | [] => 0
  | shape :: rest => Shape.slotCount shape + Shape.alternativeSlotCount rest

end

/-! ## Slots that are handed out -/

namespace Tables

variable (tables : Tables)

@[simp] theorem withTemplate_slots (entry : Template) :
    (tables.withTemplate entry).2.slots = tables.slots := rfl

@[simp] theorem withString_slots (entry : String) :
    (tables.withString entry).2.slots = tables.slots := rfl

@[simp] theorem withSlot_slots : tables.withSlot.slots = tables.slots + 1 := rfl

end Tables

namespace Layout

@[simp] theorem count_slots (bounds : LengthBounds) (unit : String) (tables : Tables) :
    (count bounds unit tables).2.slots = tables.slots := by
  rw [count]
  split <;> rfl

theorem constraint_slots (scalar : Leaf) (tables : Tables) :
    (constraint scalar tables).2.slots = tables.slots := by
  rw [constraint]
  cases scalar.template? .constraint with
  | none => rfl
  | some entry => cases scalar.countsWith .binding <;> rfl

theorem leafTest_slots (scalar : Leaf) (tables : Tables) :
    (leafTest scalar tables).2.slots = tables.slots := by
  cases scalar <;> rfl

/-- The test of a leaf looks at the slot of its node. -/
theorem leaf_slots (slot : Nat) (scalar : Leaf) (tables : Tables) :
    (leaf slot scalar tables).2.slots = tables.slots := by
  rw [leaf]
  cases scalar.template? .wrongType with
  | none => rfl
  | some entry =>
      have noted := (leafTest_slots scalar _).trans
        (constraint_slots scalar (tables.withTemplate entry).2)
      simp only
      cases made : leafTest scalar (constraint scalar (tables.withTemplate entry).2).2 with
      | mk test after =>
          rw [made] at noted
          cases test <;> exact noted

/-- A tree whose layout hands out as many slots as the tree counts. -/
def Slotted (mode : UnionMode) (shape : Shape) : Prop :=
  ∀ start slot tables, (node mode shape start slot tables).2.slots = tables.slots + shape.slotCount

variable {mode : UnionMode}

theorem fields_slots (shapes : List (String × Shape))
    (children : ∀ field ∈ shapes, Slotted mode field.2) (source : Nat) : ∀ start tables,
    (fields mode shapes start source tables).2.slots = tables.slots + Shape.fieldSlotCount shapes := by
  induction shapes with
  | nil =>
      intro start tables
      rfl
  | cons field rest inductionHypothesis =>
      intro start tables
      rcases field with ⟨key, shape⟩
      have first : Slotted mode shape := children (key, shape) List.mem_cons_self
      have others := inductionHypothesis fun field member => children field (List.mem_cons_of_mem _ member)
      simp only [fields, others, first _ _ _, Tables.withString_slots, Tables.withSlot_slots,
        Shape.fieldSlotCount]
      omega

theorem positions_slots (shapes : List Shape) (children : ∀ shape ∈ shapes, Slotted mode shape)
    (source : Nat) : ∀ position start tables,
    (positions mode shapes position start source tables).2.slots =
      tables.slots + Shape.itemSlotCount shapes := by
  induction shapes with
  | nil =>
      intro position start tables
      rfl
  | cons shape rest inductionHypothesis =>
      intro position start tables
      have first := children shape List.mem_cons_self
      have others := inductionHypothesis fun shape member => children shape (List.mem_cons_of_mem _ member)
      simp only [positions, others, first _ _ _, Tables.withSlot_slots, Shape.itemSlotCount]
      omega

theorem alternatives_slots (shapes : List Shape) (children : ∀ shape ∈ shapes, Slotted mode shape)
    (slot : Nat) : ∀ start tables,
    (alternatives mode shapes start slot tables).2.slots =
      tables.slots + Shape.alternativeSlotCount shapes := by
  induction shapes with
  | nil =>
      intro start tables
      rfl
  | cons shape rest inductionHypothesis =>
      intro start tables
      have first := children shape List.mem_cons_self
      have others := inductionHypothesis fun shape member => children shape (List.mem_cons_of_mem _ member)
      simp only [alternatives, others, first _ _ _, Shape.alternativeSlotCount]
      omega

theorem form_slots (shapes : Form Shape) (children : ∀ shape ∈ shapes.children, Slotted mode shape)
    (start slot : Nat) (tables : Tables) :
    (form mode shapes start slot tables).2.slots = tables.slots + shapes.slotCount := by
  cases shapes with
  | leaf scalar => exact leaf_slots slot scalar tables
  | object shapes =>
      have inside := fields_slots shapes fun field member => children field.2 (List.mem_map_of_mem member)
      simp only [form, inside, Tables.withTemplate_slots, Form.slotCount]
  | array item length =>
      have inside := children item List.mem_cons_self
      simp only [form, inside _ _ _, Tables.withSlot_slots, Tables.withCursor_slots, count_slots,
        Tables.withTemplate_slots, Form.slotCount]
      omega
  | tuple shapes =>
      have inside := positions_slots shapes children
      simp only [form, inside, Tables.withTemplate_slots, Form.slotCount]
  | record value keys =>
      have inside := children value List.mem_cons_self
      simp only [form, inside _ _ _, Tables.withSlot_slots, Tables.withCursor_slots, count_slots,
        Tables.withTemplate_slots, Form.slotCount]
      omega
  | union shapes =>
      have inside := alternatives_slots shapes children
      simp only [form, inside, Tables.withTemplate_slots, Form.slotCount]

theorem node_slots (shape : Shape) : Slotted mode shape := by
  induction shape using Shape.induction with
  | node header shapes inductionHypothesis =>
      intro start slot tables
      simp only [node, form_slots shapes inductionHypothesis, Tables.withTemplate_slots,
        Shape.slotCount]

end Layout

namespace Schema

/-- The slots of a program are those of its tree and the slot of the value that is checked. -/
theorem layout_slots (schema : Schema) (mode : UnionMode) :
    (schema.layout mode).slots = 1 + schema.rootShape.slotCount :=
  Layout.node_slots schema.rootShape 0 0 .initial

/-- The budget is exact.  There is one program of a schema, with the operations and slots that
its tree counts, and assembly answers it for every budget from its size on.  For every smaller
budget assembly is refused and answers that budget. -/
theorem assemble_exact (schema : Schema) (mode : UnionMode) :
    ∃ program : Program,
      program.size = schema.rootShape.opCount ∧
      program.slots = 1 + schema.rootShape.slotCount ∧
      ∀ budget : Nat, schema.assemble mode budget =
        if schema.rootShape.opCount ≤ budget then .ok program else .error ⟨budget⟩ := by
  refine ⟨schema.layout mode, schema.layout_size mode, schema.layout_slots mode, fun budget => ?_⟩
  rw [assemble_eq, layout_size]

end Schema
end Conformance
