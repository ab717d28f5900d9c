import Conformance.Proofs.Program.Layout

namespace Conformance

/-!
# Assembly within a budget

Every reservation of a position and every block that assembly puts together ends
somewhere, and all refusals are alike.  So what a step of assembly answers is told
by three things: the budget, the position where the result ends and the result.

Two steps in a row answer what the second one answers if its result ends no
earlier than that of the first.  This is the only place where the order of the
reservations plays a part; the rest follows the recursion of assembly.
-/

/-- What assembly answers if its result ends at some position. -/
def within {Result : Type} (budget limit : Nat) (result : Result) : Except TooLarge Result :=
  if limit ≤ budget then .ok result else .error ⟨budget⟩

namespace Assembler

variable {budget : Nat}

theorem pure_within {Result : Type} {limit : Nat} (fits : limit ≤ budget) (result : Result)
    (tables : Tables) : (pure result : Assembler Result).run tables = within budget limit (result, tables) := by
  rw [within, if_pos fits]
  rfl

/-- A step after which something else ends later is refused only if that is. -/
theorem bind_within {Middle Result : Type} {first : Assembler Middle}
    {others : Middle → Assembler Result} {tables : Tables} {place limit : Nat}
    {middle : Middle × Tables} {result : Result × Tables}
    (ran : first.run tables = within budget place middle) (order : place ≤ limit)
    (continued : place ≤ budget → (others middle.1).run middle.2 = within budget limit result) :
    (first >>= others).run tables = within budget limit result := by
  rw [StateT.run_bind, ran]
  by_cases fits : place ≤ budget
  · rw [within, if_pos fits]
    exact continued fits
  · have tooFar : ¬ limit ≤ budget := fun below => fits (Nat.le_trans order below)
    rw [within, within, if_neg fits, if_neg tooFar]
    rfl

theorem template_within (entry : Template) (tables : Tables) :
    (template entry).run tables = within budget 0 (tables.withTemplate entry) := by
  rw [within, if_pos (Nat.zero_le budget)]
  rfl

theorem string_within (entry : String) (tables : Tables) :
    (string entry).run tables = within budget 0 (tables.withString entry) := by
  rw [within, if_pos (Nat.zero_le budget)]
  rfl

theorem pattern_within (entry : Pattern) (tables : Tables) :
    (pattern entry).run tables = within budget 0 (tables.withPattern entry) := by
  rw [within, if_pos (Nat.zero_le budget)]
  rfl

section

variable {Result : Type} {tables : Tables} {limit : Nat} {result : Result × Tables}

/-- What is behind a new slot is assembled with the slot. -/
theorem slot_bind_within {others : Nat → Assembler Result}
    (continued : (others tables.slots).run tables.withSlot = within budget limit result) :
    (slot >>= others).run tables = within budget limit result :=
  continued

/-- What is behind a new cursor is assembled with the cursor. -/
theorem cursor_bind_within {others : Nat → Assembler Result}
    (continued : (others tables.cursors).run tables.withCursor = within budget limit result) :
    (cursor >>= others).run tables = within budget limit result :=
  continued

/-- A position that is reserved is one that the result needs. -/
theorem reserve_bind_within {position : Nat} {others : Unit → Assembler Result}
    (order : position + 1 ≤ limit)
    (continued : position + 1 ≤ budget → (others ()).run tables = within budget limit result) :
    (reserve budget position >>= others).run tables = within budget limit result := by
  by_cases room : position < budget
  · rw [reserve, if_pos room]
    exact continued room
  · rw [reserve, if_neg room, within, if_neg fun below => room (Nat.le_trans order below)]
    rfl

end

theorem count_within (bounds : LengthBounds) (unit : String) (tables : Tables) :
    (count bounds unit).run tables = within budget 0 (Layout.count bounds unit tables) := by
  rw [count, Layout.count]
  by_cases unbounded : bounds.isUnbounded = true
  · rw [if_pos unbounded, if_pos unbounded]
    exact pure_within (Nat.zero_le budget) none tables
  · rw [if_neg unbounded, if_neg unbounded]
    exact bind_within (template_within (.length bounds unit) tables) (Nat.le_refl 0) fun _ =>
      pure_within (Nat.zero_le budget) _ _

/-- The bounds that assembly drops are those that take no part. -/
theorem constraint_eq (scalar : Leaf) :
    constraint scalar =
      match scalar.template? .constraint with
      | some entry =>
          if scalar.countsWith .binding then return some (← template entry) else return none
      | none => return none := by
  cases scalar <;> rfl

theorem constraint_within (scalar : Leaf) (tables : Tables) :
    (constraint scalar).run tables = within budget 0 (Layout.constraint scalar tables) := by
  rw [constraint_eq, Layout.constraint]
  cases scalar.template? .constraint with
  | none => exact pure_within (Nat.zero_le budget) none tables
  | some entry =>
      by_cases bounded : scalar.countsWith .binding = true
      · simp only [if_pos bounded]
        exact bind_within (template_within entry tables) (Nat.le_refl 0) fun _ =>
          pure_within (Nat.zero_le budget) _ _
      · simp only [if_neg bounded]
        exact pure_within (Nat.zero_le budget) none tables

theorem leafTest_within (scalar : Leaf) (tables : Tables) :
    (leafTest scalar).run tables = within budget 0 (Layout.leafTest scalar tables) := by
  cases scalar with
  | exact expected =>
      exact bind_within (string_within expected tables) (Nat.le_refl 0) fun _ =>
        pure_within (Nat.zero_le budget) _ _
  | pattern expected =>
      exact bind_within (pattern_within expected tables) (Nat.le_refl 0) fun _ =>
        pure_within (Nat.zero_le budget) _ _
  | _ => exact pure_within (Nat.zero_le budget) _ _

theorem leaf_within (scalar : Leaf) {start : Nat} (slot : Nat) (tables : Tables)
    (room : start ≤ budget) :
    (leaf budget start slot scalar).run tables =
      within budget (start + (Layout.leaf slot scalar tables).1.length)
        (Layout.leaf slot scalar tables) := by
  rw [leaf, Layout.leaf]
  cases scalar.template? .wrongType with
  | none => exact pure_within room [] tables
  | some entry =>
      refine bind_within (template_within entry tables) (Nat.zero_le _) fun _ => ?_
      refine bind_within (constraint_within scalar _) (Nat.zero_le _) fun _ => ?_
      refine bind_within (leafTest_within scalar _) (Nat.zero_le _) fun _ => ?_
      rcases made : Layout.leafTest scalar
        (Layout.constraint scalar (tables.withTemplate entry).2).2 with ⟨test, after⟩
      simp only [made]
      cases test with
      | none => exact pure_within room [] after
      | some test =>
          refine reserve_bind_within (Nat.le_refl _) fun fits => ?_
          exact pure_within fits _ after

variable (mode : UnionMode)

/-- Assembly of a tree answers the layout of the tree, wherever it is placed. -/
def Answers (budget : Nat) (mode : UnionMode) (shape : Shape) : Prop :=
  ∀ (start slot : Nat) (tables : Tables), start ≤ budget →
    (node mode budget shape start slot).run tables =
      within budget (start + (Layout.node mode shape start slot tables).1.length)
        (Layout.node mode shape start slot tables)

theorem fields_within (shapes : List (String × Shape))
    (children : ∀ field ∈ shapes, Answers budget mode field.2) (source : Nat) :
    ∀ (start : Nat) (tables : Tables), start ≤ budget →
      (fields mode budget shapes start source).run tables =
        within budget (start + (Layout.fields mode shapes start source tables).1.length)
          (Layout.fields mode shapes start source tables) := by
  induction shapes with
  | nil =>
      intro start tables room
      exact pure_within room [] tables
  | cons field rest inductionHypothesis =>
      intro start tables room
      rcases field with ⟨key, shape⟩
      have first : Answers budget mode shape := children (key, shape) List.mem_cons_self
      have others := inductionHypothesis fun field member => children field (List.mem_cons_of_mem _ member)
      simp only [fields, Layout.fields, List.length_append, List.length_cons]
      refine slot_bind_within ?_
      refine bind_within (string_within key _) (Nat.zero_le _) fun _ => ?_
      refine reserve_bind_within (by omega) fun fits => ?_
      refine bind_within (first (start + 1) _ _ fits) (by omega) fun fits => ?_
      refine bind_within (others _ _ fits) (by omega) fun fits => ?_
      exact pure_within (by omega) _ _

theorem positions_within (shapes : List Shape)
    (children : ∀ shape ∈ shapes, Answers budget mode shape) (source : Nat) :
    ∀ (position start : Nat) (tables : Tables), start ≤ budget →
      (positions mode budget shapes position start source).run tables =
        within budget (start + (Layout.positions mode shapes position start source tables).1.length)
          (Layout.positions mode shapes position start source tables) := by
  induction shapes with
  | nil =>
      intro position start tables room
      exact pure_within room [] tables
  | cons shape rest inductionHypothesis =>
      intro position start tables room
      have first := children shape List.mem_cons_self
      have others := inductionHypothesis fun shape member => children shape (List.mem_cons_of_mem _ member)
      simp only [positions, Layout.positions, List.length_append, List.length_cons]
      refine slot_bind_within ?_
      refine reserve_bind_within (by omega) fun fits => ?_
      refine bind_within (first (start + 1) _ _ fits) (by omega) fun fits => ?_
      refine bind_within (others _ _ _ fits) (by omega) fun fits => ?_
      exact pure_within (by omega) _ _

theorem alternatives_within (shapes : List Shape)
    (children : ∀ shape ∈ shapes, Answers budget mode shape) (slot : Nat) :
    ∀ (start : Nat) (tables : Tables), start ≤ budget →
      (alternatives mode budget shapes start slot).run tables =
        within budget (start + sizeAlternatives (Layout.alternatives mode shapes start slot tables).1)
          (Layout.alternatives mode shapes start slot tables) := by
  induction shapes with
  | nil =>
      intro start tables room
      exact pure_within room [] tables
  | cons shape rest inductionHypothesis =>
      intro start tables room
      have first := children shape List.mem_cons_self
      have others := inductionHypothesis fun shape member => children shape (List.mem_cons_of_mem _ member)
      simp only [alternatives, Layout.alternatives, sizeAlternatives]
      refine reserve_bind_within (by omega) fun fits => ?_
      refine bind_within (first (start + 1) _ _ fits) (by omega) fun fits => ?_
      refine reserve_bind_within (by omega) fun fits => ?_
      refine bind_within (others _ _ (by omega)) (by omega) fun fits => ?_
      exact pure_within (by omega) _ _

/-- What assembly does alike for both composites with one child, whatever operations
it puts around the block of the child. -/
theorem container_within {child : Shape} (answers : Answers budget mode child)
    (notContainer : Template) (bounds : LengthBounds) (unit : String) (start : Nat) (tables : Tables)
    (around : Nat → Option (LengthBounds × Nat) → Nat → Nat → List Op → List Op) :
    let named := tables.withTemplate notContainer
    let counted := Layout.count bounds unit named.2
    let block := Layout.node mode child (start + 3) counted.2.slots counted.2.withCursor.withSlot
    (do
      let index ← template notContainer
      let length ← count bounds unit
      reserve budget start
      let cursor ← cursor
      reserve budget (start + 1)
      let target ← slot
      reserve budget (start + 2)
      let block ← node mode budget child (start + 3) target
      reserve budget (start + 3 + block.length)
      return around index length cursor target block).run tables =
    within budget (start + (block.1.length + 4))
      (around named.1 counted.1 counted.2.cursors counted.2.slots block.1, block.2) := by
  dsimp only
  refine bind_within (template_within _ tables) (Nat.zero_le _) fun _ => ?_
  refine bind_within (count_within bounds unit _) (Nat.zero_le _) fun _ => ?_
  refine reserve_bind_within (by omega) fun fits => ?_
  refine cursor_bind_within ?_
  refine reserve_bind_within (by omega) fun fits => ?_
  refine slot_bind_within ?_
  rw [Tables.withCursor_slots]
  refine reserve_bind_within (by omega) fun fits => ?_
  refine bind_within (answers (start + 3) _ _ fits) (by omega) fun fits => ?_
  refine reserve_bind_within (by omega) fun fits => ?_
  exact pure_within (by omega) _ _

theorem body_within (form : Form Shape)
    (children : ∀ shape ∈ form.children, Answers budget mode shape) (start slot : Nat)
    (tables : Tables) (room : start ≤ budget) :
    (body mode budget form start slot).run tables =
      within budget (start + (Layout.form mode form start slot tables).1.length)
        (Layout.form mode form start slot tables) := by
  cases form with
  | leaf scalar => exact leaf_within scalar slot tables room
  | object shapes =>
      have fields := fields_within mode shapes fun field member =>
        children field.2 (List.mem_map_of_mem member)
      simp only [body, Layout.form, List.length_cons]
      refine bind_within (template_within _ tables) (Nat.zero_le _) fun _ => ?_
      refine reserve_bind_within (by omega) fun fits => ?_
      refine bind_within (fields slot _ _ fits) (by omega) fun fits => ?_
      exact pure_within (by omega) _ _
  | array item length =>
      have answers := container_within mode (children item List.mem_cons_self) .notArray length "items"
        start tables fun notArray length cursor target block =>
          .array slot notArray length (start + 4 + block.length) :: .items slot cursor ::
            .next slot cursor target (start + 4 + block.length) :: block ++ [.jump (start + 2)]
      simp only [body, Layout.form, List.length_append, List.length_cons, List.length_nil]
      exact answers
  | tuple shapes =>
      have positions := positions_within mode shapes children
      simp only [body, Layout.form, List.length_cons]
      refine bind_within (template_within _ tables) (Nat.zero_le _) fun _ => ?_
      refine bind_within (template_within _ _) (Nat.zero_le _) fun _ => ?_
      refine reserve_bind_within (by omega) fun fits => ?_
      refine bind_within (positions slot 0 _ _ fits) (by omega) fun fits => ?_
      exact pure_within (by omega) _ _
  | record value keys =>
      have answers := container_within mode (children value List.mem_cons_self) .notObject keys "keys"
        start tables fun notObject keys cursor target block =>
          .record slot notObject keys (start + 4 + block.length) :: .entries slot cursor ::
            .next slot cursor target (start + 4 + block.length) :: block ++ [.jump (start + 2)]
      simp only [body, Layout.form, List.length_append, List.length_cons, List.length_nil]
      exact answers
  | union shapes =>
      have alternatives := alternatives_within mode shapes children
      simp only [body, Layout.form, List.length_append, List.length_cons, List.length_nil,
        layAlternatives_length]
      refine bind_within (template_within _ tables) (Nat.zero_le _) fun _ => ?_
      refine reserve_bind_within (by omega) fun fits => ?_
      refine bind_within (alternatives slot _ _ fits) (by omega) fun fits => ?_
      refine reserve_bind_within (by omega) fun fits => ?_
      exact pure_within (by omega) _ _

/-- Assembly is refused exactly if the layout ends beyond the budget, and answers
the layout otherwise. -/
theorem node_within (shape : Shape) : Answers budget mode shape := by
  induction shape using Shape.induction with
  | node header form inductionHypothesis =>
      intro start slot tables room
      simp only [node, Layout.node, List.length_cons]
      refine bind_within (template_within _ tables) (Nat.zero_le _) fun _ => ?_
      refine reserve_bind_within (by omega) fun fits => ?_
      refine bind_within (body_within mode form inductionHypothesis _ slot _ fits) (by omega)
        fun fits => ?_
      exact pure_within (by omega) _ _

end Assembler

/-! ## The size of a layout -/

mutual

/-- The count of operations of a tree. -/
def Shape.opCount : Shape → Nat
  | .node _ form => 1 + Form.opCount form

/-- The count of operations of a form behind its gate.  The leaf that accepts
everything has none. -/
def Form.opCount : Form Shape → Nat
  | .leaf scalar => if scalar = .unknown then 0 else 1
  | .object fields => 1 + Shape.fieldOpCount fields
  | .array item _ => 4 + Shape.opCount item
  | .tuple items => 1 + Shape.itemOpCount items
  | .record value _ => 4 + Shape.opCount value
  | .union alternatives => 2 + Shape.alternativeOpCount alternatives

/-- Each field is loaded by one operation. -/
def Shape.fieldOpCount : List (String × Shape) → Nat
  | [] => 0
  | (_, shape) :: rest => 1 + Shape.opCount shape + Shape.fieldOpCount rest

/-- Each position is loaded by one operation. -/
def Shape.itemOpCount : List Shape → Nat
  | [] => 0
  | shape :: rest => 1 + Shape.opCount shape + Shape.itemOpCount rest

/-- Each alternative stands between two operations. -/
def Shape.alternativeOpCount : List Shape → Nat
  | [] => 0
  | shape :: rest => 2 + Shape.opCount shape + Shape.alternativeOpCount rest

end

namespace Layout

/-- A tree whose layout has as many operations as the tree counts. -/
def Counted (mode : UnionMode) (shape : Shape) : Prop :=
  ∀ start slot tables, (node mode shape start slot tables).1.length = shape.opCount

theorem leaf_length (slot : Nat) (scalar : Leaf) (tables : Tables) :
    (leaf slot scalar tables).1.length = if scalar = .unknown then 0 else 1 := by
  cases scalar with
  | timestamp format => cases format <;> rfl
  | _ => rfl

variable {mode : UnionMode}

theorem fields_length (shapes : List (String × Shape))
    (children : ∀ field ∈ shapes, Counted mode field.2) (source : Nat) : ∀ start tables,
    (fields mode shapes start source tables).1.length = Shape.fieldOpCount shapes := by
  induction shapes with
  | nil =>
      intro start tables
      rfl
  | cons field rest inductionHypothesis =>
      intro start tables
      rcases field with ⟨key, shape⟩
      have first : Counted mode shape := children (key, shape) List.mem_cons_self
      have others := inductionHypothesis fun field member => children field (List.mem_cons_of_mem _ member)
      simp only [fields, List.length_append, List.length_cons, first _ _ _, others, Shape.fieldOpCount]
      omega

theorem positions_length (shapes : List Shape) (children : ∀ shape ∈ shapes, Counted mode shape)
    (source : Nat) : ∀ position start tables,
    (positions mode shapes position start source tables).1.length = Shape.itemOpCount shapes := by
  induction shapes with
  | nil =>
      intro position start tables
      rfl
  | cons shape rest inductionHypothesis =>
      intro position start tables
      have first := children shape List.mem_cons_self
      have others := inductionHypothesis fun shape member => children shape (List.mem_cons_of_mem _ member)
      simp only [positions, List.length_append, List.length_cons, first _ _ _, others, Shape.itemOpCount]
      omega

theorem alternatives_size (shapes : List Shape) (children : ∀ shape ∈ shapes, Counted mode shape)
    (slot : Nat) : ∀ start tables,
    Assembler.sizeAlternatives (alternatives mode shapes start slot tables).1 =
      Shape.alternativeOpCount shapes := by
  induction shapes with
  | nil =>
      intro start tables
      rfl
  | cons shape rest inductionHypothesis =>
      intro start tables
      have first := children shape List.mem_cons_self
      have others := inductionHypothesis fun shape member => children shape (List.mem_cons_of_mem _ member)
      simp only [alternatives, Assembler.sizeAlternatives, first _ _ _, others, Shape.alternativeOpCount]
      omega

theorem form_length (shapes : Form Shape) (children : ∀ shape ∈ shapes.children, Counted mode shape)
    (start slot : Nat) (tables : Tables) :
    (form mode shapes start slot tables).1.length = shapes.opCount := by
  cases shapes with
  | leaf scalar => exact leaf_length slot scalar tables
  | object shapes =>
      have inside := fields_length shapes fun field member => children field.2 (List.mem_map_of_mem member)
      simp only [form, List.length_cons, inside, Form.opCount, Nat.add_comm]
  | array item length =>
      have inside := children item List.mem_cons_self
      simp only [form, List.length_append, List.length_cons, List.length_nil, inside _ _ _, Form.opCount]
      omega
  | tuple shapes =>
      have inside := positions_length shapes children
      simp only [form, List.length_cons, inside, Form.opCount, Nat.add_comm]
  | record value keys =>
      have inside := children value List.mem_cons_self
      simp only [form, List.length_append, List.length_cons, List.length_nil, inside _ _ _, Form.opCount]
      omega
  | union shapes =>
      have inside := alternatives_size shapes children
      simp only [form, List.length_append, List.length_cons, List.length_nil,
        Assembler.layAlternatives_length, inside, Form.opCount]
      omega

theorem node_length (shape : Shape) : Counted mode shape := by
  induction shape using Shape.induction with
  | node header shapes inductionHypothesis =>
      intro start slot tables
      simp only [node, List.length_cons, form_length shapes inductionHypothesis, Shape.opCount,
        Nat.add_comm]

end Layout

namespace Schema

/-- The layout of a whole schema as a program. -/
def layout (schema : Schema) (mode : UnionMode) : Program :=
  let (ops, tables) := Layout.node mode schema.rootShape 0 0 .initial
  ⟨ops.toArray, tables.templates, tables.strings, tables.patterns, tables.slots, tables.cursors⟩

theorem layout_size (schema : Schema) (mode : UnionMode) :
    (schema.layout mode).size = schema.rootShape.opCount :=
  Layout.node_length schema.rootShape 0 0 .initial

/-- Assembly answers the layout of the schema or is refused, as the budget says. -/
theorem assemble_eq (schema : Schema) (mode : UnionMode) (budget : Nat) :
    schema.assemble mode budget =
      if (schema.layout mode).size ≤ budget then .ok (schema.layout mode) else .error ⟨budget⟩ := by
  have answers := Assembler.node_within mode schema.rootShape 0 0 .initial (Nat.zero_le budget)
  rw [assemble, answers, within, Nat.zero_add]
  have size : (schema.layout mode).size =
      (Layout.node mode schema.rootShape 0 0 .initial).1.length := rfl
  rw [size]
  by_cases fits : (Layout.node mode schema.rootShape 0 0 .initial).1.length ≤ budget
  · rw [if_pos fits, if_pos fits]
    rfl
  · rw [if_neg fits, if_neg fits]
    rfl

theorem layout_of_assemble {schema : Schema} {mode : UnionMode} {budget : Nat} {program : Program}
    (assembled : schema.assemble mode budget = .ok program) : program = schema.layout mode := by
  rw [assemble_eq] at assembled
  by_cases fits : (schema.layout mode).size ≤ budget
  · rw [if_pos fits] at assembled
    exact (Except.ok.inj assembled).symm
  · rw [if_neg fits] at assembled
    cases assembled

end Schema
end Conformance
