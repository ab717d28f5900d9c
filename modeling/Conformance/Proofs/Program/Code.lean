import Conformance.Proofs.Program.Nesting
import Conformance.Proofs.Program.Operands

namespace Conformance

/-!
# The grammar of code

The blocks of all shapes are put together in a few ways.  An operation looks at the slot of its block
or leaps out of it, a value is loaded into a new slot and checked there by a block of its own, a loop
does this with one value after another, and blocks follow each other.  A leap leads to the exit of
the code in which it stands, and the code behind a leap may be all there is up to that exit.  So an
object, a union with its alternatives and the gate of a node are the same to the grammar.

What is said of code has to be shown for these few ways only.
-/

namespace Op

/-- The slot that an operation reads.  It is the first one that the operation names. -/
def read? (op : Op) : Option Nat := op.slots.head?

/-- The slot that an operation loads a value into. -/
def written? (op : Op) : Option Nat := op.link?.map Prod.snd

/-- Where an operation leads over what follows it. -/
def leap? : Op → Option Nat
  | .gate _ _ _ _ _ target | .object _ _ target | .array _ _ _ target | .tuple _ _ _ _ target
  | .record _ _ _ target | .next _ _ _ target | .openAlternative target | .closeAlternative target =>
      some target
  | _ => none

/-- The slot and the cursor of a loop that an operation starts. -/
def sweep? : Op → Option (Nat × Nat)
  | .items source cursor | .entries source cursor => some (source, cursor)
  | _ => none

/-- An operation that has no part in loading values and in loops. -/
structure Stays (slot : Nat) (op : Op) : Prop where
  read : op.read? = none ∨ op.read? = some slot
  unlinked : op.link? = none
  unswept : op.sweep? = none
  ahead : ∀ target, op ≠ .jump target

end Op

/-- The counts of slots and cursors that were handed out. -/
structure Counts where
  slots : Nat
  cursors : Nat

namespace Counts

/-- A new slot. -/
def withSlot (counts : Counts) : Counts := { counts with slots := counts.slots + 1 }

/-- A new cursor. -/
def withCursor (counts : Counts) : Counts := { counts with cursors := counts.cursors + 1 }

end Counts

/-- The counts of some tables. -/
def Tables.counts (tables : Tables) : Counts := ⟨tables.slots, tables.cursors⟩

/-- A loop from its beginning to the jump back to its head.  The head loads the next part of the value
and leads behind the loop after the last one. -/
def loopBlock (sweep : Op) (start slot cursor target : Nat) (block : List Op) : List Op :=
  sweep :: .next slot cursor target (start + 2 + block.length + 1) :: block ++ [.jump (start + 1)]

theorem add_length_loopBlock (sweep : Op) (start slot cursor target : Nat) (block : List Op) :
    start + (loopBlock sweep start slot cursor target block).length =
      start + 2 + block.length + 1 := by
  simp only [loopBlock, List.length_append, List.length_cons, List.length_nil]
  omega

/-- Code that starts at a position and reads a slot.  It leaps to its exit if it leaves its end out,
and takes the counts from what they were to what they are behind it. -/
inductive Code : (exit start slot : Nat) → Counts → List Op → Counts → Prop where
  | nothing {exit start slot : Nat} {counts : Counts} : Code exit start slot counts [] counts
  | single {exit start slot : Nat} {counts : Counts} {op : Op} (stays : op.Stays slot)
      (leaps : ∀ target, op.leap? = some target → target = exit ∧ start < exit) :
      Code exit start slot counts [op] counts
  | append {exit start slot : Nat} {before between after : Counts} {first second : List Op}
      (early : Code exit start slot before first between)
      (late : Code exit (start + first.length) slot between second after) :
      Code exit start slot before (first ++ second) after
  | closed {exit start slot : Nat} {before after : Counts} {block : List Op}
      (inner : Code (start + block.length) start slot before block after) :
      Code exit start slot before block after
  | child {exit start slot : Nat} {before after : Counts} {op : Op} {block : List Op}
      (loads : op.link? = some (slot, before.slots)) (straight : op.leap? = none)
      (inner : Code exit (start + 1) before.slots before.withSlot block after) :
      Code exit start slot before (op :: block) after
  | loop {exit start slot : Nat} {before after : Counts} {sweep : Op} {block : List Op}
      (sweeps : sweep.sweep? = some (slot, before.cursors))
      (inner : Code (start + 2 + block.length + 1) (start + 2) before.slots
        before.withCursor.withSlot block after) :
      Code exit start slot before
        (loopBlock sweep start slot before.cursors before.slots block) after

namespace Code

variable {exit start slot : Nat} {before between after : Counts} {op : Op} {block others : List Op}

theorem look {counts : Counts} (stays : op.Stays slot) (straight : op.leap? = none) :
    Code exit start slot counts [op] counts := by
  refine .single stays fun target leaps => ?_
  cases straight.symm.trans leaps

theorem leap {counts : Counts} (stays : op.Stays slot) (leaps : op.leap? = some exit)
    (later : start < exit) : Code exit start slot counts [op] counts :=
  .single stays fun _ leapsToo => ⟨Option.some.inj (leapsToo.symm.trans leaps), later⟩

/-- A block behind an operation that leaps over it. -/
theorem guarded (stays : op.Stays slot) (leaps : op.leap? = some (start + 1 + block.length))
    (inner : Code (start + 1 + block.length) (start + 1) slot before block after) :
    Code exit start slot before (op :: block) after := by
  have leap : Code (start + 1 + block.length) start slot before [op] before :=
    .leap stays leaps (by omega)
  have whole := leap.append inner
  rw [List.singleton_append, ← Program.add_length_cons start op block] at whole
  exact .closed whole

/-- A block for a value that is loaded, and what follows it. -/
theorem child_append (loads : op.link? = some (slot, before.slots)) (straight : op.leap? = none)
    (inner : Code exit (start + 1) before.slots before.withSlot block between)
    (rest : Code exit (start + 1 + block.length) slot between others after) :
    Code exit start slot before (op :: block ++ others) after := by
  refine (child loads straight inner).append ?_
  rw [Program.add_length_cons]
  exact rest

/-- A block between the operations of an alternative, and what follows it. -/
theorem alternative_append (inner : Code (start + 1 + block.length) (start + 1) slot before block between)
    (inside : start + 1 + block.length < exit)
    (rest : Code exit (start + 1 + block.length + 1) slot between others after) :
    Code exit start slot before
      (.openAlternative (start + 1 + block.length) :: block ++ .closeAlternative exit :: others) after := by
  have opened : Code exit start slot before (.openAlternative (start + 1 + block.length) :: block)
      between := .guarded ⟨.inl rfl, rfl, rfl, nofun⟩ rfl inner
  have leaves : Code exit (start + 1 + block.length) slot between [.closeAlternative exit] between :=
    .leap ⟨.inl rfl, rfl, rfl, nofun⟩ rfl inside
  refine opened.append ?_
  rw [Program.add_length_cons]
  exact leaves.append rest

/-- A loop behind an operation that leaps over it. -/
theorem guarded_loop {sweep : Op} (stays : op.Stays slot)
    (leaps : op.leap? = some (start + 4 + block.length))
    (sweeps : sweep.sweep? = some (slot, before.cursors))
    (inner : Code (start + 4 + block.length) (start + 3) before.slots before.withCursor.withSlot block
      after) :
    Code exit start slot before (op :: sweep ::
      .next slot before.cursors before.slots (start + 4 + block.length) :: block ++ [.jump (start + 2)])
      after := by
  have place : start + 4 + block.length = start + 1 + 2 + block.length + 1 := by omega
  rw [place] at leaps inner ⊢
  have body : Code (start + 1 + 2 + block.length + 1) (start + 1) slot before
      (loopBlock sweep (start + 1) slot before.cursors before.slots block) after := .loop sweeps inner
  rw [← add_length_loopBlock sweep (start + 1) slot before.cursors before.slots] at leaps body
  exact guarded stays leaps body

/-- A union around its alternatives, which leap behind it. -/
theorem union {synthesized : Bool} {mismatch finish : Nat} (ends : start + 1 + block.length + 1 = finish)
    (inner : Code finish (start + 1) slot before block after) :
    Code exit start slot before (.openUnion synthesized :: block ++ [.closeUnion slot mismatch])
      after := by
  have opened : Code finish start slot before [.openUnion synthesized] before :=
    .look ⟨.inl rfl, rfl, rfl, nofun⟩ rfl
  have last : Code finish (start + 1 + block.length) slot after [.closeUnion slot mismatch] after :=
    .look ⟨.inr rfl, rfl, rfl, nofun⟩ rfl
  have whole := opened.append (inner.append last)
  have size : finish = start + ([Op.openUnion synthesized] ++
      (block ++ [Op.closeUnion slot mismatch])).length := by
    simp only [List.length_append, List.length_cons, List.length_nil]
    omega
  rw [size] at whole
  exact .closed whole

end Code

namespace Layout

/-! ## Layouts are code -/

theorem count_counts (bounds : LengthBounds) (unit : String) (tables : Tables) :
    (count bounds unit tables).2.counts = tables.counts := by
  rw [count]
  split <;> rfl

theorem leaf_counts (slot : Nat) (scalar : Leaf) (tables : Tables) :
    (leaf slot scalar tables).2.counts = tables.counts := by
  have constrained : ∀ tables, (constraint scalar tables).2.counts = tables.counts := by
    intro tables
    rw [constraint]
    cases scalar.template? .constraint with
    | none => rfl
    | some entry => cases scalar.countsWith .binding <;> rfl
  have tested : ∀ tables, (leafTest scalar tables).2.counts = tables.counts := by
    intro tables
    cases scalar <;> rfl
  rcases leaf_cases slot scalar tables with ⟨_, empty⟩ | ⟨entry, _, _, _, single⟩
  · rw [empty]
  · rw [single, tested, constrained]
    rfl

/-- The block of a tree is code wherever it is laid out. -/
def Coded (mode : UnionMode) (shape : Shape) : Prop :=
  ∀ exit start slot tables, Code exit start slot tables.counts (node mode shape start slot tables).1
    (node mode shape start slot tables).2.counts

variable {mode : UnionMode}

theorem leaf_code (exit start slot : Nat) (scalar : Leaf) (tables : Tables) :
    Code exit start slot tables.counts (leaf slot scalar tables).1
      (leaf slot scalar tables).2.counts := by
  rw [leaf_counts]
  rcases leaf_cases slot scalar tables with ⟨_, empty⟩ | ⟨_, _, _, _, single⟩
  · rw [empty]
    exact .nothing
  · rw [single]
    exact .look ⟨.inr rfl, rfl, rfl, nofun⟩ rfl

theorem fields_code (shapes : List (String × Shape)) (children : ∀ field ∈ shapes, Coded mode field.2)
    (exit slot : Nat) : ∀ start tables,
      Code exit start slot tables.counts (fields mode shapes start slot tables).1
        (fields mode shapes start slot tables).2.counts := by
  induction shapes with
  | nil => exact fun _ _ => .nothing
  | cons field rest inductionHypothesis =>
      intro start tables
      rcases field with ⟨key, shape⟩
      have first := children (key, shape) List.mem_cons_self exit (start + 1) tables.slots
        (tables.withSlot.withString key).2
      have others := inductionHypothesis fun field member => children field (List.mem_cons_of_mem _ member)
      exact .child_append rfl rfl first (others _ _)

theorem positions_code (shapes : List Shape) (children : ∀ shape ∈ shapes, Coded mode shape)
    (exit slot : Nat) : ∀ position start tables,
      Code exit start slot tables.counts (positions mode shapes position start slot tables).1
        (positions mode shapes position start slot tables).2.counts := by
  induction shapes with
  | nil => exact fun _ _ _ => .nothing
  | cons shape rest inductionHypothesis =>
      intro position start tables
      have first := children shape List.mem_cons_self exit (start + 1) tables.slots tables.withSlot
      have others := inductionHypothesis fun shape member => children shape (List.mem_cons_of_mem _ member)
      exact .child_append rfl rfl first (others _ _ _)

/-- The alternatives of a union leap behind the union where they are closed. -/
theorem alternatives_code (shapes : List Shape) (children : ∀ shape ∈ shapes, Coded mode shape)
    {exit slot : Nat} : ∀ start tables,
      start + Assembler.sizeAlternatives (alternatives mode shapes start slot tables).1 < exit →
      Code exit start slot tables.counts
        (Assembler.layAlternatives exit start (alternatives mode shapes start slot tables).1)
        (alternatives mode shapes start slot tables).2.counts := by
  induction shapes with
  | nil => exact fun _ _ _ => .nothing
  | cons shape rest inductionHypothesis =>
      intro start tables inside
      let block := node mode shape (start + 1) slot tables
      let remaining := alternatives mode rest (start + 2 + block.1.length) slot block.2
      have size : Assembler.sizeAlternatives (alternatives mode (shape :: rest) start slot tables).1 =
          block.1.length + 2 + Assembler.sizeAlternatives remaining.1 := rfl
      have behind : start + 2 + block.1.length + Assembler.sizeAlternatives remaining.1 < exit := by omega
      have room : start + 1 + block.1.length < exit := by omega
      have first : Code (start + 1 + block.1.length) (start + 1) slot tables.counts block.1
          block.2.counts := children shape List.mem_cons_self _ _ _ _
      have others : Code exit (start + 2 + block.1.length) slot block.2.counts
          (Assembler.layAlternatives exit (start + 2 + block.1.length) remaining.1)
          remaining.2.counts :=
        inductionHypothesis (fun shape member => children shape (List.mem_cons_of_mem _ member)) _ _
          behind
      have place : start + 2 + block.1.length = start + 1 + block.1.length + 1 := by omega
      rw [place] at others
      exact .alternative_append first room others

/-- A loop behind an operation that leaps over it.  The entries that the operation needs were added to
the tables before, which leaves the counts as they were. -/
theorem loop_code {child : Shape} (coded : Coded mode child) {exit start slot : Nat}
    {tables counted : Tables} {op sweep : Op} (counts : counted.counts = tables.counts)
    (stays : op.Stays slot)
    (leaps : op.leap? = some (start + 4 +
      (node mode child (start + 3) counted.slots counted.withCursor.withSlot).1.length))
    (sweeps : sweep.sweep? = some (slot, counted.cursors)) :
    Code exit start slot tables.counts
      (op :: sweep :: .next slot counted.cursors counted.slots (start + 4 +
          (node mode child (start + 3) counted.slots counted.withCursor.withSlot).1.length) ::
        (node mode child (start + 3) counted.slots counted.withCursor.withSlot).1 ++ [.jump (start + 2)])
      (node mode child (start + 3) counted.slots counted.withCursor.withSlot).2.counts := by
  rw [← counts]
  have inner := coded (start + 4 +
      (node mode child (start + 3) counted.slots counted.withCursor.withSlot).1.length)
    (start + 3) counted.slots counted.withCursor.withSlot
  exact .guarded_loop stays leaps sweeps inner

theorem form_code {shapes : Form Shape} (children : ∀ shape ∈ shapes.children, Coded mode shape)
    (exit start slot : Nat) (tables : Tables) :
    Code exit start slot tables.counts (form mode shapes start slot tables).1
      (form mode shapes start slot tables).2.counts := by
  cases shapes with
  | leaf scalar => exact leaf_code exit start slot scalar tables
  | object shapes =>
      let noted := tables.withTemplate .notObject
      have inner := fields_code shapes (fun field member => children field.2 (List.mem_map_of_mem member))
        (start + 1 + (fields mode shapes (start + 1) slot noted.2).1.length) slot (start + 1) noted.2
      exact .guarded ⟨.inr rfl, rfl, rfl, nofun⟩ rfl inner
  | array item length =>
      exact loop_code (children item List.mem_cons_self)
        (count_counts length "items" (tables.withTemplate .notArray).2)
        ⟨.inr rfl, rfl, rfl, nofun⟩ rfl rfl
  | tuple shapes =>
      let counted := (tables.withTemplate .notArray).2.withTemplate (.tupleArity shapes.length)
      have inner := positions_code shapes children
        (start + 1 + (positions mode shapes 0 (start + 1) slot counted.2).1.length) slot 0 (start + 1)
        counted.2
      exact .guarded ⟨.inr rfl, rfl, rfl, nofun⟩ rfl inner
  | record value keys =>
      exact loop_code (children value List.mem_cons_self)
        (count_counts keys "keys" (tables.withTemplate .notObject).2)
        ⟨.inr rfl, rfl, rfl, nofun⟩ rfl rfl
  | union shapes =>
      let noted := tables.withTemplate (.unionMismatch shapes.length)
      let blocks := alternatives mode shapes (start + 1) slot noted.2
      have inner := alternatives_code shapes children (start + 1) noted.2
        (Nat.lt_succ_self (start + 1 + Assembler.sizeAlternatives blocks.1))
      have size := Assembler.layAlternatives_length
        (start + 1 + Assembler.sizeAlternatives blocks.1 + 1) blocks.1 (start + 1)
      exact .union (congrArg (start + 1 + · + 1) size) inner

/-- The layout of a tree is code. -/
theorem node_code (shape : Shape) : Coded mode shape := by
  induction shape using Shape.induction with
  | node header shapes inductionHypothesis =>
      intro exit start slot tables
      let named := tables.withTemplate .required
      have inner := form_code inductionHypothesis
        (start + 1 + (form mode shapes (start + 1) slot named.2).1.length) (start + 1) slot named.2
      exact .guarded ⟨.inr rfl, rfl, rfl, nofun⟩ rfl inner

end Layout
end Conformance
