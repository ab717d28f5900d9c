import Conformance.Proofs.Program.Layout

namespace Conformance

/-!
# Tables only grow

A block refers to templates, strings and patterns by their indices, and blocks that
are laid out later add to the same tables.  An index keeps its meaning through all
of that, and numbers of slots and cursors are handed out once.
-/

/-- Every entry of a table has its index in a later table too. -/
def Keeps {Entry : Type} (table later : Array Entry) : Prop :=
  ∀ (index : Nat) (entry : Entry), table[index]? = some entry → later[index]? = some entry

theorem Keeps.refl {Entry : Type} (table : Array Entry) : Keeps table table :=
  fun _ _ listed => listed

theorem Keeps.trans {Entry : Type} {first second third : Array Entry} (before : Keeps first second)
    (after : Keeps second third) : Keeps first third :=
  fun index entry listed => after index entry (before index entry listed)

theorem keeps_push {Entry : Type} (table : Array Entry) (entry : Entry) :
    Keeps table (table.push entry) := by
  intro index other listed
  have early := (Array.getElem?_eq_some_iff.mp listed).1
  rwa [Array.getElem?_push, if_neg (Nat.ne_of_lt early)]

section

variable {Entry : Type} [BEq Entry] [LawfulBEq Entry] (table : Array Entry) (entry : Entry)

/-- An entry is found at the index it is given. -/
theorem intern_finds : (intern table entry).2[(intern table entry).1]? = some entry := by
  rw [intern]
  cases found : table.idxOf? entry with
  | none => exact Array.getElem?_push_size
  | some index =>
      rw [Array.idxOf?_eq_map_finIdxOf?_val, Option.map_eq_some_iff] at found
      rcases found with ⟨position, located, equal⟩
      have here := (Array.finIdxOf?_eq_some_iff.mp located).1
      rw [← equal, Array.getElem?_eq_getElem position.isLt]
      exact congrArg some here

omit [LawfulBEq Entry] in
theorem intern_keeps : Keeps table (intern table entry).2 := by
  rw [intern]
  cases table.idxOf? entry with
  | none => exact keeps_push table entry
  | some _ => exact Keeps.refl table

end

namespace Tables

/-- Tables that lose nothing: indices keep their meaning, and slots and cursors
are only added. -/
structure Grows (before after : Tables) : Prop where
  templates : Keeps before.templates after.templates
  strings : Keeps before.strings after.strings
  patterns : Keeps before.patterns after.patterns
  slots : before.slots ≤ after.slots
  cursors : before.cursors ≤ after.cursors

namespace Grows

theorem refl (tables : Tables) : Grows tables tables :=
  ⟨Keeps.refl _, Keeps.refl _, Keeps.refl _, Nat.le_refl _, Nat.le_refl _⟩

theorem trans {first second third : Tables} (before : Grows first second)
    (after : Grows second third) : Grows first third where
  templates := before.templates.trans after.templates
  strings := before.strings.trans after.strings
  patterns := before.patterns.trans after.patterns
  slots := Nat.le_trans before.slots after.slots
  cursors := Nat.le_trans before.cursors after.cursors

end Grows

variable (tables : Tables)

theorem withTemplate_grows (entry : Template) : Grows tables (tables.withTemplate entry).2 :=
  { Grows.refl tables with templates := intern_keeps tables.templates entry }

theorem withString_grows (entry : String) : Grows tables (tables.withString entry).2 :=
  { Grows.refl tables with strings := intern_keeps tables.strings entry }

theorem withPattern_grows (entry : Pattern) : Grows tables (tables.withPattern entry).2 :=
  { Grows.refl tables with patterns := keeps_push tables.patterns entry }

theorem withSlot_grows : Grows tables tables.withSlot :=
  { Grows.refl tables with slots := Nat.le_succ tables.slots }

theorem withCursor_grows : Grows tables tables.withCursor :=
  { Grows.refl tables with cursors := Nat.le_succ tables.cursors }

theorem withTemplate_finds (entry : Template) :
    (tables.withTemplate entry).2.templates[(tables.withTemplate entry).1]? = some entry :=
  intern_finds tables.templates entry

theorem withString_finds (entry : String) :
    (tables.withString entry).2.strings[(tables.withString entry).1]? = some entry :=
  intern_finds tables.strings entry

theorem withPattern_finds (entry : Pattern) :
    (tables.withPattern entry).2.patterns[(tables.withPattern entry).1]? = some entry :=
  Array.getElem?_push_size

end Tables

namespace Layout

theorem count_grows (bounds : LengthBounds) (unit : String) (tables : Tables) :
    tables.Grows (count bounds unit tables).2 := by
  rw [count]
  by_cases unbounded : bounds.isUnbounded = true
  · rw [if_pos unbounded]
    exact .refl tables
  · rw [if_neg unbounded]
    exact tables.withTemplate_grows _

theorem constraint_grows (scalar : Leaf) (tables : Tables) :
    tables.Grows (constraint scalar tables).2 := by
  rw [constraint]
  cases scalar.template? .constraint with
  | none => exact .refl tables
  | some entry =>
      by_cases counts : scalar.countsWith .binding = true
      · simp only [if_pos counts]
        exact tables.withTemplate_grows entry
      · simp only [if_neg counts]
        exact .refl tables

theorem leafTest_grows (scalar : Leaf) (tables : Tables) :
    tables.Grows (leafTest scalar tables).2 := by
  cases scalar with
  | exact expected => exact tables.withString_grows expected
  | pattern expected => exact tables.withPattern_grows expected
  | _ => exact .refl tables

theorem leaf_grows (slot : Nat) (scalar : Leaf) (tables : Tables) :
    tables.Grows (leaf slot scalar tables).2 := by
  rw [leaf]
  cases scalar.template? .wrongType with
  | none => exact .refl tables
  | some entry =>
      have grown := ((tables.withTemplate_grows entry).trans (constraint_grows scalar _)).trans
        (leafTest_grows scalar _)
      simp only
      cases made : leafTest scalar (constraint scalar (tables.withTemplate entry).2).2 with
      | mk test after =>
          rw [made] at grown
          cases test with
          | none => exact grown
          | some test => exact grown

variable (mode : UnionMode)

theorem fields_grows (shapes : List (String × Shape))
    (children : ∀ field ∈ shapes, ∀ start slot tables,
      Tables.Grows tables (node mode field.2 start slot tables).2) (source : Nat) :
    ∀ start tables, Tables.Grows tables (fields mode shapes start source tables).2 := by
  induction shapes with
  | nil =>
      intro start tables
      exact .refl tables
  | cons field rest inductionHypothesis =>
      intro start tables
      have others := inductionHypothesis fun field member => children field (List.mem_cons_of_mem _ member)
      rcases field with ⟨key, shape⟩
      have named := tables.withSlot_grows.trans (tables.withSlot.withString_grows key)
      have first := children (key, shape) List.mem_cons_self (start + 1) tables.slots
        (tables.withSlot.withString key).2
      exact (named.trans first).trans (others _ _)

theorem positions_grows (shapes : List Shape)
    (children : ∀ shape ∈ shapes, ∀ start slot tables,
      Tables.Grows tables (node mode shape start slot tables).2) (source : Nat) :
    ∀ position start tables,
      Tables.Grows tables (positions mode shapes position start source tables).2 := by
  induction shapes with
  | nil =>
      intro position start tables
      exact .refl tables
  | cons shape rest inductionHypothesis =>
      intro position start tables
      have others := inductionHypothesis fun shape member => children shape (List.mem_cons_of_mem _ member)
      have first := children shape List.mem_cons_self (start + 1) tables.slots tables.withSlot
      exact (tables.withSlot_grows.trans first).trans (others _ _ _)

theorem alternatives_grows (shapes : List Shape)
    (children : ∀ shape ∈ shapes, ∀ start slot tables,
      Tables.Grows tables (node mode shape start slot tables).2) (slot : Nat) :
    ∀ start tables, Tables.Grows tables (alternatives mode shapes start slot tables).2 := by
  induction shapes with
  | nil =>
      intro start tables
      exact .refl tables
  | cons shape rest inductionHypothesis =>
      intro start tables
      have others := inductionHypothesis fun shape member => children shape (List.mem_cons_of_mem _ member)
      exact (children shape List.mem_cons_self (start + 1) slot tables).trans (others _ _)

theorem form_grows (shapes : Form Shape)
    (children : ∀ shape ∈ shapes.children, ∀ start slot tables,
      Tables.Grows tables (node mode shape start slot tables).2) (start slot : Nat) (tables : Tables) :
    Tables.Grows tables (form mode shapes start slot tables).2 := by
  cases shapes with
  | leaf scalar => exact leaf_grows slot scalar tables
  | object shapes =>
      have below := fields_grows mode shapes fun field member =>
        children field.2 (List.mem_map_of_mem member)
      exact (tables.withTemplate_grows _).trans (below slot _ _)
  | array item length =>
      have counted := (tables.withTemplate_grows .notArray).trans (count_grows length "items" _)
      have loop := (counted.trans (Tables.withCursor_grows _)).trans (Tables.withSlot_grows _)
      exact loop.trans (children item List.mem_cons_self _ _ _)
  | tuple shapes =>
      have noted := (tables.withTemplate_grows .notArray).trans
        (Tables.withTemplate_grows _ (.tupleArity shapes.length))
      exact noted.trans (positions_grows mode shapes children slot _ _ _)
  | record value keys =>
      have counted := (tables.withTemplate_grows .notObject).trans (count_grows keys "keys" _)
      have loop := (counted.trans (Tables.withCursor_grows _)).trans (Tables.withSlot_grows _)
      exact loop.trans (children value List.mem_cons_self _ _ _)
  | union shapes =>
      exact (tables.withTemplate_grows _).trans (alternatives_grows mode shapes children slot _ _)

/-- A layout adds to the tables it is given. -/
theorem node_grows (shape : Shape) : ∀ start slot tables,
    Tables.Grows tables (node mode shape start slot tables).2 := by
  induction shape using Shape.induction with
  | node header shapes inductionHypothesis =>
      intro start slot tables
      exact (tables.withTemplate_grows _).trans
        (form_grows mode shapes inductionHypothesis (start + 1) slot _)

end Layout
end Conformance
