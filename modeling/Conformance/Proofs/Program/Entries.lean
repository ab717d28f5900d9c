import Conformance.Proofs.Program.Growth
import Conformance.Proofs.Program.Operands
import Mathlib.Data.List.Induction
import Mathlib.Data.List.Nodup

namespace Conformance

/-!
# What the tables list

A tree needs templates and strings in the order of a walk from its root: each node first needs what
it can report or compare with itself, and then comes what its children need.  A union needs the
report of its mismatch before anything of its alternatives, although the operation that makes the
report stands behind all of them.

The tables list what the tree needs and nothing else, every entry where it is needed first and once
only, and there is an operation for everything that is needed.
-/

/-- What a node needs to have in a table. -/
inductive Need where
  | template (entry : Template)
  | string (entry : String)

namespace Need

/-- The template that is needed. -/
def template? : Need → Option Template
  | .template entry => some entry
  | .string _ => none

/-- The string that is needed. -/
def string? : Need → Option String
  | .template _ => none
  | .string entry => some entry

theorem template?_eq_some {need : Need} {entry : Template} :
    need.template? = some entry ↔ need = .template entry := by
  cases need <;> simp [template?]

theorem string?_eq_some {need : Need} {entry : String} :
    need.string? = some entry ↔ need = .string entry := by
  cases need <;> simp [string?]

end Need

/-! ## What a tree needs -/

/-- What a count needs: the report of its bounds, if they bind. -/
def LengthBounds.needs (bounds : LengthBounds) (unit : String) : List Need :=
  if bounds.isUnbounded then [] else [.template (.length bounds unit)]

namespace Leaf

/-- The report of the bounds of a leaf, if they bind. -/
def bound? (scalar : Leaf) : Option Template :=
  if scalar.countsWith .binding then scalar.template? .constraint else none

/-- The string that a leaf compares with. -/
def compared? : Leaf → Option String
  | .exact expected => some expected
  | _ => none

/-- What a leaf needs: its reports, and the string that it compares with. -/
def needs (scalar : Leaf) : List Need :=
  match scalar.template? .wrongType with
  | none => []
  | some entry =>
      .template entry :: (scalar.bound?.toList.map .template ++ scalar.compared?.toList.map .string)

end Leaf

mutual

/-- What a tree needs, in the order of the walk. -/
def Shape.needs : Shape → List Need
  | .node _ form => .template .required :: Form.needs form

/-- What a node needs behind its gate. -/
def Form.needs : Form Shape → List Need
  | .leaf scalar => scalar.needs
  | .object fields => .template .notObject :: Shape.fieldNeeds fields
  | .array item length => .template .notArray :: (length.needs "items" ++ Shape.needs item)
  | .tuple items =>
      .template .notArray :: .template (.tupleArity items.length) :: Shape.listNeeds items
  | .record value keys => .template .notObject :: (keys.needs "keys" ++ Shape.needs value)
  | .union alternatives =>
      .template (.unionMismatch alternatives.length) :: Shape.listNeeds alternatives

/-- Each field needs its name. -/
def Shape.fieldNeeds : List (String × Shape) → List Need
  | [] => []
  | (key, shape) :: rest => .string key :: (Shape.needs shape ++ Shape.fieldNeeds rest)

/-- What some trees need, one after another. -/
def Shape.listNeeds : List Shape → List Need
  | [] => []
  | shape :: rest => Shape.needs shape ++ Shape.listNeeds rest

end

/-! ## Tables with entries for needs -/

section

variable {Entry : Type} [BEq Entry] [LawfulBEq Entry]

theorem eraseDups_concat (entries : List Entry) (entry : Entry) :
    (entries ++ [entry]).eraseDups =
      if entry ∈ entries then entries.eraseDups else entries.eraseDups ++ [entry] := by
  rw [List.eraseDups_append]
  by_cases listed : entry ∈ entries
  · simp [List.removeAll, listed]
  · simp [List.removeAll, listed, List.eraseDups_cons]

theorem nodup_eraseDups (entries : List Entry) : entries.eraseDups.Nodup := by
  induction entries using List.reverseRecOn with
  | nil => exact .nil
  | append_singleton entries entry inductionHypothesis =>
      rw [eraseDups_concat]
      split
      case isTrue => exact inductionHypothesis
      case isFalse absent =>
        rw [← List.concat_eq_append]
        exact inductionHypothesis.concat (mt List.mem_eraseDups.mp absent)

/-- An entry is added to a table unless it is listed. -/
theorem intern_toList {table : Array Entry} {entries : List Entry} (entry : Entry)
    (lists : table.toList = entries.eraseDups) :
    (intern table entry).2.toList = (entries ++ [entry]).eraseDups := by
  have listed : entry ∈ table ↔ entry ∈ entries := by
    rw [← Array.mem_toList_iff, lists, List.mem_eraseDups]
  rw [intern, eraseDups_concat]
  cases found : table.idxOf? entry with
  | none =>
      rw [if_neg (mt listed.mpr (Array.idxOf?_eq_none_iff.mp found)), ← lists]
      exact Array.toList_push
  | some index =>
      have present : entry ∈ table := by
        by_contra absent
        cases (Array.idxOf?_eq_none_iff.mpr absent).symm.trans found
      rw [if_pos (listed.mp present)]
      exact lists

end

/-- Tables that list what is needed and nothing else, in its order. -/
structure Lists (tables : Tables) (needs : List Need) : Prop where
  templates : tables.templates.toList = (needs.filterMap Need.template?).eraseDups
  strings : tables.strings.toList = (needs.filterMap Need.string?).eraseDups

/-- An operation that uses the entry for a need. -/
def Op.Cites (tables : Tables) (op : Op) : Need → Prop
  | .template entry => ∃ index ∈ op.templates, tables.templates[index]? = some entry
  | .string entry => ∃ index ∈ op.strings, tables.strings[index]? = some entry

/-- A block that was laid out between two states of the tables and serves some needs: they are listed
behind what was listed before, and some operation uses the entry of each of them, whatever is added
to the tables later on. -/
structure Serves (before after : Tables) (block : List Op) (needs : List Need) : Prop where
  lists : ∀ earlier, Lists before earlier → Lists after (earlier ++ needs)
  cites : ∀ later, after.Grows later → ∀ need ∈ needs, ∃ op ∈ block, op.Cites later need

namespace Serves

variable {before between after : Tables} {block first second : List Op} {needs more : List Need}

theorem nothing (tables : Tables) (block : List Op) : Serves tables tables block [] where
  lists earlier lists := by rwa [List.append_nil]
  cites later grows := List.forall_mem_nil _

theorem append (early : Serves before between first needs) (grows : between.Grows after)
    (late : Serves between after second more) :
    Serves before after (first ++ second) (needs ++ more) where
  lists earlier lists := by
    rw [← List.append_assoc]
    exact late.lists _ (early.lists earlier lists)
  cites later grown := by
    refine List.forall_mem_append.mpr ⟨fun need listed => ?_, fun need listed => ?_⟩
    · rcases early.cites later (grows.trans grown) need listed with ⟨op, member, cites⟩
      exact ⟨op, List.mem_append_left _ member, cites⟩
    · rcases late.cites later grown need listed with ⟨op, member, cites⟩
      exact ⟨op, List.mem_append_right _ member, cites⟩

/-- Whatever else stands around a block. -/
theorem within (serves : Serves before after first needs) (part : first ⊆ block) :
    Serves before after block needs where
  lists := serves.lists
  cites later grown need listed := by
    rcases serves.cites later grown need listed with ⟨op, member, cites⟩
    exact ⟨op, part member, cites⟩

theorem template {entry : Template} {op : Op}
    (reports : (before.withTemplate entry).1 ∈ op.templates) :
    Serves before (before.withTemplate entry).2 [op] [.template entry] where
  lists earlier lists := by
    refine ⟨?_, ?_⟩
    · rw [List.filterMap_append]
      exact intern_toList entry lists.templates
    · rw [List.filterMap_append, List.filterMap_cons_none rfl, List.filterMap_nil, List.append_nil]
      exact lists.strings
  cites later grown := List.forall_mem_singleton.mpr ⟨op, List.mem_singleton_self op, _, reports,
    grown.templates _ _ (before.withTemplate_finds entry)⟩

theorem string {entry : String} {op : Op} (compares : (before.withString entry).1 ∈ op.strings) :
    Serves before (before.withString entry).2 [op] [.string entry] where
  lists earlier lists := by
    refine ⟨?_, ?_⟩
    · rw [List.filterMap_append, List.filterMap_cons_none rfl, List.filterMap_nil, List.append_nil]
      exact lists.templates
    · rw [List.filterMap_append]
      exact intern_toList entry lists.strings
  cites later grown := List.forall_mem_singleton.mpr ⟨op, List.mem_singleton_self op, _, compares,
    grown.strings _ _ (before.withString_finds entry)⟩

/-- One block for the needs of two steps. -/
theorem both (early : Serves before between block needs) (grows : between.Grows after)
    (late : Serves between after block more) : Serves before after block (needs ++ more) :=
  (early.append grows late).within (List.append_subset.mpr ⟨List.Subset.refl _, List.Subset.refl _⟩)

/-- Slots, cursors and patterns play no part. -/
theorem of_eq (serves : Serves between after block needs) (templates : before.templates = between.templates)
    (strings : before.strings = between.strings) : Serves before after block needs where
  lists earlier lists := serves.lists earlier
    ⟨templates ▸ lists.templates, strings ▸ lists.strings⟩
  cites := serves.cites

end Serves

namespace Layout

open Tables

variable {mode : UnionMode}

/-! ## Layouts serve what their trees need -/

theorem count_serves {bounds : LengthBounds} {unit : String} {tables : Tables} {op : Op}
    (reports : ∀ index ∈ ((count bounds unit tables).1.map Prod.snd).toList, index ∈ op.templates) :
    Serves tables (count bounds unit tables).2 [op] (bounds.needs unit) := by
  rw [count] at reports ⊢
  rw [LengthBounds.needs]
  cases unbounded : bounds.isUnbounded with
  | true => exact .nothing tables _
  | false =>
      simp only [unbounded] at reports
      exact .template (reports _ List.mem_cons_self)

theorem constraint_serves {scalar : Leaf} {tables : Tables} {op : Op}
    (reports : ∀ index ∈ (constraint scalar tables).1.toList, index ∈ op.templates) :
    Serves tables (constraint scalar tables).2 [op] (scalar.bound?.toList.map .template) := by
  rw [constraint] at reports ⊢
  rw [Leaf.bound?]
  cases bounded : scalar.template? .constraint with
  | none =>
      rw [ite_self]
      exact .nothing tables _
  | some entry =>
      cases counts : scalar.countsWith .binding with
      | true =>
          simp only [bounded, counts, if_true] at reports
          exact .template (reports _ List.mem_cons_self)
      | false => exact .nothing tables _

theorem leafTest_serves {scalar : Leaf} {tables : Tables} {test : LeafTest}
    (tested : (leafTest scalar tables).1 = some test) (slot wrongType : Nat) (constraint : Option Nat) :
    Serves tables (leafTest scalar tables).2 [.test slot test wrongType constraint]
      (scalar.compared?.toList.map .string) := by
  cases scalar with
  | exact expected =>
      cases tested
      exact .string List.mem_cons_self
  | pattern expected => exact .of_eq (.nothing (leafTest (.pattern expected) tables).2 _) rfl rfl
  | _ => exact .nothing tables _

theorem leaf_serves (slot : Nat) (scalar : Leaf) (tables : Tables) :
    Serves tables (leaf slot scalar tables).2 (leaf slot scalar tables).1 scalar.needs := by
  rcases leaf_cases slot scalar tables with ⟨unknown, empty⟩ | ⟨entry, test, typed, tested, single⟩
  · rw [empty, unknown]
    exact .nothing tables []
  · let typing := tables.withTemplate entry
    let bounding := constraint scalar typing.2
    have bounded : Serves typing.2 bounding.2 [.test slot test typing.1 bounding.1]
        (scalar.bound?.toList.map .template) :=
      constraint_serves fun index used => List.mem_cons_of_mem _ used
    have grown := leafTest_grows scalar bounding.2
    rw [single, Leaf.needs, typed]
    exact (Serves.template List.mem_cons_self).both ((constraint_grows scalar _).trans grown)
      (bounded.both grown (leafTest_serves tested slot typing.1 bounding.1))

/-- A tree whose layout serves what the tree needs. -/
def Served (mode : UnionMode) (shape : Shape) : Prop :=
  ∀ start slot tables, Serves tables (node mode shape start slot tables).2
    (node mode shape start slot tables).1 shape.needs

theorem fields_serve (shapes : List (String × Shape)) (children : ∀ field ∈ shapes, Served mode field.2)
    (source : Nat) : ∀ start tables, Serves tables (fields mode shapes start source tables).2
      (fields mode shapes start source tables).1 (Shape.fieldNeeds shapes) := by
  induction shapes with
  | nil => exact fun _ tables => .nothing tables []
  | cons field rest inductionHypothesis =>
      intro start tables
      rcases field with ⟨key, shape⟩
      let named := tables.withSlot.withString key
      let block := node mode shape (start + 1) tables.slots named.2
      have loads : Serves tables named.2 [.field source tables.slots named.1] [.string key] :=
        .of_eq (.string List.mem_cons_self) rfl rfl
      have first : Serves named.2 block.2 block.1 shape.needs :=
        children (key, shape) List.mem_cons_self (start + 1) tables.slots named.2
      have others := inductionHypothesis (fun field member => children field (List.mem_cons_of_mem _ member))
        (start + 1 + block.1.length) block.2
      have later := fields_grows mode rest (fun field _ => node_grows mode field.2) source
        (start + 1 + block.1.length) block.2
      have below := first.append later others
      exact loads.append ((node_grows mode shape _ _ _).trans later) below

theorem positions_serve (shapes : List Shape) (children : ∀ shape ∈ shapes, Served mode shape)
    (source : Nat) : ∀ position start tables,
      Serves tables (positions mode shapes position start source tables).2
        (positions mode shapes position start source tables).1 (Shape.listNeeds shapes) := by
  induction shapes with
  | nil => exact fun _ _ tables => .nothing tables []
  | cons shape rest inductionHypothesis =>
      intro position start tables
      let block := node mode shape (start + 1) tables.slots tables.withSlot
      have first : Serves tables.withSlot block.2 block.1 shape.needs :=
        children shape List.mem_cons_self (start + 1) tables.slots tables.withSlot
      have others := inductionHypothesis (fun shape member => children shape (List.mem_cons_of_mem _ member))
        (position + 1) (start + 1 + block.1.length) block.2
      have later := positions_grows mode rest (fun shape _ => node_grows mode shape) source
        (position + 1) (start + 1 + block.1.length) block.2
      have below : Serves tables _ (block.1 ++ _) (shape.needs ++ Shape.listNeeds rest) :=
        .of_eq (first.append later others) rfl rfl
      exact below.within (List.subset_cons_self _ _)

theorem alternatives_serve (shapes : List Shape) (children : ∀ shape ∈ shapes, Served mode shape)
    (slot : Nat) : ∀ start tables done place,
      Serves tables (alternatives mode shapes start slot tables).2
        (Assembler.layAlternatives done place (alternatives mode shapes start slot tables).1)
        (Shape.listNeeds shapes) := by
  induction shapes with
  | nil => exact fun _ tables _ _ => .nothing tables []
  | cons shape rest inductionHypothesis =>
      intro start tables done place
      let block := node mode shape (start + 1) slot tables
      have first : Serves tables block.2 block.1 shape.needs :=
        children shape List.mem_cons_self (start + 1) slot tables
      have others := inductionHypothesis (fun shape member => children shape (List.mem_cons_of_mem _ member))
        (start + 2 + block.1.length) block.2 done (place + 1 + block.1.length + 1)
      have later := alternatives_grows mode rest (fun shape _ => node_grows mode shape) slot
        (start + 2 + block.1.length) block.2
      refine (first.append later others).within (List.append_subset.mpr ⟨?_, ?_⟩)
      · exact List.Subset.trans (List.subset_cons_self _ _) (List.subset_append_left _ _)
      · exact List.Subset.trans (List.subset_cons_self _ _) (List.subset_append_right _ _)

/-- A loop behind an operation that serves what is needed besides. -/
theorem loop_serves {child : Shape} (served : Served mode child) {start : Nat} {tables counted : Tables}
    {guard sweep head back : Op} {needs : List Need} (guarded : Serves tables counted [guard] needs) :
    Serves tables (node mode child (start + 3) counted.slots counted.withCursor.withSlot).2
      (guard :: sweep :: head ::
        (node mode child (start + 3) counted.slots counted.withCursor.withSlot).1 ++ [back])
      (needs ++ child.needs) := by
  have inner : Serves counted (node mode child (start + 3) counted.slots counted.withCursor.withSlot).2
      (node mode child (start + 3) counted.slots counted.withCursor.withSlot).1 child.needs :=
    .of_eq (served (start + 3) counted.slots counted.withCursor.withSlot) rfl rfl
  have grown := (counted.withCursor_grows.trans (Tables.withSlot_grows _)).trans
    (node_grows mode child (start + 3) counted.slots counted.withCursor.withSlot)
  refine (guarded.append grown inner).within (List.append_subset.mpr ⟨?_, ?_⟩)
  · exact List.cons_subset.mpr ⟨List.mem_cons_self, List.nil_subset _⟩
  · intro op member
    exact List.mem_cons_of_mem _ (List.mem_cons_of_mem _ (List.mem_cons_of_mem _
      (List.mem_append_left _ member)))

theorem form_serves {shapes : Form Shape} (children : ∀ shape ∈ shapes.children, Served mode shape)
    (start slot : Nat) (tables : Tables) :
    Serves tables (form mode shapes start slot tables).2 (form mode shapes start slot tables).1
      shapes.needs := by
  cases shapes with
  | leaf scalar => exact leaf_serves slot scalar tables
  | object shapes =>
      have below := fields_serve shapes
        (fun field member => children field.2 (List.mem_map_of_mem member)) slot (start + 1)
        (tables.withTemplate .notObject).2
      have grown := fields_grows mode shapes (fun field _ => node_grows mode field.2) slot (start + 1)
        (tables.withTemplate .notObject).2
      exact (Serves.template List.mem_cons_self).append grown below
  | array item length =>
      let noted := tables.withTemplate .notArray
      let counted := count length "items" noted.2
      have guarded : ∀ skip, Serves tables counted.2 [.array slot noted.1 counted.1 skip]
          ([.template .notArray] ++ length.needs "items") := fun skip =>
        (Serves.template List.mem_cons_self).both (count_grows length "items" noted.2)
          (count_serves fun index used => List.mem_cons_of_mem _ used)
      exact loop_serves (children item List.mem_cons_self) (guarded _)
  | tuple shapes =>
      let noted := tables.withTemplate .notArray
      let counted := noted.2.withTemplate (.tupleArity shapes.length)
      have below := positions_serve shapes children slot 0 (start + 1) counted.2
      have grown := positions_grows mode shapes (fun shape _ => node_grows mode shape) slot 0 (start + 1)
        counted.2
      have guarded : ∀ skip, Serves tables counted.2
          [.tuple slot noted.1 shapes.length counted.1 skip]
          ([.template .notArray] ++ [.template (.tupleArity shapes.length)]) := fun skip =>
        (Serves.template List.mem_cons_self).both (noted.2.withTemplate_grows _)
          (.template (List.mem_cons_of_mem _ List.mem_cons_self))
      exact (guarded _).append grown below
  | record value keys =>
      let noted := tables.withTemplate .notObject
      let counted := count keys "keys" noted.2
      have guarded : ∀ skip, Serves tables counted.2 [.record slot noted.1 counted.1 skip]
          ([.template .notObject] ++ keys.needs "keys") := fun skip =>
        (Serves.template List.mem_cons_self).both (count_grows keys "keys" noted.2)
          (count_serves fun index used => List.mem_cons_of_mem _ used)
      exact loop_serves (children value List.mem_cons_self) (guarded _)
  | union shapes =>
      let noted := tables.withTemplate (.unionMismatch shapes.length)
      let blocks := alternatives mode shapes (start + 1) slot noted.2
      have below := alternatives_serve shapes children slot (start + 1) noted.2
        (start + 1 + Assembler.sizeAlternatives blocks.1 + 1) (start + 1)
      have grown := alternatives_grows mode shapes (fun shape _ => node_grows mode shape) slot (start + 1)
        noted.2
      have reports : Serves tables noted.2 [.closeUnion slot noted.1]
          [.template (.unionMismatch shapes.length)] := .template List.mem_cons_self
      -- The report of the mismatch stands behind the alternatives, but is listed before them.
      refine (reports.append grown below).within (List.append_subset.mpr ⟨?_, ?_⟩)
      · exact List.subset_append_right _ _
      · exact List.Subset.trans (List.subset_cons_self _ _) (List.subset_append_left _ _)

/-- Every layout serves what its tree needs. -/
theorem node_serves (shape : Shape) : Served mode shape := by
  induction shape using Shape.induction with
  | node header shapes inductionHypothesis =>
      intro start slot tables
      let named := tables.withTemplate .required
      have grown := form_grows mode shapes (fun shape _ => node_grows mode shape) (start + 1) slot named.2
      exact (Serves.template List.mem_cons_self).append grown
        (form_serves inductionHypothesis (start + 1) slot named.2)

end Layout
end Conformance
