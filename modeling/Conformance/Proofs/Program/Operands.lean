import Conformance.Proofs.Program.Blocks

namespace Conformance

/-!
# Operands in range

An operation names slots, cursors and entries of the tables by their indices.  A
machine that meets an index out of range goes on as if the entry said nothing, so
that a wrong index would not be noticed.  What is shown here is that no block has
one: whatever an operation names was handed out before the tables were finished.

The slot that an operation writes is also always later than the slot it reads,
because the former is new when the latter is already in use.
-/

namespace Op

/-- The slots that an operation reads and writes. -/
def slots : Op → List Nat
  | .gate slot _ _ _ _ _ | .test slot _ _ _ | .object slot _ _ | .array slot _ _ _
  | .tuple slot _ _ _ _ | .record slot _ _ _ | .items slot _ | .entries slot _
  | .closeUnion slot _ => [slot]
  | .field source target _ | .element source target _ | .next source _ target _ => [source, target]
  | .jump _ | .openUnion _ | .openAlternative _ | .closeAlternative _ => []

/-- The cursors that an operation uses. -/
def cursors : Op → List Nat
  | .items _ cursor | .entries _ cursor | .next _ cursor _ _ => [cursor]
  | _ => []

/-- The templates that an operation can report. -/
def templates : Op → List Nat
  | .gate _ _ _ _ missing _ => [missing]
  | .test _ _ wrongType constraint => wrongType :: constraint.toList
  | .object _ notObject _ => [notObject]
  | .array _ notArray length _ => notArray :: (length.map Prod.snd).toList
  | .tuple _ notArray _ wrongLength _ => [notArray, wrongLength]
  | .record _ notObject keys _ => notObject :: (keys.map Prod.snd).toList
  | .closeUnion _ mismatch => [mismatch]
  | _ => []

/-- The strings that an operation compares with or looks up. -/
def strings : Op → List Nat
  | .test _ (.exact expected) _ _ => [expected]
  | .field _ _ name => [name]
  | _ => []

/-- The patterns that an operation matches. -/
def patterns : Op → List Nat
  | .test _ (.pattern expected) _ _ => [expected]
  | _ => []

/-- The slot that a loaded value is taken from and the slot it is put into. -/
def link? : Op → Option (Nat × Nat)
  | .field source target _ | .element source target _ | .next source _ target _ =>
      some (source, target)
  | _ => none

/-- Every index that an operation uses is an index of its table. -/
structure InRange (tables : Tables) (op : Op) : Prop where
  slots : ∀ slot ∈ op.slots, slot < tables.slots := by exact List.forall_mem_nil _
  cursors : ∀ cursor ∈ op.cursors, cursor < tables.cursors := by exact List.forall_mem_nil _
  templates : ∀ template ∈ op.templates, template < tables.templates.size := by
    exact List.forall_mem_nil _
  strings : ∀ string ∈ op.strings, string < tables.strings.size := by exact List.forall_mem_nil _
  patterns : ∀ pattern ∈ op.patterns, pattern < tables.patterns.size := by
    exact List.forall_mem_nil _

/-- Values are loaded into later slots than those they are taken from. -/
def Forward (op : Op) : Prop :=
  ∀ link ∈ op.link?, link.1 < link.2

end Op

theorem Keeps.size_le {Entry : Type} {table later : Array Entry} (keeps : Keeps table later) :
    table.size ≤ later.size := by
  by_contra short
  have inside : later.size < table.size := Nat.lt_of_not_le short
  have kept := keeps later.size table[later.size] (Array.getElem?_eq_getElem inside)
  rw [Array.getElem?_size] at kept
  cases kept

theorem Op.forward_of_unlinked {op : Op} (unlinked : op.link? = none) : op.Forward := by
  intro link linked
  rw [unlinked] at linked
  cases linked

/-- An index stays in range when tables grow. -/
theorem Op.InRange.mono {op : Op} {tables later : Tables} (inRange : op.InRange tables)
    (grows : tables.Grows later) : op.InRange later where
  slots slot used := Nat.lt_of_lt_of_le (inRange.slots slot used) grows.slots
  cursors cursor used := Nat.lt_of_lt_of_le (inRange.cursors cursor used) grows.cursors
  templates template used :=
    Nat.lt_of_lt_of_le (inRange.templates template used) grows.templates.size_le
  strings string used := Nat.lt_of_lt_of_le (inRange.strings string used) grows.strings.size_le
  patterns pattern used :=
    Nat.lt_of_lt_of_le (inRange.patterns pattern used) grows.patterns.size_le

namespace Tables

theorem withTemplate_lt (tables : Tables) (entry : Template) :
    (tables.withTemplate entry).1 < (tables.withTemplate entry).2.templates.size :=
  (Array.getElem?_eq_some_iff.mp (tables.withTemplate_finds entry)).1

theorem withString_lt (tables : Tables) (entry : String) :
    (tables.withString entry).1 < (tables.withString entry).2.strings.size :=
  (Array.getElem?_eq_some_iff.mp (tables.withString_finds entry)).1

theorem withPattern_lt (tables : Tables) (entry : Pattern) :
    (tables.withPattern entry).1 < (tables.withPattern entry).2.patterns.size :=
  (Array.getElem?_eq_some_iff.mp (tables.withPattern_finds entry)).1

end Tables

/-- A block that can be run with some tables. -/
def Usable (tables : Tables) (block : List Op) : Prop :=
  ∀ op ∈ block, op.InRange tables ∧ op.Forward

namespace Usable

variable {tables later : Tables} {op : Op} {block rest : List Op}

theorem nil (tables : Tables) : Usable tables [] :=
  fun _ member => nomatch member

theorem cons (inRange : op.InRange tables) (forward : op.Forward) (usable : Usable tables block) :
    Usable tables (op :: block) :=
  List.forall_mem_cons.mpr ⟨⟨inRange, forward⟩, usable⟩

theorem append (first : Usable tables block) (second : Usable tables rest) :
    Usable tables (block ++ rest) :=
  List.forall_mem_append.mpr ⟨first, second⟩

theorem mono (usable : Usable tables block) (grows : tables.Grows later) : Usable later block :=
  fun op member => ⟨(usable op member).1.mono grows, (usable op member).2⟩

end Usable

namespace Layout

/-! ## Leaves -/

theorem count_lt (bounds : LengthBounds) (unit : String) (tables : Tables) :
    ∀ index ∈ ((count bounds unit tables).1.map Prod.snd).toList,
      index < (count bounds unit tables).2.templates.size := by
  rw [count]
  cases bounds.isUnbounded with
  | true => exact List.forall_mem_nil _
  | false => exact List.forall_mem_singleton.mpr (tables.withTemplate_lt _)

/-- The templates of a container with bounds: that it is none, and that its count is out
of bounds. -/
theorem noted_count_lt (note : Template) (bounds : LengthBounds) (unit : String) (tables : Tables) :
    ∀ index ∈ (tables.withTemplate note).1 ::
        ((count bounds unit (tables.withTemplate note).2).1.map Prod.snd).toList,
      index < (count bounds unit (tables.withTemplate note).2).2.templates.size := by
  have grows := count_grows bounds unit (tables.withTemplate note).2
  have stored := Nat.lt_of_lt_of_le (tables.withTemplate_lt note) grows.templates.size_le
  exact List.forall_mem_cons.mpr ⟨stored, count_lt bounds unit (tables.withTemplate note).2⟩

theorem constraint_lt (scalar : Leaf) (tables : Tables) :
    ∀ index ∈ (constraint scalar tables).1.toList,
      index < (constraint scalar tables).2.templates.size := by
  rw [constraint]
  cases scalar.template? .constraint with
  | none => exact List.forall_mem_nil _
  | some entry =>
      simp only
      cases scalar.countsWith .binding with
      | true => exact List.forall_mem_singleton.mpr (tables.withTemplate_lt entry)
      | false => exact List.forall_mem_nil _

/-- The test of a leaf names the string or the pattern that was listed for it. -/
theorem leafTest_lt (scalar : Leaf) {test : LeafTest} {tables : Tables}
    (tested : (leafTest scalar tables).1 = some test) (slot wrongType : Nat) (constraint : Option Nat) :
    (∀ string ∈ (Op.test slot test wrongType constraint).strings,
      string < (leafTest scalar tables).2.strings.size) ∧
    ∀ pattern ∈ (Op.test slot test wrongType constraint).patterns,
      pattern < (leafTest scalar tables).2.patterns.size := by
  cases scalar with
  | unknown => cases tested
  | exact expected =>
      cases tested
      exact ⟨List.forall_mem_singleton.mpr (tables.withString_lt expected), List.forall_mem_nil _⟩
  | pattern expected =>
      cases tested
      exact ⟨List.forall_mem_nil _, List.forall_mem_singleton.mpr (tables.withPattern_lt expected)⟩
  | _ =>
      cases tested
      exact ⟨List.forall_mem_nil _, List.forall_mem_nil _⟩

theorem leaf_usable {slot : Nat} (scalar : Leaf) {tables : Tables} (low : slot < tables.slots) :
    Usable (leaf slot scalar tables).2 (leaf slot scalar tables).1 := by
  rcases leaf_cases slot scalar tables with ⟨_, empty⟩ | ⟨entry, test, _, tested, single⟩
  · rw [empty]
    exact .nil tables
  · rw [single]
    have typed := tables.withTemplate_lt entry
    have bounded := constraint_lt scalar (tables.withTemplate entry).2
    have grown := constraint_grows scalar (tables.withTemplate entry).2
    have listed := leafTest_grows scalar (constraint scalar (tables.withTemplate entry).2).2
    rcases leafTest_lt scalar tested slot (tables.withTemplate entry).1
      (constraint scalar (tables.withTemplate entry).2).1 with ⟨strings, patterns⟩
    have whole := ((tables.withTemplate_grows entry).trans grown).trans listed
    refine .cons ?inRange (Op.forward_of_unlinked rfl) (.nil _)
    refine { slots := ?slots, templates := ?templates, strings := strings, patterns := patterns }
    case slots => exact List.forall_mem_singleton.mpr (Nat.lt_of_lt_of_le low whole.slots)
    case templates =>
      refine List.forall_mem_cons.mpr ⟨?_, fun index used => ?_⟩
      · exact Nat.lt_of_lt_of_le typed (grown.trans listed).templates.size_le
      · exact Nat.lt_of_lt_of_le (bounded index used) listed.templates.size_le

/-! ## Nodes -/

/-- The block of a tree can be run with the tables that its layout leaves. -/
def Ranged (mode : UnionMode) (shape : Shape) : Prop :=
  ∀ (start slot : Nat) (tables : Tables), slot < tables.slots →
    Usable (node mode shape start slot tables).2 (node mode shape start slot tables).1

variable {mode : UnionMode}

theorem fields_usable (shapes : List (String × Shape))
    (children : ∀ field ∈ shapes, Ranged mode field.2) {source : Nat} :
    ∀ (start : Nat) (tables : Tables), source < tables.slots →
      Usable (fields mode shapes start source tables).2 (fields mode shapes start source tables).1 := by
  induction shapes with
  | nil =>
      intro start tables low
      exact .nil tables
  | cons field rest inductionHypothesis =>
      intro start tables low
      rcases field with ⟨key, shape⟩
      let named := tables.withSlot.withString key
      let block := node mode shape (start + 1) tables.slots named.2
      let others := fields mode rest (start + 1 + block.1.length) source block.2
      have grown : named.2.Grows block.2 := node_grows mode shape (start + 1) tables.slots named.2
      have later : block.2.Grows others.2 :=
        fields_grows mode rest (fun field _ => node_grows mode field.2) source _ block.2
      have lower : source < named.2.slots := Nat.lt_succ_of_lt low
      have loads : (Op.field source tables.slots named.1).InRange named.2 :=
        { slots := List.forall_mem_cons.mpr
            ⟨lower, List.forall_mem_singleton.mpr (Nat.lt_succ_self tables.slots)⟩
          strings := List.forall_mem_singleton.mpr (tables.withSlot.withString_lt key) }
      have forward : (Op.field source tables.slots named.1).Forward := by
        intro link linked
        cases linked
        exact low
      have first : Usable block.2 block.1 :=
        children (key, shape) List.mem_cons_self (start + 1) tables.slots named.2
          (Nat.lt_succ_self tables.slots)
      have second : Usable others.2 others.1 :=
        inductionHypothesis (fun field member => children field (List.mem_cons_of_mem _ member)) _
          block.2 (Nat.lt_of_lt_of_le lower grown.slots)
      exact (Usable.cons (loads.mono (grown.trans later)) forward (first.mono later)).append second

theorem positions_usable (shapes : List Shape) (children : ∀ shape ∈ shapes, Ranged mode shape)
    {source : Nat} : ∀ (position start : Nat) (tables : Tables), source < tables.slots →
      Usable (positions mode shapes position start source tables).2
        (positions mode shapes position start source tables).1 := by
  induction shapes with
  | nil =>
      intro position start tables low
      exact .nil tables
  | cons shape rest inductionHypothesis =>
      intro position start tables low
      let block := node mode shape (start + 1) tables.slots tables.withSlot
      let others := positions mode rest (position + 1) (start + 1 + block.1.length) source block.2
      have grown : tables.withSlot.Grows block.2 :=
        node_grows mode shape (start + 1) tables.slots tables.withSlot
      have later : block.2.Grows others.2 :=
        positions_grows mode rest (fun shape _ => node_grows mode shape) source _ _ block.2
      have lower : source < tables.withSlot.slots := Nat.lt_succ_of_lt low
      have loads : (Op.element source tables.slots position).InRange tables.withSlot :=
        { slots := List.forall_mem_cons.mpr
            ⟨lower, List.forall_mem_singleton.mpr (Nat.lt_succ_self tables.slots)⟩ }
      have forward : (Op.element source tables.slots position).Forward := by
        intro link linked
        cases linked
        exact low
      have first : Usable block.2 block.1 :=
        children shape List.mem_cons_self (start + 1) tables.slots tables.withSlot
          (Nat.lt_succ_self tables.slots)
      have second : Usable others.2 others.1 :=
        inductionHypothesis (fun shape member => children shape (List.mem_cons_of_mem _ member)) _ _
          block.2 (Nat.lt_of_lt_of_le lower grown.slots)
      exact (Usable.cons (loads.mono (grown.trans later)) forward (first.mono later)).append second

/-- Alternatives open no slot of their own, so that all of them read the slot of the
union. -/
theorem alternatives_usable (shapes : List Shape) (children : ∀ shape ∈ shapes, Ranged mode shape)
    {slot : Nat} : ∀ (start : Nat) (tables : Tables), slot < tables.slots →
      ∀ done place : Nat, Usable (alternatives mode shapes start slot tables).2
        (Assembler.layAlternatives done place (alternatives mode shapes start slot tables).1) := by
  induction shapes with
  | nil =>
      intro start tables low done place
      exact .nil tables
  | cons shape rest inductionHypothesis =>
      intro start tables low done place
      let block := node mode shape (start + 1) slot tables
      let others := alternatives mode rest (start + 2 + block.1.length) slot block.2
      have grown : tables.Grows block.2 := node_grows mode shape (start + 1) slot tables
      have later : block.2.Grows others.2 :=
        alternatives_grows mode rest (fun shape _ => node_grows mode shape) slot _ block.2
      have first : Usable block.2 block.1 := children shape List.mem_cons_self (start + 1) slot tables low
      have second := inductionHypothesis
        (fun shape member => children shape (List.mem_cons_of_mem _ member))
        (start + 2 + block.1.length) block.2 (Nat.lt_of_lt_of_le low grown.slots) done
        (place + 1 + block.1.length + 1)
      have opens : (Op.openAlternative (place + 1 + block.1.length)).InRange others.2 := { }
      have closes : (Op.closeAlternative done).InRange others.2 := { }
      exact (Usable.cons opens (Op.forward_of_unlinked rfl) (first.mono later)).append
        (.cons closes (Op.forward_of_unlinked rfl) second)

/-- A loop over the parts of a value, behind the operations that let the value pass
and start the loop. -/
theorem loop_usable {child : Shape} (ranged : Ranged mode child) {start slot done : Nat}
    {tables : Tables} {guard sweep : Op} (low : slot < tables.slots) (guarded : guard.InRange tables)
    (unlinked : guard.link? = none) (swept : sweep.InRange tables.withCursor)
    (alone : sweep.link? = none) :
    Usable (node mode child (start + 3) tables.slots tables.withCursor.withSlot).2
      (guard :: sweep :: .next slot tables.cursors tables.slots done ::
        (node mode child (start + 3) tables.slots tables.withCursor.withSlot).1 ++
        [.jump (start + 2)]) := by
  let block := node mode child (start + 3) tables.slots tables.withCursor.withSlot
  have opened : tables.withCursor.Grows tables.withCursor.withSlot := Tables.withSlot_grows _
  have grown : tables.withCursor.withSlot.Grows block.2 := node_grows mode child _ _ _
  have advances : (Op.next slot tables.cursors tables.slots done).InRange tables.withCursor.withSlot :=
    { slots := List.forall_mem_cons.mpr
        ⟨Nat.lt_succ_of_lt low, List.forall_mem_singleton.mpr (Nat.lt_succ_self tables.slots)⟩
      cursors := List.forall_mem_singleton.mpr (Nat.lt_succ_self tables.cursors) }
  have forward : (Op.next slot tables.cursors tables.slots done).Forward := by
    intro link linked
    cases linked
    exact low
  have returns : (Op.jump (start + 2)).InRange block.2 := { }
  have inner : Usable block.2 block.1 := ranged (start + 3) tables.slots tables.withCursor.withSlot
    (Nat.lt_succ_self tables.slots)
  refine Usable.append (.cons ?guard (Op.forward_of_unlinked unlinked)
    (.cons ?sweep (Op.forward_of_unlinked alone) (.cons (advances.mono grown) forward inner)))
    (.cons returns (Op.forward_of_unlinked rfl) (.nil _))
  case guard => exact guarded.mono (tables.withCursor_grows.trans (opened.trans grown))
  case sweep => exact swept.mono (opened.trans grown)

theorem form_usable {shapes : Form Shape} (children : ∀ shape ∈ shapes.children, Ranged mode shape)
    (start : Nat) {slot : Nat} {tables : Tables} (low : slot < tables.slots) :
    Usable (form mode shapes start slot tables).2 (form mode shapes start slot tables).1 := by
  cases shapes with
  | leaf scalar => exact leaf_usable scalar low
  | object shapes =>
      let noted := tables.withTemplate .notObject
      have below := fields_usable shapes
        (fun field member => children field.2 (List.mem_map_of_mem member)) (start + 1) noted.2 low
      have grown := fields_grows mode shapes (fun field _ => node_grows mode field.2) slot (start + 1) noted.2
      have guarded : ∀ skip, (Op.object slot noted.1 skip).InRange noted.2 := fun skip =>
        { slots := List.forall_mem_singleton.mpr low
          templates := List.forall_mem_singleton.mpr (tables.withTemplate_lt .notObject) }
      exact .cons ((guarded _).mono grown) (Op.forward_of_unlinked rfl) below
  | array item length =>
      let noted := tables.withTemplate .notArray
      let counted := count length "items" noted.2
      have lower : slot < counted.2.slots :=
        Nat.lt_of_lt_of_le low (count_grows length "items" noted.2).slots
      refine loop_usable (children item List.mem_cons_self) lower ?guard rfl ?sweep rfl
      case guard =>
        exact
          { slots := List.forall_mem_singleton.mpr lower
            templates := noted_count_lt .notArray length "items" tables }
      case sweep =>
        exact
          { slots := List.forall_mem_singleton.mpr lower
            cursors := List.forall_mem_singleton.mpr (Nat.lt_succ_self counted.2.cursors) }
  | tuple shapes =>
      let noted := tables.withTemplate .notArray
      let counted := noted.2.withTemplate (.tupleArity shapes.length)
      have counting : noted.2.Grows counted.2 := noted.2.withTemplate_grows _
      have stored := Nat.lt_of_lt_of_le (tables.withTemplate_lt .notArray) counting.templates.size_le
      have below := positions_usable shapes children 0 (start + 1) counted.2 low
      have grown := positions_grows mode shapes (fun shape _ => node_grows mode shape) slot 0 (start + 1)
        counted.2
      have guarded : ∀ skip, (Op.tuple slot noted.1 shapes.length counted.1 skip).InRange counted.2 :=
        fun skip =>
          { slots := List.forall_mem_singleton.mpr low
            templates := List.forall_mem_cons.mpr
              ⟨stored, List.forall_mem_singleton.mpr (noted.2.withTemplate_lt _)⟩ }
      exact .cons ((guarded _).mono grown) (Op.forward_of_unlinked rfl) below
  | record value keys =>
      let noted := tables.withTemplate .notObject
      let counted := count keys "keys" noted.2
      have lower : slot < counted.2.slots :=
        Nat.lt_of_lt_of_le low (count_grows keys "keys" noted.2).slots
      refine loop_usable (children value List.mem_cons_self) lower ?guard rfl ?sweep rfl
      case guard =>
        exact
          { slots := List.forall_mem_singleton.mpr lower
            templates := noted_count_lt .notObject keys "keys" tables }
      case sweep =>
        exact
          { slots := List.forall_mem_singleton.mpr lower
            cursors := List.forall_mem_singleton.mpr (Nat.lt_succ_self counted.2.cursors) }
  | union shapes =>
      let noted := tables.withTemplate (.unionMismatch shapes.length)
      let blocks := alternatives mode shapes (start + 1) slot noted.2
      have grown : noted.2.Grows blocks.2 :=
        alternatives_grows mode shapes (fun shape _ => node_grows mode shape) slot (start + 1) noted.2
      have inner := alternatives_usable shapes children (start + 1) noted.2 low
        (start + 1 + Assembler.sizeAlternatives blocks.1 + 1) (start + 1)
      have opens : (Op.openUnion (mode == .synthesized)).InRange blocks.2 := { }
      have closes : (Op.closeUnion slot noted.1).InRange noted.2 :=
        { slots := List.forall_mem_singleton.mpr low
          templates := List.forall_mem_singleton.mpr (tables.withTemplate_lt _) }
      exact (Usable.cons opens (Op.forward_of_unlinked rfl) inner).append
        (.cons (closes.mono grown) (Op.forward_of_unlinked rfl) (.nil _))

/-- Every block can be run with the tables that its layout leaves. -/
theorem node_usable (shape : Shape) : Ranged mode shape := by
  induction shape using Shape.induction with
  | node header shapes inductionHypothesis =>
      intro start slot tables low
      let named := tables.withTemplate .required
      have inner : Usable (form mode shapes (start + 1) slot named.2).2
          (form mode shapes (start + 1) slot named.2).1 :=
        form_usable inductionHypothesis (start + 1) low
      have grown : named.2.Grows (form mode shapes (start + 1) slot named.2).2 :=
        form_grows mode shapes (fun shape _ => node_grows mode shape) (start + 1) slot named.2
      have guarded : ∀ skip, (Op.gate slot header.required header.nullable (Form.nullIsValue shapes)
          named.1 skip).InRange named.2 := fun skip =>
        { slots := List.forall_mem_singleton.mpr low
          templates := List.forall_mem_singleton.mpr (tables.withTemplate_lt .required) }
      exact .cons ((guarded _).mono grown) (Op.forward_of_unlinked rfl) inner

end Layout
end Conformance
