import Conformance.Proofs.Program.Blocks
import Conformance.Proofs.Program.Budget

namespace Conformance

/-!
# Programs simulate trees

The block of a tree finds in a value what the tree finds in it, as far as counts
are compared with bounds that bind.  This is shown form by form, from the blocks of
the children; the induction is on the tree.

On the way the operations are counted.  Every operation runs at most twice per part
of the value of its slot: once in its turn, and once more if it is the one that ends
a loop.
-/

namespace Layout

/-! ## One operation and the block behind it -/

section

variable {program : Program} {earlyFail : Bool} {machine : Machine} {op : Op} {block : List Op}
  {start slots cursors whole : Nat} {findings : List Finding}

theorem yields_behind (positive : 1 ≤ whole) (fetched : program.ops[start]? = some op)
    (executed : machine.execute program earlyFail start op = (machine, some (start + 1)))
    (yields : machine.Yields program earlyFail (2 * block.length * whole) (start + 1)
      (start + 1 + block.length) slots cursors findings) :
    machine.Yields program earlyFail (2 * (op :: block).length * whole) start
      (start + (op :: block).length) slots cursors findings := by
  have finish : start + (block.length + 1) = start + 1 + block.length := by omega
  have bound : 2 * block.length * whole + 1 ≤ 2 * (block.length + 1) * whole := by
    simp only [Nat.mul_add, Nat.add_mul]
    omega
  rw [List.length_cons, finish]
  exact .mono bound (.silent fetched executed (.refl slots cursors machine) yields)

/-- An operation that passes over the block behind it. -/
theorem yields_over (positive : 1 ≤ whole) (fetched : program.ops[start]? = some op)
    (executed : machine.execute program earlyFail start op =
      (machine, some (start + 1 + block.length))) :
    machine.Yields program earlyFail (2 * (op :: block).length * whole) start
      (start + (op :: block).length) slots cursors [] := by
  have finish : start + (block.length + 1) = start + 1 + block.length := by omega
  have bound : 1 ≤ 2 * (block.length + 1) * whole := by
    simp only [Nat.mul_add, Nat.add_mul]
    omega
  rw [List.length_cons, finish]
  exact .mono bound (.skip fetched executed)

/-- An operation that raises a finding in the place of the block behind it. -/
theorem yields_instead {index slot : Nat} {template : Template} {count : Option Nat}
    {value : Option Value} (positive : 1 ≤ whole) (valueEq : machine.value slot = value)
    (fetched : program.ops[start]? = some op)
    (stored : program.templates[index]? = some template)
    (executed : machine.execute program earlyFail start op =
      machine.fail program earlyFail index slot count (start + 1 + block.length)) :
    machine.Yields program earlyFail (2 * (op :: block).length * whole) start
      (start + (op :: block).length) slots cursors
      ([template.here value count].map (Finding.beneath (slotTrail machine.slots slot))) := by
  have finish : start + (block.length + 1) = start + 1 + block.length := by omega
  have bound : 1 ≤ 2 * (block.length + 1) * whole := by
    simp only [Nat.mul_add, Nat.add_mul]
    omega
  rw [List.length_cons, finish, ← valueEq]
  exact .mono bound (.raise fetched stored executed)

end

/-! ## Forms -/

variable {mode : UnionMode}

theorem object_finds (shapes : List (String × Shape))
    (children : ∀ field ∈ shapes, Sound mode field.2) (start slot : Nat) (tables : Tables)
    (value : Value) (low : slot < tables.slots) :
    Finds tables (form mode (.object shapes) start slot tables).2 start slot
      (form mode (.object shapes) start slot tables).1 (some value)
      (((Form.object shapes).map (Shape.judge .binding mode)).judge .binding mode value) := by
  intro program earlyFail machine grows holds fits valueEq
  let named := tables.withTemplate .notObject
  let block := fields mode shapes (start + 1) slot named.2
  have nameGrows : named.2.Grows program.tables :=
    (fields_grows mode shapes (fun field _ => node_grows mode field.2) slot _ _).trans grows
  have holds : program.Holds start
      (.object slot named.1 (start + 1 + block.1.length) :: block.1) := holds
  have low : slot < named.2.slots := Nat.lt_of_lt_of_le low (tables.withTemplate_grows _).slots
  have positive := one_le_weight (some value)
  cases value with
  | record entries =>
      refine yields_behind positive holds.head ?_ ?_
      · simp only [Machine.execute, valueEq]
      · exact fields_find shapes children slot entries (start + 1) named.2 low program earlyFail machine
          grows holds.tail fits valueEq
  | _ =>
      refine yields_instead positive valueEq holds.head (template_stored nameGrows) ?_
      simp only [Machine.execute, valueEq]
      rfl

theorem tuple_finds (shapes : List Shape) (children : ∀ shape ∈ shapes, Sound mode shape)
    (start slot : Nat) (tables : Tables) (value : Value) (low : slot < tables.slots) :
    Finds tables (form mode (.tuple shapes) start slot tables).2 start slot
      (form mode (.tuple shapes) start slot tables).1 (some value)
      (((Form.tuple shapes).map (Shape.judge .binding mode)).judge .binding mode value) := by
  intro program earlyFail machine grows holds fits valueEq
  let named := tables.withTemplate .notArray
  let sized := named.2.withTemplate (.tupleArity shapes.length)
  let block := positions mode shapes 0 (start + 1) slot sized.2
  have sizeGrows : sized.2.Grows program.tables :=
    (positions_grows mode shapes (fun shape _ => node_grows mode shape) slot _ _ _).trans grows
  have nameGrows : named.2.Grows program.tables := (named.2.withTemplate_grows _).trans sizeGrows
  have holds : program.Holds start (.tuple slot named.1 shapes.length sized.1
      (start + 1 + block.1.length) :: block.1) := holds
  have low : slot < sized.2.slots := Nat.lt_of_lt_of_le low
    ((tables.withTemplate_grows .notArray).trans (named.2.withTemplate_grows _)).slots
  have positive := one_le_weight (some value)
  cases value with
  | list items =>
      simp only [Form.map, Form.judge, List.length_map]
      by_cases fit : items.length = shapes.length
      · rw [if_pos fit]
        refine yields_behind positive holds.head ?_ ?_
        · simp only [Machine.execute, valueEq, if_pos fit]
        · have zero : 0 + shapes.length = items.length := by rw [Nat.zero_add, fit]
          exact positions_find shapes children slot items 0 (start + 1) sized.2 low zero program
            earlyFail machine grows holds.tail fits valueEq
      · rw [if_neg fit]
        refine yields_instead positive valueEq holds.head (template_stored sizeGrows) ?_
        simp only [Machine.execute, valueEq, if_neg fit]
        rfl
  | _ =>
      refine yields_instead positive valueEq holds.head (template_stored nameGrows) ?_
      simp only [Machine.execute, valueEq]
      rfl

/-- The part of a composite with one child that goes through all values: an
operation that fills the cursor, the loop, and the jump that closes it. -/
theorem sweep_yields {child : Shape} (sound : Sound mode child) {program : Program}
    {earlyFail : Bool} {machine : Machine} {op : Op} {start slot : Nat} {tables : Tables}
    {block : List Op × Tables} {values : List (Segment × Value)} (low : slot < tables.slots)
    (laid : node mode child (start + 3) tables.slots tables.withCursor.withSlot = block)
    (grows : block.2.Grows program.tables)
    (holds : program.Holds (start + 1) (op ::
      .next slot tables.cursors tables.slots (start + 4 + block.1.length) ::
      (block.1 ++ [.jump (start + 2)])))
    (fits : machine.Fits program)
    (executed : machine.execute program earlyFail (start + 1) op =
      (machine.begin tables.cursors values, some (start + 2))) :
    machine.Yields program earlyFail (2 * (block.1.length + 3) * (1 + totalSize values)) (start + 1)
      (start + 4 + block.1.length) tables.slots tables.cursors
      (((child.judge .binding mode).each values).map
        (Finding.beneath (slotTrail machine.slots slot))) := by
  have begins := Machine.begin_extends (Nat.le_refl tables.cursors) tables.slots machine values
  have grown := node_grows mode child (start + 3) tables.slots tables.withCursor.withSlot
  rw [laid] at grown
  have loopGrows : tables.withCursor.withSlot.Grows program.tables := grown.trans grows
  have room : tables.cursors < machine.cursors.size := Nat.lt_of_lt_of_le loopGrows.cursors fits.cursors
  have finish : start + 2 + 2 + block.1.length = start + 4 + block.1.length := by omega
  have body : ∀ (value : Value) (loaded : Machine), loaded.Fits program →
      loaded.value tables.slots = some value →
      loaded.Yields program earlyFail (2 * block.1.length * value.size) (start + 3)
        (start + 3 + block.1.length) (tables.slots + 1) (tables.cursors + 1)
        ((child.judge .binding mode (some value)).map
          (Finding.beneath (slotTrail loaded.slots tables.slots))) := by
    intro value loaded loadedFits loadedValue
    have finds := sound (start + 3) tables.slots tables.withCursor.withSlot (some value)
      (Nat.lt_succ_self _) program earlyFail loaded
    rw [laid] at finds
    exact finds grows holds.tail.tail.left loadedFits loadedValue
  have next : program.ops[start + 2]? =
      some (.next slot tables.cursors tables.slots (start + 2 + 2 + block.1.length)) := by
    rw [finish]
    exact holds.tail.head
  have loop := Machine.Yields.loop next holds.tail.tail.right.head low loopGrows.slots
    loopGrows.cursors body values (machine.begin tables.cursors values) (begins.fits fits)
    (Machine.begin_cursor room values)
  rw [finish] at loop
  refine .mono ?_ (.silent holds.head executed begins loop)
  simp only [Nat.mul_add, Nat.add_mul]
  omega

/-- What both composites with one child come to.  They differ in the values that
they go through, if there are any, and in the operations that open them and fill
the cursor. -/
theorem container_finds {child : Shape} (sound : Sound mode child) (notContainer : Template)
    (bounds : LengthBounds) (unit : String) (start slot : Nat) (tables : Tables) (value : Value)
    (values? : Option (List (Segment × Value)))
    (opening : Nat → Option (LengthBounds × Nat) → Nat → Op) (fill : Nat → Op)
    (low : slot < tables.slots)
    (opens : ∀ (program : Program) (earlyFail : Bool) (machine : Machine) index length skip,
      machine.value slot = some value →
      machine.execute program earlyFail start (opening index length skip) =
        match values? with
        | some values =>
            match Machine.countError? length values.length with
            | some template =>
                machine.fail program earlyFail template slot (some values.length) skip
            | none => (machine, some (start + 1))
        | none => machine.fail program earlyFail index slot none skip)
    (fills : ∀ (program : Program) (earlyFail : Bool) (machine : Machine) cursor values,
      machine.value slot = some value → values? = some values →
      machine.execute program earlyFail (start + 1) (fill cursor) =
        (machine.begin cursor values, some (start + 2)))
    (size : ∀ values, values? = some values → 1 + totalSize values = value.size) :
    let named := tables.withTemplate notContainer
    let counted := count bounds unit named.2
    let block := node mode child (start + 3) counted.2.slots counted.2.withCursor.withSlot
    Finds tables block.2 start slot
      (opening named.1 counted.1 (start + 4 + block.1.length) :: fill counted.2.cursors ::
        .next slot counted.2.cursors counted.2.slots (start + 4 + block.1.length) ::
        (block.1 ++ [.jump (start + 2)]))
      (some value)
      (match values? with
      | some values =>
          if bounds.admits .binding values.length then (child.judge .binding mode).each values
          else [(Template.length bounds unit).here (some value) (some values.length)]
      | none => [notContainer.here (some value) none]) := by
  intro named counted block program earlyFail machine grows holds fits valueEq
  have countGrows : counted.2.Grows program.tables :=
    ((counted.2.withCursor_grows.trans counted.2.withCursor.withSlot_grows).trans
      (node_grows mode child _ _ _)).trans grows
  have nameGrows : named.2.Grows program.tables := (count_grows bounds unit named.2).trans countGrows
  have before : tables.Grows counted.2 :=
    (tables.withTemplate_grows notContainer).trans (count_grows bounds unit named.2)
  have positive := one_le_weight (some value)
  let rest : List Op := fill counted.2.cursors ::
    .next slot counted.2.cursors counted.2.slots (start + 4 + block.1.length) ::
    (block.1 ++ [.jump (start + 2)])
  have length : rest.length = block.1.length + 3 := by
    simp only [rest, List.length_cons, List.length_append, List.length_nil]
  have skip : start + 4 + block.1.length = start + 1 + rest.length := by omega
  have executed := opens program earlyFail machine named.1 counted.1 (start + 4 + block.1.length) valueEq
  cases values? with
  | none =>
      exact yields_instead positive valueEq holds.head (template_stored nameGrows)
        (executed.trans (congrArg (machine.fail program earlyFail named.1 slot none) skip))
  | some values =>
      have checked := countError?_count countGrows values.length
      simp only at executed ⊢
      by_cases admitted : bounds.admits .binding values.length = true
      · rw [if_pos admitted] at checked ⊢
        rw [checked] at executed
        have sweeps := sweep_yields sound (Nat.lt_of_lt_of_le low before.slots) rfl grows holds.tail fits
          (fills program earlyFail machine counted.2.cursors values valueEq rfl)
        rw [size values rfl, skip, ← length] at sweeps
        exact yields_behind positive holds.head executed (sweeps.weaken before.slots before.cursors)
      · rw [if_neg admitted] at checked ⊢
        rcases checked with ⟨index, refused, stored⟩
        rw [refused] at executed
        exact yields_instead positive valueEq holds.head stored (executed.trans
          (congrArg (machine.fail program earlyFail index slot (some values.length)) skip))

theorem length_indexedFrom (items : List Value) : ∀ position : Nat,
    (Value.indexedFrom position items).length = items.length := by
  induction items with
  | nil =>
      intro position
      rfl
  | cons item rest inductionHypothesis =>
      intro position
      rw [Value.indexedFrom, List.length_cons, List.length_cons, inductionHypothesis]

theorem array_finds {item : Shape} (sound : Sound mode item) (length : LengthBounds)
    (start slot : Nat) (tables : Tables) (value : Value) (low : slot < tables.slots) :
    Finds tables (form mode (.array item length) start slot tables).2 start slot
      (form mode (.array item length) start slot tables).1 (some value)
      (((Form.array item length).map (Shape.judge .binding mode)).judge .binding mode value) := by
  cases value with
  | list items =>
      have count : (Value.indexed items).length = items.length := length_indexedFrom items 0
      have size : ∀ values, some (Value.indexed items) = some values →
          1 + totalSize values = (Value.list items).size := by
        rintro values same
        rw [← Option.some.inj same, Value.indexed, totalSize_indexedFrom, Value.size]
      have finds := container_finds sound .notArray length "items" start slot tables (.list items)
        (some (Value.indexed items)) (.array slot) (.items slot) low ?opens ?fills size
      case opens =>
        intro program earlyFail machine index bounds skip valueEq
        cases error : Machine.countError? bounds items.length <;>
          simp only [Machine.execute, valueEq, count, error]
      case fills =>
        intro program earlyFail machine cursor values valueEq same
        simp only [Machine.execute, valueEq, Option.some.inj same]
      simp only [count] at finds
      exact finds
  | _ =>
      refine container_finds sound .notArray length "items" start slot tables _ none (.array slot)
        (.items slot) low ?opens ?fills ?size
      case opens =>
        intro program earlyFail machine index bounds skip valueEq
        simp only [Machine.execute, valueEq]
      case fills =>
        intro program earlyFail machine cursor values valueEq absent
        cases absent
      case size =>
        intro values absent
        cases absent

theorem record_finds {shape : Shape} (sound : Sound mode shape) (keys : LengthBounds)
    (start slot : Nat) (tables : Tables) (value : Value) (low : slot < tables.slots) :
    Finds tables (form mode (.record shape keys) start slot tables).2 start slot
      (form mode (.record shape keys) start slot tables).1 (some value)
      (((Form.record shape keys).map (Shape.judge .binding mode)).judge .binding mode value) := by
  cases value with
  | record entries =>
      have count : (Value.keyed entries).length = entries.length := List.length_map ..
      have size : ∀ values, some (Value.keyed entries) = some values →
          1 + totalSize values = (Value.record entries).size := by
        rintro values same
        rw [← Option.some.inj same, totalSize_keyed, Value.size]
      have finds := container_finds sound .notObject keys "keys" start slot tables (.record entries)
        (some (Value.keyed entries)) (.record slot) (.entries slot) low ?opens ?fills size
      case opens =>
        intro program earlyFail machine index bounds skip valueEq
        cases error : Machine.countError? bounds entries.length <;>
          simp only [Machine.execute, valueEq, count, error]
      case fills =>
        intro program earlyFail machine cursor values valueEq same
        simp only [Machine.execute, valueEq, Option.some.inj same]
      simp only [count] at finds
      exact finds
  | _ =>
      refine container_finds sound .notObject keys "keys" start slot tables _ none (.record slot)
        (.entries slot) low ?opens ?fills ?size
      case opens =>
        intro program earlyFail machine index bounds skip valueEq
        simp only [Machine.execute, valueEq]
      case fills =>
        intro program earlyFail machine cursor values valueEq absent
        cases absent
      case size =>
        intro values absent
        cases absent

theorem union_finds (shapes : List Shape) (children : ∀ shape ∈ shapes, Sound mode shape)
    (some? : shapes ≠ []) (start slot : Nat) (tables : Tables) (value : Value)
    (low : slot < tables.slots) :
    Finds tables (form mode (.union shapes) start slot tables).2 start slot
      (form mode (.union shapes) start slot tables).1 (some value)
      (((Form.union shapes).map (Shape.judge .binding mode)).judge .binding mode value) := by
  intro program earlyFail machine grows holds fits valueEq
  let named := tables.withTemplate (.unionMismatch shapes.length)
  let blocks := alternatives mode shapes (start + 1) slot named.2
  let closing := start + 1 + Assembler.sizeAlternatives blocks.1
  let reports := shapes.map fun shape => shape.judge .binding mode (some value)
  have nameGrows : named.2.Grows program.tables :=
    (alternatives_grows mode shapes (fun shape _ => node_grows mode shape) slot _ _).trans grows
  have holds : program.Holds start (.openUnion (mode == .synthesized) ::
      (Assembler.layAlternatives (closing + 1) (start + 1) blocks.1 ++ [.closeUnion slot named.1])) :=
    holds
  have closes := holds.tail.right.head
  rw [Assembler.layAlternatives_length] at closes
  have grown := tables.withTemplate_grows (.unionMismatch shapes.length)
  have stored : program.templates[named.1]? = some (.unionMismatch reports.length) := by
    rw [List.length_map]
    exact template_stored nameGrows
  have something : reports ≠ [] := fun empty => some? (List.map_eq_nil_iff.mp empty)
  have attempts : ∀ opened, Machine.Inside tables.slots tables.cursors
      ((mode == .synthesized) || machine.halts earlyFail) (mode == .synthesized) machine [] opened →
      Machine.Attempts program earlyFail (2 * Assembler.sizeAlternatives blocks.1 * value.size)
        (start + 1) closing (closing + 1) tables.slots tables.cursors
        ((mode == .synthesized) || machine.halts earlyFail) (mode == .synthesized) machine opened []
        (reports.map (List.map (Finding.beneath (slotTrail machine.slots slot)))) := by
    intro opened inside
    rw [List.map_map]
    exact alternatives_attempt shapes children fits valueEq low (start + 1) named.2 opened []
      grown.slots grown.cursors grows holds.tail.left inside
  have yields := Machine.Yields.union holds.head closes stored valueEq low something attempts
  have length : (form mode (.union shapes) start slot tables).1.length =
      Assembler.sizeAlternatives blocks.1 + 2 := by
    have inside : (Assembler.layAlternatives (closing + 1) (start + 1) blocks.1 ++
        [Op.closeUnion slot named.1]).length = Assembler.sizeAlternatives blocks.1 + 1 := by
      rw [List.length_append, Assembler.layAlternatives_length, List.length_singleton]
    exact congrArg (· + 1) inside
  have finish : start + (Assembler.sizeAlternatives blocks.1 + 2) = closing + 1 := by omega
  have bound : 2 * Assembler.sizeAlternatives blocks.1 * value.size + 2 ≤
      2 * (Assembler.sizeAlternatives blocks.1 + 2) * value.size := by
    have positive := value.one_le_size
    simp only [Nat.mul_add, Nat.add_mul]
    omega
  have reported : ((Form.union shapes).map (Shape.judge .binding mode)).judge .binding mode value =
      Judgement.union mode value reports := by
    simp only [Form.map, Form.judge, List.map_map]
    rfl
  rw [length, finish, reported]
  exact yields.mono bound

/-! ## Nodes -/

theorem form_finds {shapes : Form Shape} (proper : shapes.Proper)
    (children : ∀ shape ∈ shapes.children, Sound mode shape) (start slot : Nat) (tables : Tables)
    (value : Value) (low : slot < tables.slots) :
    Finds tables (form mode shapes start slot tables).2 start slot
      (form mode shapes start slot tables).1 (some value)
      ((shapes.map (Shape.judge .binding mode)).judge .binding mode value) := by
  cases shapes with
  | leaf scalar => exact leaf_finds start slot scalar tables value
  | object fields =>
      exact object_finds fields (fun field member => children field.2 (List.mem_map_of_mem member))
        start slot tables value low
  | array item length =>
      exact array_finds (children item List.mem_cons_self) length start slot tables value low
  | tuple items => exact tuple_finds items children start slot tables value low
  | record shape keys =>
      exact record_finds (children shape List.mem_cons_self) keys start slot tables value low
  | union alternatives => exact union_finds alternatives children proper start slot tables value low

/-- The block of every proper tree finds what the tree does. -/
theorem node_sound {shape : Shape} (proper : shape.Proper) : Sound mode shape := by
  induction proper with
  | node header shapes own children inductionHypothesis =>
      intro start slot tables value low program earlyFail machine grows holds fits valueEq
      let named := tables.withTemplate .required
      let block := form mode shapes (start + 1) slot named.2
      have nameGrows : named.2.Grows program.tables :=
        (form_grows mode shapes (fun shape _ => node_grows mode shape) _ _ _).trans grows
      have holds : program.Holds start (.gate slot header.required header.nullable
          (Form.nullIsValue shapes) named.1 (start + 1 + block.1.length) :: block.1) := holds
      have low : slot < named.2.slots := Nat.lt_of_lt_of_le low (tables.withTemplate_grows _).slots
      have positive := one_le_weight value
      rw [Shape.judge_node]
      simp only [Judgement.gated]
      cases gate : presence header.required header.nullable (Form.nullIsValue shapes) value with
      | missing =>
          refine yields_instead positive valueEq holds.head (template_stored nameGrows) ?_
          simp only [Machine.execute, valueEq, gate]
          rfl
      | skip =>
          refine yields_over positive holds.head ?_
          simp only [Machine.execute, valueEq, gate]
      | check =>
          cases value with
          | none =>
              cases required : header.required <;>
                simp only [presence, required, if_true, Bool.false_eq_true, if_false, reduceCtorEq] at gate
          | some value =>
              refine yields_behind positive holds.head ?_ ?_
              · simp only [Machine.execute, valueEq, gate]
              · exact form_finds own inductionHypothesis (start + 1) slot named.2 value low program
                  earlyFail machine grows holds.tail fits valueEq

end Layout

/-! ## Whole programs -/

namespace Machine

theorem start_fits (program : Program) (value : Option Value) : (start program value).Fits program where
  slots := by
    simp only [start, Array.size_setIfInBounds, Array.size_replicate]
    exact Nat.le_max_left program.slots 1
  cursors := by
    simp only [start, Array.size_replicate]
    exact Nat.le_refl program.cursors

/-- The value that is checked stands in the first slot and was taken from nowhere. -/
theorem start_slot (program : Program) (value : Option Value) :
    (start program value).slots[0]? = some ⟨value, none⟩ := by
  apply Array.getElem?_setIfInBounds_self_of_lt
  rw [Array.size_replicate]
  exact Nat.le_max_right program.slots 1

theorem start_value (program : Program) (value : Option Value) :
    (start program value).value 0 = value := by
  rw [Machine.value, start_slot, Option.bind_some]

theorem start_trail (program : Program) (value : Option Value) :
    slotTrail (start program value).slots 0 = [] := by
  rw [slotTrail, start_slot, Option.bind_some]

/-- Outside of all unions a part that does not come out at its finish ends the run. -/
theorem start_exit (program : Program) (value : Option Value) (halt : Bool) (finish : Nat)
    (findings : List Finding) :
    (start program value).exit halt finish findings = none ∨
      (start program value).exit halt finish findings = some finish := by
  cases findings with
  | nil => exact .inr rfl
  | cons finding rest =>
      cases halt with
      | true => exact .inl rfl
      | false => exact .inr rfl

end Machine

namespace Schema

variable (schema : Schema) (mode : UnionMode)

/-- The block of the root is the program. -/
theorem layout_holds :
    (schema.layout mode).Holds 0 (Layout.node mode schema.rootShape 0 0 .initial).1 := by
  intro offset op listed
  rw [Nat.zero_add]
  exact List.getElem?_toArray.trans listed

/-- A whole run yields what the tree of the schema finds, within the bound. -/
theorem layout_yields (halt : Bool) (value : Option Value) :
    (Machine.start (schema.layout mode) value).Yields (schema.layout mode) halt
      (2 * (schema.layout mode).size * weight value) 0 (schema.layout mode).size 1 0
      (schema.rootShape.judge .binding mode value) := by
  have sound : Layout.Sound mode schema.rootShape := Layout.node_sound (schema.shape_proper schema.root)
  have yields := sound 0 0 .initial value Nat.zero_lt_one (schema.layout mode) halt
    (.start (schema.layout mode) value) (.refl _) (schema.layout_holds mode) (Machine.start_fits _ value)
    (Machine.start_value _ value)
  rw [Machine.start_trail, Finding.beneath_nil, Nat.zero_add] at yields
  exact yields

/-- A run is over after as many steps as its bound says, and has found what the
tree of the schema finds. -/
theorem layout_ends (halt : Bool) (value : Option Value) :
    ∃ count ≤ (schema.layout mode).bound value, ∃ last,
      Machine.Ends (schema.layout mode) halt count (.start (schema.layout mode) value) last ∧
      last.found.toList = kept halt (schema.rootShape.judge .binding mode value) := by
  rcases schema.layout_yields mode halt value with ⟨count, bound, last, trace, extended⟩
  refine ⟨count, Nat.le_add_right_of_le bound, last, ⟨_, trace, ?beyond⟩, ?found⟩
  case beyond =>
    intro next reached
    rcases Machine.start_exit (schema.layout mode) value halt (schema.layout mode).size
      (schema.rootShape.judge .binding mode value) with stopped | finishes
    · rw [stopped] at reached
      cases reached
    · rw [finishes] at reached
      cases reached
      exact Array.getElem?_size
  case found =>
    rw [extended.found_eq]
    simp [Machine.start, Machine.halts]

/-- A program finds in a value what the tree of its schema does. -/
theorem layout_run (halt : Bool) (value : Option Value) :
    (schema.layout mode).findings halt value =
      kept halt (schema.rootShape.judge .binding mode value) := by
  rcases schema.layout_ends mode halt value with ⟨count, bound, last, ends, found⟩
  rw [Program.findings, ends.run_eq bound, found]

end Schema
end Conformance
