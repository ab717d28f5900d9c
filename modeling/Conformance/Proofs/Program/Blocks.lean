import Conformance.Proofs.Program.Alternatives
import Conformance.Proofs.Program.Growth

namespace Conformance

/-!
# Blocks in a program

A block finds what it should find in every program that holds it at its start and
whose tables contain those that the layout left.  Nothing else of the program
matters, so what is shown of a block holds wherever the block is put.

A block reads its value from one slot.  It writes only slots and cursors that were
handed out after its layout began, which is why a parent finds its own value again
after each of its children.
-/

namespace Program

/-- The tables of a program. -/
def tables (program : Program) : Tables :=
  ⟨program.templates, program.strings, program.patterns, program.slots, program.cursors⟩

/-- A program with a block at a position. -/
def Holds (program : Program) (start : Nat) (block : List Op) : Prop :=
  ∀ (offset : Nat) (op : Op), block[offset]? = some op → program.ops[start + offset]? = some op

namespace Holds

variable {program : Program} {start : Nat} {op : Op} {block first rest : List Op}

theorem head (holds : program.Holds start (op :: block)) : program.ops[start]? = some op :=
  holds 0 op rfl

theorem tail (holds : program.Holds start (op :: block)) : program.Holds (start + 1) block := by
  intro offset other listed
  have place : start + 1 + offset = start + (offset + 1) := by omega
  rw [place]
  exact holds (offset + 1) other listed

theorem left (holds : program.Holds start (first ++ rest)) : program.Holds start first := by
  intro offset other listed
  have early := (List.getElem?_eq_some_iff.mp listed).1
  exact holds offset other ((List.getElem?_append_left early).trans listed)

theorem right (holds : program.Holds start (first ++ rest)) :
    program.Holds (start + first.length) rest := by
  intro offset other listed
  rw [Nat.add_assoc]
  refine holds (first.length + offset) other ?_
  rw [List.getElem?_append_right (Nat.le_add_right _ _), Nat.add_sub_cancel_left]
  exact listed

end Holds
end Program

/-- How often the operations of a block can run on a value. -/
def weight (value : Option Value) : Nat := value.elim 1 Value.size

theorem one_le_weight (value : Option Value) : 1 ≤ weight value := by
  cases value with
  | none => exact Nat.le_refl 1
  | some value => exact value.one_le_size

/-- A block that was laid out between two states of the tables and finds something
in the value of its slot. -/
def Finds (before after : Tables) (start slot : Nat) (block : List Op) (value : Option Value)
    (findings : List Finding) : Prop :=
  ∀ (program : Program) (earlyFail : Bool) (machine : Machine),
    after.Grows program.tables → program.Holds start block → machine.Fits program →
    machine.value slot = value →
    machine.Yields program earlyFail (2 * block.length * weight value) start (start + block.length)
      before.slots before.cursors (findings.map (Finding.beneath (slotTrail machine.slots slot)))

namespace Layout

/-! ## What the tables say in a program -/

section

variable {program : Program} {tables : Tables}

theorem template_stored {entry : Template}
    (grows : (tables.withTemplate entry).2.Grows program.tables) :
    program.templates[(tables.withTemplate entry).1]? = some entry :=
  grows.templates _ _ (tables.withTemplate_finds entry)

/-- A count is compared if its bounds bind, and refused with their template. -/
theorem countError?_count {bounds : LengthBounds} {unit : String}
    (grows : (count bounds unit tables).2.Grows program.tables) (found : Nat) :
    if bounds.admits .binding found then
      Machine.countError? (count bounds unit tables).1 found = none
    else
      ∃ index, Machine.countError? (count bounds unit tables).1 found = some index ∧
        program.templates[index]? = some (.length bounds unit) := by
  rw [count] at grows ⊢
  cases unbounded : bounds.isUnbounded with
  | true => simp only [LengthBounds.admits, unbounded, Bool.true_or, if_true, Machine.countError?]
  | false =>
      simp only [unbounded, Bool.false_eq_true, if_false] at grows ⊢
      simp only [LengthBounds.admits, unbounded, Bool.false_or, Machine.countError?]
      cases bounds.contains found with
      | true => simp only [if_true]
      | false =>
          simp only [Bool.false_eq_true, if_false]
          exact ⟨_, rfl, template_stored grows⟩

/-- The template of the bounds of a leaf is listed if the bounds are reported. -/
theorem constraint_stored (scalar : Leaf)
    (grows : (constraint scalar tables).2.Grows program.tables) :
    Option.Rel (fun index entry => program.templates[index]? = some entry)
      (constraint scalar tables).1
      (if scalar.countsWith .binding then scalar.template? .constraint else none) := by
  rw [constraint] at grows ⊢
  cases bounded : scalar.template? .constraint with
  | none =>
      rw [ite_self]
      exact .none
  | some entry =>
      by_cases counts : scalar.countsWith .binding = true
      · simp only [bounded, if_pos counts] at grows ⊢
        exact .some (template_stored grows)
      · simp only [if_neg counts]
        exact .none

/-- The test of a leaf finds the violations of the leaf. -/
theorem violation?_leafTest (scalar : Leaf) {test : LeafTest}
    (grows : (leafTest scalar tables).2.Grows program.tables)
    (tested : (leafTest scalar tables).1 = some test) (value : Value) :
    Machine.violation? program test value = scalar.violation? value := by
  cases scalar with
  | exact expected =>
      have stored : program.strings[(tables.withString expected).1]? = some expected :=
        grows.strings _ _ (tables.withString_finds expected)
      have same : LeafTest.exact (tables.withString expected).1 = test := Option.some.inj tested
      rw [← same, Machine.violation?, stored]
      rfl
  | pattern expected =>
      have stored : program.patterns[(tables.withPattern expected).1]? = some expected :=
        grows.patterns _ _ (tables.withPattern_finds expected)
      have same : LeafTest.pattern (tables.withPattern expected).1 = test := Option.some.inj tested
      rw [← same, Machine.violation?, stored]
      rfl
  | unknown => cases tested
  | _ =>
      cases tested
      rfl

end

/-- Only the leaf that accepts everything has no operation. -/
theorem leaf_cases (slot : Nat) (scalar : Leaf) (tables : Tables) :
    (scalar = .unknown ∧ leaf slot scalar tables = ([], tables)) ∨
      ∃ entry test, scalar.template? .wrongType = some entry ∧
        (leafTest scalar (constraint scalar (tables.withTemplate entry).2).2).1 = some test ∧
        leaf slot scalar tables =
          ([.test slot test (tables.withTemplate entry).1
            (constraint scalar (tables.withTemplate entry).2).1],
            (leafTest scalar (constraint scalar (tables.withTemplate entry).2).2).2) := by
  cases scalar with
  | unknown => exact .inl ⟨rfl, rfl⟩
  | timestamp format => cases format <;> exact .inr ⟨_, _, rfl, rfl, rfl⟩
  | _ => exact .inr ⟨_, _, rfl, rfl, rfl⟩

theorem leaf_finds (start slot : Nat) (scalar : Leaf) (tables : Tables) (value : Value) :
    Finds tables (leaf slot scalar tables).2 start slot (leaf slot scalar tables).1 (some value)
      (Judgement.leaf .binding scalar value) := by
  intro program earlyFail machine grows holds fits valueEq
  rcases leaf_cases slot scalar tables with ⟨unknown, empty⟩ | ⟨entry, test, typed, tested, single⟩
  · rw [empty, unknown]
    exact .mono (Nat.zero_le _) (.nothing start _ _ machine)
  · rw [single] at grows holds ⊢
    have bounded := (leafTest_grows scalar _).trans grows
    have typeStored := template_stored ((constraint_grows scalar _).trans bounded)
    have boundStored := constraint_stored scalar bounded
    have checks := violation?_leafTest scalar grows tested value
    have bound : 1 ≤ 2 * 1 * weight (some value) := by
      have positive := one_le_weight (some value)
      omega
    refine .mono bound ?_
    have fetched := holds.head
    cases violated : scalar.violation? value with
    | none =>
        simp only [Judgement.leaf, violated]
        refine .skip fetched ?_
        simp only [Machine.execute, valueEq, Option.bind_some, checks, violated]
        rfl
    | some violation =>
        simp only [Judgement.leaf, violated, Leaf.reported?]
        cases kind : violation.kind with
        | wrongType =>
            simp only [typed]
            rw [← valueEq]
            refine .raise fetched typeStored ?_
            simp only [Machine.execute, valueEq, Option.bind_some, checks, violated, kind]
            rfl
        | constraint =>
            simp only
            generalize (constraint scalar (tables.withTemplate entry).2).1 = index? at boundStored fetched ⊢
            generalize (if scalar.countsWith .binding then scalar.template? .constraint else none) =
              entry? at boundStored ⊢
            cases boundStored with
            | none =>
                refine .skip fetched ?_
                simp only [Machine.execute, valueEq, Option.bind_some, checks, violated, kind]
                rfl
            | some stored =>
                simp only
                rw [← valueEq]
                refine .raise fetched stored ?_
                simp only [Machine.execute, valueEq, Option.bind_some, checks, violated, kind]
                rfl

/-! ## Children one after another -/

/-- The block of a tree finds what the tree does, wherever it is laid out. -/
def Sound (mode : UnionMode) (shape : Shape) : Prop :=
  ∀ (start slot : Nat) (tables : Tables) (value : Option Value), slot < tables.slots →
    Finds tables (node mode shape start slot tables).2 start slot
      (node mode shape start slot tables).1 value (shape.judge .binding mode value)

theorem lookup?_weight (key : String) (entries : List (String × Value)) :
    weight (Value.lookup? key entries) ≤ 1 + Value.sizeEntries entries := by
  induction entries with
  | nil => exact Nat.le_add_right 1 _
  | cons entry rest inductionHypothesis =>
      rcases entry with ⟨name, value⟩
      simp only [Value.lookup?, Value.sizeEntries]
      by_cases found : name = key
      · rw [if_pos found]
        simp only [weight, Option.elim_some]
        omega
      · rw [if_neg found]
        omega

theorem item_weight {items : List Value} : ∀ {position : Nat} {item : Value},
    items[position]? = some item → item.size ≤ Value.sizeItems items := by
  induction items with
  | nil =>
      intro position item listed
      cases listed
  | cons first rest inductionHypothesis =>
      intro position item listed
      rw [Value.sizeItems]
      cases position with
      | zero =>
          cases listed
          exact Nat.le_add_right _ _
      | succ position =>
          exact Nat.le_trans (inductionHypothesis listed) (Nat.le_add_left _ _)

/-- The blocks of children take no longer than all of them on the whole value. -/
theorem steps_cons {first rest part whole : Nat} (positive : 1 ≤ whole) (below : part ≤ whole) :
    2 * first * part + 2 * rest * whole + 1 ≤ 2 * (first + rest + 1) * whole := by
  have inside : 2 * first * part ≤ 2 * first * whole := Nat.mul_le_mul_left _ below
  have spread : 2 * (first + rest + 1) * whole =
      2 * first * whole + 2 * rest * whole + 2 * whole := by
    simp only [Nat.mul_add, Nat.add_mul]
  omega

variable {mode : UnionMode}

/-- A child whose value is loaded by one operation, and what comes after it.  `named`
are the tables behind that operation. -/
theorem child_finds {shape : Shape} (sound : Sound mode shape) {start source : Nat}
    {before named after : Tables} {op : Op} {segment : Segment} {whole : Value} {child : Option Value}
    {rest : List Op} {findings : List Finding} (low : source < before.slots)
    (slots : named.slots = before.slots + 1) (cursors : named.cursors = before.cursors)
    (light : weight child ≤ weight (some whole))
    (executes : ∀ (program : Program) (earlyFail : Bool) (machine : Machine),
      named.Grows program.tables → machine.value source = some whole →
      machine.execute program earlyFail start op =
        (machine.load before.slots child source segment, some (start + 1))) :
    let block := node mode shape (start + 1) before.slots named
    block.2.Grows after →
    Finds block.2 after (start + 1 + block.1.length) source rest (some whole) findings →
    Finds before after start source (op :: (block.1 ++ rest)) (some whole)
      ((shape.judge .binding mode).step segment child ++ findings) := by
  intro block grows others program earlyFail machine afterGrows holds fits valueEq
  have grown : named.Grows block.2 := node_grows mode shape (start + 1) before.slots named
  have blockGrows : block.2.Grows program.tables := grows.trans afterGrows
  have namedGrows : named.Grows program.tables := grown.trans blockGrows
  have room : before.slots < program.slots := by
    have handedOut := namedGrows.slots
    rw [slots] at handedOut
    exact handedOut
  have lowSlots : before.slots ≤ block.2.slots := by
    have handedOut := grown.slots
    rw [slots] at handedOut
    exact Nat.le_of_lt handedOut
  have lowCursors : before.cursors ≤ block.2.cursors := cursors ▸ grown.cursors
  have first : ∀ loaded : Machine, loaded.Fits program → loaded.value before.slots = child →
      loaded.Yields program earlyFail (2 * block.1.length * weight child) (start + 1)
        (start + 1 + block.1.length) (before.slots + 1) before.cursors
        ((shape.judge .binding mode child).map
          (Finding.beneath (slotTrail loaded.slots before.slots))) := by
    intro loaded loadedFits loadedValue
    have below : before.slots < named.slots := by
      rw [slots]
      exact Nat.lt_succ_self before.slots
    rw [← slots, ← cursors]
    exact sound (start + 1) before.slots named child below program earlyFail loaded blockGrows
      holds.tail.left loadedFits loadedValue
  have later : ∀ last : Machine, last.Fits program → last.value source = machine.value source →
      last.Yields program earlyFail (2 * rest.length * weight (some whole))
        (start + 1 + block.1.length) (start + 1 + block.1.length + rest.length) before.slots
        before.cursors (findings.map (Finding.beneath (slotTrail last.slots source))) := by
    intro last lastFits sameValue
    exact (others program earlyFail last afterGrows holds.tail.right lastFits
      (sameValue.trans valueEq)).weaken lowSlots lowCursors
  have yields := Machine.Yields.load fits low room holds.head
    (executes program earlyFail machine namedGrows valueEq) first later
  have length : (op :: (block.1 ++ rest)).length = block.1.length + rest.length + 1 := by
    rw [List.length_cons, List.length_append]
  have finish : start + (block.1.length + rest.length + 1) =
      start + 1 + block.1.length + rest.length := by omega
  rw [List.map_append, Judgement.step_beneath, length, finish]
  exact yields.mono (steps_cons (one_le_weight (some whole)) light)

theorem fields_find (shapes : List (String × Shape))
    (children : ∀ field ∈ shapes, Sound mode field.2) (source : Nat)
    (entries : List (String × Value)) : ∀ (start : Nat) (tables : Tables), source < tables.slots →
    Finds tables (fields mode shapes start source tables).2 start source
      (fields mode shapes start source tables).1 (some (.record entries))
      (Judgement.fields (shapes.map fun (name, shape) => (name, shape.judge .binding mode)) entries) := by
  induction shapes with
  | nil =>
      intro start tables low program earlyFail machine grows holds fits valueEq
      exact .mono (Nat.zero_le _) (.nothing start _ _ machine)
  | cons field rest inductionHypothesis =>
      intro start tables low
      rcases field with ⟨key, shape⟩
      let named := tables.withSlot.withString key
      let block := node mode shape (start + 1) tables.slots named.2
      have grown : named.2.Grows block.2 := node_grows mode shape (start + 1) tables.slots named.2
      have others := inductionHypothesis (fun field member => children field (List.mem_cons_of_mem _ member))
        (start + 1 + block.1.length) block.2 (Nat.lt_of_lt_of_le (Nat.lt_succ_of_lt low) grown.slots)
      have loads : ∀ (program : Program) (earlyFail : Bool) (machine : Machine),
          named.2.Grows program.tables → machine.value source = some (.record entries) →
          machine.execute program earlyFail start (.field source tables.slots named.1) =
            (machine.load tables.slots (Value.lookup? key entries) source (.key key),
              some (start + 1)) := by
        intro program earlyFail machine grows valueEq
        have stored : program.strings[named.1]? = some key :=
          grows.strings _ _ (tables.withSlot.withString_finds key)
        simp only [Machine.execute, valueEq, stored, Option.getD_some]
      rw [List.map_cons, Judgement.fields_cons]
      exact child_finds (children (key, shape) List.mem_cons_self) low rfl rfl
        (lookup?_weight key entries) loads
        (fields_grows mode rest (fun field _ => node_grows mode field.2) source _ _) others

theorem positions_find (shapes : List Shape) (children : ∀ shape ∈ shapes, Sound mode shape)
    (source : Nat) (items : List Value) : ∀ (position start : Nat) (tables : Tables),
    source < tables.slots → position + shapes.length = items.length →
    Finds tables (positions mode shapes position start source tables).2 start source
      (positions mode shapes position start source tables).1 (some (.list items))
      (Judgement.positions (shapes.map (Shape.judge .binding mode))
        (Value.indexedFrom position (items.drop position))) := by
  induction shapes with
  | nil =>
      intro position start tables low fit program earlyFail machine grows holds fits valueEq
      exact .mono (Nat.zero_le _) (.nothing start _ _ machine)
  | cons shape rest inductionHypothesis =>
      intro position start tables low fit
      rw [List.length_cons] at fit
      let block := node mode shape (start + 1) tables.slots tables.withSlot
      have grown : tables.withSlot.Grows block.2 :=
        node_grows mode shape (start + 1) tables.slots tables.withSlot
      have inRange : position < items.length := by omega
      have listed : items[position]? = some items[position] := List.getElem?_eq_getElem inRange
      have below : items[position].size ≤ 1 + Value.sizeItems items :=
        Nat.le_trans (item_weight listed) (Nat.le_add_left _ 1)
      have others := inductionHypothesis (fun shape member => children shape (List.mem_cons_of_mem _ member))
        (position + 1) (start + 1 + block.1.length) block.2
        (Nat.lt_of_lt_of_le (Nat.lt_succ_of_lt low) grown.slots) (by omega)
      have loads : ∀ (program : Program) (earlyFail : Bool) (machine : Machine),
          tables.withSlot.Grows program.tables → machine.value source = some (.list items) →
          machine.execute program earlyFail start (.element source tables.slots position) =
            (machine.load tables.slots (some items[position]) source (.index position),
              some (start + 1)) := by
        intro program earlyFail machine grows valueEq
        simp only [Machine.execute, valueEq, listed]
      rw [List.map_cons, List.drop_eq_getElem_cons inRange, Value.indexedFrom, Judgement.positions_cons]
      exact child_finds (children shape List.mem_cons_self) low rfl rfl below loads
        (positions_grows mode rest (fun shape _ => node_grows mode shape) source _ _ _) others

/-- The alternatives of a union are attempted one after another.  They share the
slot of the union, so only what lies before the union has to stay as it was. -/
theorem alternatives_attempt (shapes : List Shape) (children : ∀ shape ∈ shapes, Sound mode shape)
    {program : Program} {earlyFail halting synthesized : Bool} {slot slots cursors done : Nat}
    {outer : Machine} {value : Value} (fits : outer.Fits program)
    (valueEq : outer.value slot = some value) (low : slot < slots) :
    ∀ (start : Nat) (tables : Tables) (machine : Machine) (earlier : List Finding),
      slots ≤ tables.slots → cursors ≤ tables.cursors →
      (alternatives mode shapes start slot tables).2.Grows program.tables →
      program.Holds start
        (Assembler.layAlternatives done start (alternatives mode shapes start slot tables).1) →
      Machine.Inside slots cursors halting synthesized outer earlier machine →
      Machine.Attempts program earlyFail
        (2 * Assembler.sizeAlternatives (alternatives mode shapes start slot tables).1 * value.size)
        start (start + Assembler.sizeAlternatives (alternatives mode shapes start slot tables).1) done
        slots cursors halting synthesized outer machine earlier
        (shapes.map fun shape => (shape.judge .binding mode (some value)).map
          (Finding.beneath (slotTrail outer.slots slot))) := by
  induction shapes with
  | nil =>
      intro start tables machine earlier lowSlots lowCursors grows holds inside
      exact .mono (Nat.zero_le _) (.nil inside)
  | cons shape rest inductionHypothesis =>
      intro start tables machine earlier lowSlots lowCursors grows holds inside
      let block := node mode shape (start + 1) slot tables
      let others := alternatives mode rest (start + 2 + block.1.length) slot block.2
      have grown := node_grows mode shape (start + 1) slot tables
      have blockGrows : block.2.Grows program.tables :=
        (alternatives_grows mode rest (fun shape _ => node_grows mode shape) slot _ _).trans grows
      have holds : program.Holds start (.openAlternative (start + 1 + block.1.length) ::
          (block.1 ++ .closeAlternative done ::
            Assembler.layAlternatives done (start + 1 + block.1.length + 1) others.1)) := holds
      have place : start + 2 + block.1.length = start + 1 + block.1.length + 1 := by omega
      have holdsOthers := holds.tail.right.tail
      rw [← place] at holdsOthers
      have first := children shape List.mem_cons_self (start + 1) slot tables (some value)
        (Nat.lt_of_lt_of_le low lowSlots)
      have later := inductionHypothesis fun shape member => children shape (List.mem_cons_of_mem _ member)
      have size : Assembler.sizeAlternatives (alternatives mode (shape :: rest) start slot tables).1 =
          block.1.length + 2 + Assembler.sizeAlternatives others.1 := rfl
      have finish : start + (block.1.length + 2 + Assembler.sizeAlternatives others.1) =
          start + 2 + block.1.length + Assembler.sizeAlternatives others.1 := by omega
      have steps : 2 * block.1.length * value.size + 2 +
          2 * Assembler.sizeAlternatives others.1 * value.size ≤
          2 * (block.1.length + 2 + Assembler.sizeAlternatives others.1) * value.size := by
        have positive := value.one_le_size
        simp only [Nat.mul_add, Nat.add_mul]
        omega
      rw [List.map_cons, size, finish]
      refine .mono steps (.cons inside holds.head holds.tail.right.head ?block ?others)
      case block =>
        intro opened openedInside
        have yields := first program earlyFail opened blockGrows holds.tail.left (openedInside.fits fits)
          ((openedInside.value_eq low).trans valueEq)
        rw [openedInside.trail_eq low] at yields
        exact yields.weaken lowSlots lowCursors
      case others =>
        intro last lastInside
        rw [← place]
        exact later (start + 2 + block.1.length) block.2 last _ (Nat.le_trans lowSlots grown.slots)
          (Nat.le_trans lowCursors grown.cursors) grows holdsOthers lastInside

end Layout
end Conformance
