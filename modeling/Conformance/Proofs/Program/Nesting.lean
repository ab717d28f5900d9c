import Conformance.Proofs.Program.Blocks

namespace Conformance

/-!
# Nesting of unions

A program is flat, and nothing but its operations tells which unions are open at a
position.  The scopes of a position are read off the operations before it: opening
and closing operations match as brackets do, and jumps are ignored.

A machine does follow jumps.  It keeps a frame for every union only because no jump
leads out of one scope into another: a jump over a block lands where the scopes are
those it started from, a finding that ends an alternative lands at the end of that
alternative, and an alternative that accepts lands behind its union.  The layout of a
tree has these properties wherever it is put.
-/

/-- The unions that enclose a position, innermost first, each told by the position
where it is opened. -/
def Program.enclosing (program : Program) : Nat → List Nat
  | 0 => []
  | position + 1 =>
      match program.ops[position]? with
      | some (.openUnion _) => position :: program.enclosing position
      | some (.closeUnion _ _) => (program.enclosing position).tail
      | _ => program.enclosing position

/-- A union that is open at a position: where it was opened, and where its current
alternative is closed if the position is inside of one. -/
structure Scope where
  opening : Nat
  closing : Option Nat
deriving DecidableEq, Repr

namespace Op

/-- Whether an operation opens and closes nothing. -/
def isPlain : Op → Bool
  | .openUnion _ | .openAlternative _ | .closeAlternative _ | .closeUnion _ _ => false
  | _ => true

/-- Whether an operation belongs to a union that was opened before. -/
def belongs : Op → Bool
  | .openAlternative _ | .closeAlternative _ | .closeUnion _ _ => true
  | _ => false

/-- Where an operation that opens and closes nothing can lead besides the next
position, if nothing halts. -/
def target? : Op → Option Nat
  | .gate _ _ _ _ _ target | .object _ _ target | .array _ _ _ target | .tuple _ _ _ _ target
  | .record _ _ _ target | .next _ _ _ target | .jump target => some target
  | _ => none

/-- The scopes behind an operation, innermost first. -/
def scopesAfter (position : Nat) : Op → List Scope → List Scope
  | .openUnion _, scopes => ⟨position, none⟩ :: scopes
  | .openAlternative closing, scope :: outer => ⟨scope.opening, some closing⟩ :: outer
  | .closeAlternative _, scope :: outer => ⟨scope.opening, none⟩ :: outer
  | .closeUnion _ _, _ :: outer => outer
  | _, scopes => scopes

theorem scopesAfter_of_plain {op : Op} (plain : op.isPlain = true) (position : Nat)
    (scopes : List Scope) : op.scopesAfter position scopes = scopes := by
  cases op with
  | openUnion _ => cases plain
  | openAlternative _ => cases plain
  | closeAlternative _ => cases plain
  | closeUnion _ _ => cases plain
  | _ => rfl

end Op

namespace Program

variable {program : Program}

/-- A position that a program encloses in a union is where a union is opened. -/
theorem opens_of_mem_enclosing {opening : Nat} : ∀ {position : Nat},
    opening ∈ program.enclosing position →
      ∃ synthesized, program.ops[opening]? = some (.openUnion synthesized) := by
  intro position
  induction position with
  | zero =>
      intro member
      cases member
  | succ position inductionHypothesis =>
      intro member
      rw [enclosing] at member
      split at member
      case h_1 synthesized fetched =>
        rcases List.mem_cons.mp member with here | outside
        · rw [here]
          exact ⟨synthesized, fetched⟩
        · exact inductionHypothesis outside
      case h_2 => exact inductionHypothesis (List.mem_of_mem_tail member)
      case h_3 => exact inductionHypothesis member

/-- Of two unions, one inside of an alternative of the other, both enclose the inner
closing operation, and neither encloses the end. -/
example :
    let ops : Array Op := #[.openUnion false, .openAlternative 4, .openUnion true, .closeUnion 0 0,
      .closeAlternative 6, .closeUnion 0 0]
    let program : Program := ⟨ops, #[], #[], #[], 1, 0⟩
    program.enclosing 3 = [2, 0] ∧ program.enclosing 4 = [0] ∧ program.enclosing 6 = [] := by
  decide

/-- The scopes of a position, innermost first. -/
def scopes (program : Program) : Nat → List Scope
  | 0 => []
  | position + 1 =>
      match program.ops[position]? with
      | some op => op.scopesAfter position (program.scopes position)
      | none => program.scopes position

theorem scopes_succ {position : Nat} {op : Op} (fetched : program.ops[position]? = some op) :
    program.scopes (position + 1) = op.scopesAfter position (program.scopes position) := by
  rw [scopes, fetched]

theorem scopes_succ_of_plain {position : Nat} {op : Op} (fetched : program.ops[position]? = some op)
    (plain : op.isPlain = true) : program.scopes (position + 1) = program.scopes position := by
  rw [scopes_succ fetched, Op.scopesAfter_of_plain plain]

/-- The scopes of a position are the unions that enclose it. -/
theorem scopes_opening (program : Program) (position : Nat) :
    (program.scopes position).map Scope.opening = program.enclosing position := by
  induction position with
  | zero => rfl
  | succ position inductionHypothesis =>
      rw [enclosing, ← inductionHypothesis]
      cases fetched : program.ops[position]? with
      | none => rw [scopes, fetched]
      | some op =>
          rw [scopes_succ fetched]
          cases op with
          | openAlternative closing => cases program.scopes position <;> rfl
          | closeAlternative done => cases program.scopes position <;> rfl
          | closeUnion slot mismatch => cases program.scopes position <;> rfl
          | _ => rfl

/-- A position that can be reached from inside of some scopes without leaving them. -/
def Flows (program : Program) (scopes : List Scope) (next : Nat) : Prop :=
  next ≤ program.size ∧ program.scopes next = scopes

/-- A finding that ends the innermost scope leads to the end of its alternative. -/
def Escapes (program : Program) (scopes : List Scope) : Prop :=
  ∀ scope ∈ scopes.head?, ∃ closing ∈ scope.closing, program.Flows scopes closing

/-- An operation that leads from the scopes of its position to no others than it
should. -/
inductive Placed (program : Program) (position : Nat) : Op → Prop where
  | plain {op : Op} (plain : op.isPlain = true) (escapes : program.Escapes (program.scopes position))
      (targets : ∀ target ∈ op.target?, program.Flows (program.scopes position) target) :
      Placed program position op
  | openUnion (synthesized : Bool) : Placed program position (.openUnion synthesized)
  | openAlternative {scope : Scope} {outer : List Scope} (closing : Nat)
      (inside : program.scopes position = scope :: outer) :
      Placed program position (.openAlternative closing)
  | closeAlternative {scope : Scope} {outer : List Scope} {done : Nat}
      (inside : program.scopes position = scope :: outer) (flows : program.Flows outer done) :
      Placed program position (.closeAlternative done)
  | closeUnion {scope : Scope} {outer : List Scope} (slot mismatch : Nat)
      (inside : program.scopes position = scope :: outer) (escapes : program.Escapes outer) :
      Placed program position (.closeUnion slot mismatch)

/-- Every operation of a stretch of a program is placed. -/
def PlacedBetween (program : Program) (start finish : Nat) : Prop :=
  ∀ (position : Nat) (op : Op), start ≤ position → position < finish →
    program.ops[position]? = some op → program.Placed position op

theorem PlacedBetween.nil (position : Nat) : program.PlacedBetween position position :=
  fun _ _ low high => absurd high (Nat.not_lt.mpr low)

theorem PlacedBetween.append {start middle finish : Nat} (first : program.PlacedBetween start middle)
    (second : program.PlacedBetween middle finish) : program.PlacedBetween start finish := by
  intro position op low high fetched
  by_cases early : position < middle
  · exact first position op low early fetched
  · exact second position op (Nat.not_lt.mp early) high fetched

theorem PlacedBetween.single {position : Nat} {op : Op} (fetched : program.ops[position]? = some op)
    (placed : program.Placed position op) : program.PlacedBetween position (position + 1) := by
  intro other op' low high fetched'
  have same : other = position := Nat.le_antisymm (Nat.le_of_lt_succ high) low
  rw [same, fetched] at fetched'
  rw [same, ← Option.some.inj fetched']
  exact placed

/-- A stretch of a program that leaves no scope open and closes none that was open,
and whose operations are placed if findings can escape from it. -/
structure Nested (program : Program) (start finish : Nat) : Prop where
  scopes_eq : program.scopes finish = program.scopes start
  placed : program.Escapes (program.scopes start) → program.PlacedBetween start finish

namespace Nested

variable {start middle finish : Nat} {op : Op} {block : List Op}

theorem nil (position : Nat) : program.Nested position position :=
  ⟨rfl, fun _ => .nil position⟩

theorem append (first : program.Nested start middle) (second : program.Nested middle finish) :
    program.Nested start finish where
  scopes_eq := second.scopes_eq.trans first.scopes_eq
  placed escapes := (first.placed escapes).append (second.placed (first.scopes_eq ▸ escapes))

/-- An operation that jumps nowhere. -/
theorem step (fetched : program.ops[start]? = some op) (plain : op.isPlain = true)
    (straight : op.target? = none) : program.Nested start (start + 1) where
  scopes_eq := scopes_succ_of_plain fetched plain
  placed escapes := by
    refine .single fetched (.plain plain escapes fun target jumps => ?_)
    rw [straight] at jumps
    cases jumps

/-- An operation that can jump to a place where no other scopes are open. -/
theorem jump {target : Nat} (fetched : program.ops[start]? = some op) (plain : op.isPlain = true)
    (lands : op.target? = some target) (flows : program.Flows (program.scopes start) target) :
    program.Nested start (start + 1) where
  scopes_eq := scopes_succ_of_plain fetched plain
  placed escapes := by
    refine .single fetched (.plain plain escapes fun other jumps => ?_)
    rw [lands] at jumps
    cases jumps
    exact flows

end Nested

theorem add_length_cons (start : Nat) (op : Op) (block : List Op) :
    start + (op :: block).length = start + 1 + block.length := by
  rw [List.length_cons]
  omega

theorem Holds.finish_le {start : Nat} {op : Op} {block : List Op}
    (holds : program.Holds start (op :: block)) : start + 1 + block.length ≤ program.size := by
  have last := holds block.length _ (List.getElem?_eq_getElem (Nat.lt_succ_self block.length))
  have inside := (Array.getElem?_eq_some_iff.mp last).1
  rw [Nat.add_right_comm]
  exact inside

namespace Nested

variable {start : Nat} {op : Op} {block : List Op}

/-- A block behind an operation that can jump over it. -/
theorem guarded (holds : program.Holds start (op :: block)) (plain : op.isPlain = true)
    (lands : op.target? = some (start + 1 + block.length))
    (inner : program.Nested (start + 1) (start + 1 + block.length)) :
    program.Nested start (start + (op :: block).length) := by
  have before := scopes_succ_of_plain holds.head plain
  rw [add_length_cons]
  exact .append (.jump holds.head plain lands ⟨holds.finish_le, inner.scopes_eq.trans before⟩) inner

/-- A block behind an operation that jumps nowhere, and what follows. -/
theorem child {others : List Op} (holds : program.Holds start (op :: block ++ others))
    (plain : op.isPlain = true) (straight : op.target? = none)
    (inner : program.Holds (start + 1) block → program.Nested (start + 1) (start + 1 + block.length))
    (rest : program.Holds (start + 1 + block.length) others →
      program.Nested (start + 1 + block.length) (start + 1 + block.length + others.length)) :
    program.Nested start (start + (op :: block ++ others).length) := by
  have following := holds.right
  rw [add_length_cons] at following
  rw [List.length_append, ← Nat.add_assoc, add_length_cons]
  exact ((step holds.left.head plain straight).append (inner holds.left.tail)).append (rest following)

/-- A loop: its head and the operation that guards it jump behind it, and the operation
at its end jumps back to the head. -/
theorem loop {sweep : Op} {slot cursor target : Nat}
    (holds : program.Holds start (op :: sweep ::
      .next slot cursor target (start + 4 + block.length) :: block ++ [.jump (start + 2)]))
    (plain : op.isPlain = true) (lands : op.target? = some (start + 4 + block.length))
    (sweeps : sweep.isPlain = true) (straight : sweep.target? = none)
    (inner : program.Nested (start + 3) (start + 3 + block.length)) :
    program.Nested start (start + (op :: sweep ::
      Op.next slot cursor target (start + 4 + block.length) :: block ++ [Op.jump (start + 2)]).length) := by
  have guards := holds.left.head
  have begins := holds.left.tail.head
  have advances := holds.left.tail.tail.head
  have returns : program.ops[start + 3 + block.length]? = some (.jump (start + 2)) := by
    have place : start + 3 + block.length = start + (block.length + 1 + 1 + 1) := by omega
    rw [place]
    exact holds.right.head
  -- Nothing is opened or closed on the way, so every position of the loop and the one
  -- behind it have the scopes of its start.
  have second := scopes_succ_of_plain guards plain
  have third := (scopes_succ_of_plain begins sweeps).trans second
  have fourth := (scopes_succ_of_plain advances rfl).trans third
  have last := (scopes_succ_of_plain returns rfl).trans (inner.scopes_eq.trans fourth)
  have behind : start + 3 + block.length + 1 = start + 4 + block.length := by omega
  have exits : program.Flows (program.scopes start) (start + 4 + block.length) := by
    rw [← behind]
    exact ⟨(Array.getElem?_eq_some_iff.mp returns).1, last⟩
  have first : program.Nested start (start + 1) := .jump guards plain lands exits
  have head : program.Nested (start + 2) (start + 3) := .jump advances rfl rfl (third ▸ exits)
  have tail : program.Nested (start + 3 + block.length) (start + 3 + block.length + 1) := by
    refine .jump returns rfl rfl ⟨Nat.le_of_lt (Array.getElem?_eq_some_iff.mp advances).1, ?_⟩
    exact third.trans (inner.scopes_eq.trans fourth).symm
  have finish : start + (op :: sweep :: Op.next slot cursor target (start + 4 + block.length) :: block ++
      [Op.jump (start + 2)]).length = start + 3 + block.length + 1 := by
    simp only [List.length_append, List.length_cons, List.length_nil]
    omega
  rw [finish]
  exact ((first.append (.step begins sweeps straight)).append head).append (inner.append tail)

end Nested

/-- One alternative of a union.  Inside of it findings escape to its end, and if it
accepts it leads out of the union. -/
theorem alternative_placed {start finish done : Nat} {scope : Scope} {outer : List Scope}
    (opens : program.ops[start]? = some (.openAlternative finish))
    (closes : program.ops[finish]? = some (.closeAlternative done))
    (inside : program.scopes start = scope :: outer) (inner : program.Nested (start + 1) finish) :
    program.scopes (finish + 1) = ⟨scope.opening, none⟩ :: outer ∧
      (program.Flows outer done → program.PlacedBetween start (finish + 1)) := by
  have entered : program.scopes (start + 1) = ⟨scope.opening, some finish⟩ :: outer := by
    rw [scopes_succ opens, inside]
    rfl
  have atEnd := inner.scopes_eq.trans entered
  constructor
  · rw [scopes_succ closes, atEnd]
    rfl
  · intro flows
    have escapes : program.Escapes (program.scopes (start + 1)) := by
      rw [entered]
      intro scope first
      cases first
      exact ⟨finish, rfl, Nat.le_of_lt (Array.getElem?_eq_some_iff.mp closes).1, atEnd⟩
    have opening := PlacedBetween.single opens (.openAlternative finish inside)
    exact (opening.append (inner.placed escapes)).append (.single closes (.closeAlternative atEnd flows))

/-- A union: whatever its alternatives leave of its scope is closed, and the position
behind it has the scopes that the union began with. -/
theorem Nested.union {start finish slot mismatch : Nat} {synthesized : Bool}
    (opens : program.ops[start]? = some (.openUnion synthesized))
    (closes : program.ops[finish]? = some (.closeUnion slot mismatch))
    (inner : program.scopes (start + 1) = ⟨start, none⟩ :: program.scopes start →
      program.scopes finish = ⟨start, none⟩ :: program.scopes start ∧
      (program.Flows (program.scopes start) (finish + 1) →
        program.PlacedBetween (start + 1) finish)) :
    program.Nested start (finish + 1) := by
  rcases inner (scopes_succ opens) with ⟨atEnd, placed⟩
  have behind : program.scopes (finish + 1) = program.scopes start := by
    rw [scopes_succ closes, atEnd]
    rfl
  refine ⟨behind, fun escapes => ?_⟩
  have flows : program.Flows (program.scopes start) (finish + 1) :=
    ⟨(Array.getElem?_eq_some_iff.mp closes).1, behind⟩
  exact ((PlacedBetween.single opens (.openUnion synthesized)).append (placed flows)).append
    (.single closes (.closeUnion slot mismatch atEnd escapes))

end Program

namespace Layout

/-- The block of a tree is nested wherever it is laid out. -/
def Nests (mode : UnionMode) (shape : Shape) : Prop :=
  ∀ (program : Program) (start slot : Nat) (tables : Tables),
    program.Holds start (node mode shape start slot tables).1 →
    program.Nested start (start + (node mode shape start slot tables).1.length)

variable {mode : UnionMode} {program : Program}

theorem leaf_nested {start slot : Nat} (scalar : Leaf) {tables : Tables}
    (holds : program.Holds start (leaf slot scalar tables).1) :
    program.Nested start (start + (leaf slot scalar tables).1.length) := by
  rcases leaf_cases slot scalar tables with ⟨_, empty⟩ | ⟨entry, test, _, _, single⟩
  · rw [empty]
    exact .nil start
  · rw [single] at holds ⊢
    exact .step holds.head rfl rfl

theorem fields_nested (shapes : List (String × Shape)) (children : ∀ field ∈ shapes, Nests mode field.2)
    {source : Nat} : ∀ (start : Nat) (tables : Tables),
      program.Holds start (fields mode shapes start source tables).1 →
      program.Nested start (start + (fields mode shapes start source tables).1.length) := by
  induction shapes with
  | nil =>
      intro start tables holds
      exact .nil start
  | cons field rest inductionHypothesis =>
      intro start tables holds
      rcases field with ⟨key, shape⟩
      let named := tables.withSlot.withString key
      let block := node mode shape (start + 1) tables.slots named.2
      exact Program.Nested.child holds rfl rfl
        (children (key, shape) List.mem_cons_self program (start + 1) tables.slots named.2)
        (inductionHypothesis (fun field member => children field (List.mem_cons_of_mem _ member))
          (start + 1 + block.1.length) block.2)

theorem positions_nested (shapes : List Shape) (children : ∀ shape ∈ shapes, Nests mode shape)
    {source : Nat} : ∀ (position start : Nat) (tables : Tables),
      program.Holds start (positions mode shapes position start source tables).1 →
      program.Nested start (start + (positions mode shapes position start source tables).1.length) := by
  induction shapes with
  | nil =>
      intro position start tables holds
      exact .nil start
  | cons shape rest inductionHypothesis =>
      intro position start tables holds
      let block := node mode shape (start + 1) tables.slots tables.withSlot
      exact Program.Nested.child holds rfl rfl
        (children shape List.mem_cons_self program (start + 1) tables.slots tables.withSlot)
        (inductionHypothesis (fun shape member => children shape (List.mem_cons_of_mem _ member))
          (position + 1) (start + 1 + block.1.length) block.2)

/-- The alternatives of a union, one after another. -/
theorem alternatives_placed (shapes : List Shape) (children : ∀ shape ∈ shapes, Nests mode shape)
    {slot done opening : Nat} {outer : List Scope} : ∀ (start : Nat) (tables : Tables),
      program.scopes start = ⟨opening, none⟩ :: outer →
      program.Holds start
        (Assembler.layAlternatives done start (alternatives mode shapes start slot tables).1) →
      program.scopes (start + Assembler.sizeAlternatives (alternatives mode shapes start slot tables).1) =
        ⟨opening, none⟩ :: outer ∧
      (program.Flows outer done → program.PlacedBetween start
        (start + Assembler.sizeAlternatives (alternatives mode shapes start slot tables).1)) := by
  induction shapes with
  | nil =>
      intro start tables inside holds
      exact ⟨inside, fun _ => .nil start⟩
  | cons shape rest inductionHypothesis =>
      intro start tables inside holds
      let block := node mode shape (start + 1) slot tables
      let others := alternatives mode rest (start + 2 + block.1.length) slot block.2
      have place : start + 1 + block.1.length + 1 = start + 2 + block.1.length := by omega
      have whole : program.Holds start ((.openAlternative (start + 1 + block.1.length) :: block.1) ++
          .closeAlternative done ::
            Assembler.layAlternatives done (start + 2 + block.1.length) others.1) := by
        rw [← place]
        exact holds
      have closing : program.Holds (start + 1 + block.1.length) (.closeAlternative done ::
          Assembler.layAlternatives done (start + 2 + block.1.length) others.1) := by
        have following := whole.right
        rw [Program.add_length_cons] at following
        exact following
      have inner : program.Nested (start + 1) (start + 1 + block.1.length) :=
        children shape List.mem_cons_self program (start + 1) slot tables whole.left.tail
      rcases Program.alternative_placed whole.left.head closing.head inside inner with ⟨after, placed⟩
      have following := closing.tail
      rw [place] at after placed following
      rcases inductionHypothesis (fun shape member => children shape (List.mem_cons_of_mem _ member))
        (start + 2 + block.1.length) block.2 after following with ⟨atEnd, later⟩
      have finish : start + Assembler.sizeAlternatives (block.1 :: others.1) =
          start + 2 + block.1.length + Assembler.sizeAlternatives others.1 := by
        rw [Assembler.sizeAlternatives]
        omega
      have result : program.scopes (start + Assembler.sizeAlternatives (block.1 :: others.1)) =
            ⟨opening, none⟩ :: outer ∧
          (program.Flows outer done → program.PlacedBetween start
            (start + Assembler.sizeAlternatives (block.1 :: others.1))) := by
        rw [finish]
        exact ⟨atEnd, fun flows => (placed flows).append (later flows)⟩
      exact result

theorem form_nested {shapes : Form Shape} (children : ∀ shape ∈ shapes.children, Nests mode shape)
    {start slot : Nat} {tables : Tables} (holds : program.Holds start (form mode shapes start slot tables).1) :
    program.Nested start (start + (form mode shapes start slot tables).1.length) := by
  cases shapes with
  | leaf scalar => exact leaf_nested scalar holds
  | object shapes =>
      let noted := tables.withTemplate .notObject
      have inner := fields_nested shapes
        (fun field member => children field.2 (List.mem_map_of_mem member)) (start + 1) noted.2 holds.tail
      exact .guarded holds rfl rfl inner
  | array item length =>
      let counted := count length "items" (tables.withTemplate .notArray).2
      have inner := children item List.mem_cons_self program (start + 3) counted.2.slots
        counted.2.withCursor.withSlot holds.left.tail.tail.tail
      exact .loop holds rfl rfl rfl rfl inner
  | tuple shapes =>
      let counted := (tables.withTemplate .notArray).2.withTemplate (.tupleArity shapes.length)
      have inner := positions_nested shapes children 0 (start + 1) counted.2 holds.tail
      exact .guarded holds rfl rfl inner
  | record value keys =>
      let counted := count keys "keys" (tables.withTemplate .notObject).2
      have inner := children value List.mem_cons_self program (start + 3) counted.2.slots
        counted.2.withCursor.withSlot holds.left.tail.tail.tail
      exact .loop holds rfl rfl rfl rfl inner
  | union shapes =>
      let noted := tables.withTemplate (.unionMismatch shapes.length)
      let blocks := alternatives mode shapes (start + 1) slot noted.2
      let laid := Assembler.layAlternatives (start + 1 + Assembler.sizeAlternatives blocks.1 + 1)
        (start + 1) blocks.1
      have size : laid.length = Assembler.sizeAlternatives blocks.1 :=
        Assembler.layAlternatives_length _ blocks.1 (start + 1)
      have whole : program.Holds start (.openUnion (mode == .synthesized) :: laid ++
        [.closeUnion slot noted.1]) := holds
      have closes : program.ops[start + 1 + Assembler.sizeAlternatives blocks.1]? =
          some (.closeUnion slot noted.1) := by
        have last := whole.right.head
        rw [Program.add_length_cons, size] at last
        exact last
      have finish : start + (Op.openUnion (mode == .synthesized) :: laid ++
          [Op.closeUnion slot noted.1]).length = start + 1 + Assembler.sizeAlternatives blocks.1 + 1 := by
        simp only [List.length_append, List.length_cons, List.length_nil, size]
        omega
      have nested : program.Nested start (start + 1 + Assembler.sizeAlternatives blocks.1 + 1) :=
        .union whole.left.head closes fun inside =>
          alternatives_placed shapes children (start + 1) noted.2 inside whole.left.tail
      rw [← finish] at nested
      exact nested

/-- Every block is nested. -/
theorem node_nested (shape : Shape) : Nests mode shape := by
  induction shape using Shape.induction with
  | node header shapes inductionHypothesis =>
      intro program start slot tables holds
      let named := tables.withTemplate .required
      have inner : program.Nested (start + 1)
          (start + 1 + (form mode shapes (start + 1) slot named.2).1.length) :=
        form_nested inductionHypothesis holds.tail
      exact .guarded holds rfl rfl inner

end Layout
end Conformance
