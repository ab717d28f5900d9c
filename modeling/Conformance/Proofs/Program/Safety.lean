import Conformance.Proofs.Program.Equivalence
import Conformance.Proofs.Program.Frames

namespace Conformance

/-!
# Programs never go wrong

A machine has an answer for everything: for an index out of range, for an alternative
without a union, for a place that was taken from a later place.  None of these answers
is ever given when an assembled program runs.

The states of a run are told together with the frames as they were pushed and where,
so that it can be said whose frame the innermost one is.  What is shown of
these states is put together from what the layout has everywhere and from what an
operation preserves.
-/

namespace Program

/-- A program that can be run: its operations use indices in range, load values forward
and are placed in their scopes, and behind them no scope is open. -/
structure Sound (program : Program) : Prop where
  inRange : ∀ (position : Nat) (op : Op), program.ops[position]? = some op → op.InRange program.tables
  forward : ∀ (position : Nat) (op : Op), program.ops[position]? = some op → op.Forward
  placed : ∀ (position : Nat) (op : Op), program.ops[position]? = some op → program.Placed position op
  closed : program.scopes program.size = []

end Program

/-- The layout of a schema can be run. -/
theorem Schema.layout_sound (schema : Schema) (mode : UnionMode) : (schema.layout mode).Sound := by
  have usable : Usable (schema.layout mode).tables
      (Layout.node mode schema.rootShape 0 0 .initial).1 :=
    Layout.node_usable schema.rootShape 0 0 .initial Nat.zero_lt_one
  have nests : Layout.Nests mode schema.rootShape := Layout.node_nested schema.rootShape
  have nested := nests (schema.layout mode) 0 0 .initial (schema.layout_holds mode)
  rw [Nat.zero_add] at nested
  have listed : ∀ (position : Nat) (op : Op), (schema.layout mode).ops[position]? = some op →
      op ∈ (Layout.node mode schema.rootShape 0 0 .initial).1 := by
    intro position op fetched
    exact List.mem_of_getElem? (List.getElem?_toArray.symm.trans fetched)
  have placed := nested.placed fun scope first => nomatch first
  exact
    { inRange := fun position op fetched => (usable op (listed position op fetched)).1
      forward := fun position op fetched => (usable op (listed position op fetched)).2
      placed := fun position op fetched =>
        placed position op (Nat.zero_le position) (Array.getElem?_eq_some_iff.mp fetched).1 fetched
      closed := nested.scopes_eq }

namespace Machine

variable {program : Program} {earlyFail : Bool} {value : Option Value}

/-! ## Runs -/

/-- An operation of a sound program preserves the invariant. -/
theorem Invariant.execute (earlyFail : Bool) {position : Nat} {machine : Machine}
    {pushes : List Push} {op : Op} (sound : program.Sound)
    (invariant : Invariant program position machine pushes)
    (fetched : program.ops[position]? = some op) :
    Proceeds program position pushes machine (machine.execute program earlyFail position op).1
      (machine.execute program earlyFail position op).2 := by
  cases sound.placed position op fetched with
  | plain plain escapes targets =>
      exact invariant.plain fetched (sound.forward position op fetched) plain escapes targets
  | openUnion synthesized => exact invariant.openUnion fetched
  | openAlternative closing inside => exact invariant.openAlternative fetched inside
  | closeAlternative inside flows => exact invariant.closeAlternative fetched inside flows
  | closeUnion slot mismatch inside escapes => exact invariant.closeUnion fetched inside escapes

/-- The states of a run on a value, each with its frames as they were pushed. -/
inductive Reached (program : Program) (earlyFail : Bool) (value : Option Value) :
    Nat → Machine → List Push → Prop where
  | start : Reached program earlyFail value 0 (.start program value) []
  | step {position next : Nat} {machine after : Machine} {pushes : List Push} {op : Op}
      (reached : Reached program earlyFail value position machine pushes)
      (fetched : program.ops[position]? = some op)
      (executed : machine.execute program earlyFail position op = (after, some next)) :
      Reached program earlyFail value next after
        (pushesAfter position machine.frames after.frames pushes)

/-- The state that a run is left in by an operation that ends it. -/
def Stopped (program : Program) (earlyFail : Bool) (value : Option Value) (last : Machine) : Prop :=
  ∃ position machine pushes op, Reached program earlyFail value position machine pushes ∧
    program.ops[position]? = some op ∧
    machine.execute program earlyFail position op = (last, none)

theorem start_linked (program : Program) (value : Option Value) :
    Linked (start program value).slots := by
  intro slot entry listed link taken
  rw [start, Array.getElem?_setIfInBounds] at listed
  by_cases here : 0 = slot
  · rw [if_pos here] at listed
    split at listed
    · cases listed
      cases taken
    · cases listed
  · rw [if_neg here, Array.getElem?_replicate] at listed
    split at listed
    · cases listed
      cases taken
    · cases listed

/-- The invariant holds of every state of a run. -/
theorem Reached.invariant {position : Nat} {machine : Machine} {pushes : List Push}
    (sound : program.Sound) (reached : Reached program earlyFail value position machine pushes) :
    Invariant program position machine pushes := by
  induction reached with
  | start =>
      exact ⟨Nat.zero_le _, start_fits program value, start_linked program value, .nil 0⟩
  | step reached fetched executed inductionHypothesis =>
      have proceeds := inductionHypothesis.execute earlyFail sound fetched
      rw [executed] at proceeds
      exact proceeds.goesOn _ rfl

/-- When an operation ends a run no union is open. -/
theorem Stopped.frames_eq {last : Machine} (sound : program.Sound)
    (stopped : Stopped program earlyFail value last) : last.frames = [] := by
  rcases stopped with ⟨position, machine, pushes, op, reached, fetched, executed⟩
  have proceeds := (reached.invariant sound).execute earlyFail sound fetched
  rw [executed] at proceeds
  exact proceeds.ends rfl

/-- Where no operation is left, no union is open. -/
theorem Invariant.frames_eq_nil {position : Nat} {machine : Machine} {pushes : List Push}
    (sound : program.Sound) (invariant : Invariant program position machine pushes)
    (beyond : program.ops[position]? = none) : machine.frames = [] := by
  have atEnd : position = program.size :=
    Nat.le_antisymm invariant.position_le (Array.getElem?_eq_none_iff.mp beyond)
  have length := invariant.stacked.length_eq
  rw [atEnd, sound.closed] at length
  exact List.length_eq_zero_iff.mp length

/-- However many operations are run from a state, what comes of it is a state again, or
one of the operations ended the run. -/
theorem Reached.run (fuel : Nat) : ∀ {position : Nat} {machine : Machine} {pushes : List Push},
    Reached program earlyFail value position machine pushes →
    (∃ next later, Reached program earlyFail value next
      (Machine.run program earlyFail fuel position machine) later) ∨
    Stopped program earlyFail value (Machine.run program earlyFail fuel position machine) := by
  induction fuel with
  | zero =>
      intro position machine pushes reached
      exact .inl ⟨position, pushes, reached⟩
  | succ fuel inductionHypothesis =>
      intro position machine pushes reached
      cases fetched : program.ops[position]? with
      | none =>
          rw [run_over fetched]
          exact .inl ⟨position, pushes, reached⟩
      | some op =>
          cases executed : machine.execute program earlyFail position op with
          | mk after exit =>
              simp only [Machine.run, fetched, executed]
              cases exit with
              | none => exact .inr ⟨position, machine, pushes, op, reached, fetched, executed⟩
              | some next => exact inductionHypothesis (.step reached fetched executed)

/-- A trace through a program goes through states of its run. -/
theorem Trace.reached {count position : Nat} {machine last : Machine} {exit : Option Nat}
    {pushes : List Push} (trace : Trace program earlyFail count position machine last exit)
    (reached : Reached program earlyFail value position machine pushes) :
    (∃ next ∈ exit, ∃ later, Reached program earlyFail value next last later) ∨
      (exit = none ∧ Stopped program earlyFail value last) := by
  induction trace generalizing pushes with
  | rest position machine => exact .inl ⟨position, rfl, pushes, reached⟩
  | stop fetched executed => exact .inr ⟨rfl, _, _, _, _, reached, fetched, executed⟩
  | step fetched executed others inductionHypothesis =>
      exact inductionHypothesis (.step reached fetched executed)

/-- When a run is over no union is open. -/
theorem Ends.frames_eq {count : Nat} {last : Machine} (sound : program.Sound)
    (ends : Ends program earlyFail count (.start program value) last) : last.frames = [] := by
  rcases ends with ⟨exit, trace, beyond⟩
  have begun : Reached program earlyFail value 0 (.start program value) [] := .start
  rcases trace.reached begun with ⟨next, leads, pushes, reached⟩ | ⟨_, stopped⟩
  · exact (reached.invariant sound).frames_eq_nil sound (beyond next leads)
  · exact stopped.frames_eq sound

/-! ## Places -/

/-- Climbing from a slot to the slot its value was taken from, and on to a value that
was taken from nowhere.  Nothing guards the climb; a circle of slots has no end. -/
inductive Climbs (slots : Array Slot) : Nat → List Segment → Prop where
  | top {slot : Nat} (unlinked : slots[slot]?.bind (·.link) = none) : Climbs slots slot []
  | up {slot parent : Nat} {segment : Segment} {rest : List Segment}
      (linked : slots[slot]?.bind (·.link) = some (parent, segment))
      (above : Climbs slots parent rest) : Climbs slots slot (segment :: rest)

/-- If values were taken from earlier slots, the climb from every slot has an end, and
its steps are the trail of the slot. -/
theorem Linked.climbs {slots : Array Slot} (linked : Linked slots) : ∀ slot : Nat,
    Climbs slots slot (slotTrail slots slot) := by
  intro slot
  induction slot using Nat.strongRecOn with
  | _ slot inductionHypothesis =>
      rw [slotTrail]
      cases taken : slots[slot]?.bind (·.link) with
      | none => exact .top taken
      | some link =>
          rcases link with ⟨parent, segment⟩
          rcases Option.bind_eq_some_iff.mp taken with ⟨entry, listed, written⟩
          have earlier : parent < slot := linked slot entry listed _ written
          simp only [if_pos earlier]
          exact .up taken (inductionHypothesis parent earlier)

/-- The tables of a running program, with the slots and cursors that there are. -/
def tables (program : Program) (machine : Machine) : Tables :=
  { program.tables with slots := machine.slots.size, cursors := machine.cursors.size }

theorem Fits.grows {machine : Machine} (fits : machine.Fits program) :
    program.tables.Grows (machine.tables program) :=
  { Tables.Grows.refl program.tables with slots := fits.slots, cursors := fits.cursors }

/-! ## Orderly states -/

/-- The frame on top was pushed where the innermost union around a position is opened,
and there are at least as many findings as it remembers. -/
def OwnsTop (program : Program) (position : Nat) (machine : Machine) (pushes : List Push) : Prop :=
  ∃ push frame, pushes.head? = some push ∧ machine.frames.head? = some frame ∧
    (program.enclosing position).head? = some push.opening ∧
    (∃ synthesized, program.ops[push.opening]? = some (.openUnion synthesized)) ∧
    Continues push.frame frame ∧ frame.mark ≤ machine.found.size ∧
    frame.alternativeMark ≤ machine.found.size

/-- A state in which nothing is wrong.  The position is in the program or right behind
it, the operation there uses indices in range, values were taken from earlier slots so
that every place is found by climbing, there is a frame for every union that encloses
the position, and an operation that belongs to an open union finds the frame of that
union on top. -/
structure Orderly (program : Program) (position : Nat) (machine : Machine) (pushes : List Push) :
    Prop where
  position_le : position ≤ program.size
  inRange : ∀ op, program.ops[position]? = some op → op.InRange (machine.tables program)
  linked : Linked machine.slots
  climbs : ∀ slot, Climbs machine.slots slot (slotTrail machine.slots slot)
  height : machine.frames.length = (program.enclosing position).length
  pushed : pushes.map Push.opening = program.enclosing position
  ownsTop : ∀ op, program.ops[position]? = some op → op.belongs = true →
    OwnsTop program position machine pushes

section

variable {position : Nat} {machine : Machine} {pushes : List Push}

/-- Where a scope is open the frame on top is its own. -/
theorem Invariant.ownsTop (invariant : Invariant program position machine pushes) {scope : Scope}
    {outer : List Scope} (inside : program.scopes position = scope :: outer) :
    OwnsTop program position machine pushes := by
  rcases (inside ▸ invariant.stacked).top with
    ⟨frame, frames, push, earlier, framesEq, pushesEq, opened, continues, begun, counted, below⟩
  have encloses : program.enclosing position = push.opening :: outer.map Scope.opening := by
    rw [← program.scopes_opening, inside, List.map_cons, opened]
  have opens := Program.opens_of_mem_enclosing (encloses ▸ List.mem_cons_self)
  refine ⟨push, frame, ?_, ?_, ?_, opens, continues, Nat.le_trans begun counted, counted⟩
  · rw [pushesEq, List.head?_cons]
  · rw [framesEq, List.head?_cons]
  · rw [encloses, List.head?_cons]

/-- Nothing is wrong where the invariant holds. -/
theorem Invariant.orderly (sound : program.Sound)
    (invariant : Invariant program position machine pushes) :
    Orderly program position machine pushes where
  position_le := invariant.position_le
  inRange op fetched := (sound.inRange position op fetched).mono invariant.fits.grows
  linked := invariant.linked
  climbs := invariant.linked.climbs
  height := by
    rw [← program.scopes_opening, List.length_map]
    exact invariant.stacked.length_eq
  pushed := by
    rw [← program.scopes_opening]
    exact invariant.stacked.map_opening
  ownsTop op fetched belongs := by
    cases sound.placed position op fetched with
    | plain plain escapes targets =>
        cases op with
        | openAlternative closing => cases plain
        | closeAlternative done => cases plain
        | closeUnion slot mismatch => cases plain
        | _ => cases belongs
    | openUnion synthesized => cases belongs
    | openAlternative closing inside => exact invariant.ownsTop inside
    | closeAlternative inside flows => exact invariant.ownsTop inside
    | closeUnion slot mismatch inside escapes => exact invariant.ownsTop inside

end
end Machine

namespace Schema

variable {schema : Schema} {mode : UnionMode} {budget : Nat} {program : Program}

/-- An assembled program never goes wrong: every state of every run of it is orderly,
and when a run ends, by an operation that ends it or behind the last operation, no
union is open.  The run that is bounded by a number of steps is in one of these states
or ended whatever the bound, and with the bound of the program it is over. -/
theorem run_orderly (assembled : schema.assemble mode budget = .ok program) (earlyFail : Bool)
    (value : Option Value) :
    (∀ position machine pushes, Machine.Reached program earlyFail value position machine pushes →
      Machine.Orderly program position machine pushes ∧
      (program.ops[position]? = none → machine.frames = [])) ∧
    (∀ last, Machine.Stopped program earlyFail value last → last.frames = []) ∧
    (∀ fuel, let last := Machine.run program earlyFail fuel 0 (.start program value)
      (∃ position pushes, Machine.Reached program earlyFail value position last pushes) ∨
        Machine.Stopped program earlyFail value last) ∧
    (Machine.run program earlyFail (program.bound value) 0 (.start program value)).frames = [] := by
  have sound : program.Sound := layout_of_assemble assembled ▸ schema.layout_sound mode
  refine ⟨?states, fun last stopped => stopped.frames_eq sound,
    fun fuel => Machine.Reached.run fuel .start, ?result⟩
  case states =>
    intro position machine pushes reached
    have invariant := reached.invariant sound
    exact ⟨invariant.orderly sound, invariant.frames_eq_nil sound⟩
  case result =>
    rw [layout_of_assemble assembled] at sound ⊢
    rcases schema.layout_ends mode earlyFail value with ⟨count, bound, last, ends, _⟩
    rw [ends.run_eq bound]
    exact ends.frames_eq sound

/-- The program of a list of unions, stopped by a union that nothing matches. -/
theorem run_orderly_listOfUnions :
    listOfUnions.assemble .all 64 = .ok (listOfUnions.layout .all) ∧
    Machine.Orderly (listOfUnions.layout .all) 0
      (.start (listOfUnions.layout .all) (some (.list [.boolean true]))) [] ∧
    (Machine.run (listOfUnions.layout .all) true
      ((listOfUnions.layout .all).bound (some (.list [.boolean true]))) 0
      (.start (listOfUnions.layout .all) (some (.list [.boolean true])))).frames = [] := by
  rcases run_orderly assemble_listOfUnions true (some (.list [.boolean true])) with
    ⟨states, _, _, result⟩
  exact ⟨assemble_listOfUnions, (states 0 _ [] .start).1, result⟩

end Schema
end Conformance
