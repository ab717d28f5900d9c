import Conformance.Program.Machine
import Conformance.Proofs.Check.Follow

namespace Conformance

/-!
# Runs of the machine

A run goes through positions of a program one operation after another.  The
relation `Machine.Trace` counts the operations and ends either at a position that
has not been executed yet or with an operation that ended the run.  The bounded
run of the machine is this relation cut off at its bound, so a trace that is short
enough tells what a run answers.

A part of a program is described by what a trace through it does to the machine:
it adds findings, it writes only slots and cursors of its own, and it comes out
either at its end or, if a finding ended the scope around it, where that scope
says.  Such descriptions can be put one after another.
-/

namespace Machine

/-- Some operations of a program, executed one after another. -/
inductive Trace (program : Program) (earlyFail : Bool) :
    Nat → Nat → Machine → Machine → Option Nat → Prop where
  | rest (position : Nat) (machine : Machine) :
      Trace program earlyFail 0 position machine machine (some position)
  | stop {position : Nat} {op : Op} {machine last : Machine}
      (fetched : program.ops[position]? = some op)
      (executed : machine.execute program earlyFail position op = (last, none)) :
      Trace program earlyFail 1 position machine last none
  | step {count position next : Nat} {op : Op} {machine middle last : Machine} {exit : Option Nat}
      (fetched : program.ops[position]? = some op)
      (executed : machine.execute program earlyFail position op = (middle, some next))
      (others : Trace program earlyFail count next middle last exit) :
      Trace program earlyFail (count + 1) position machine last exit

namespace Trace

variable {program : Program} {earlyFail : Bool}

/-- A trace that reached a position can be continued there. -/
theorem append {first second position next : Nat} {machine middle last : Machine}
    {exit : Option Nat} (before : Trace program earlyFail first position machine middle (some next))
    (after : Trace program earlyFail second next middle last exit) :
    Trace program earlyFail (second + first) position machine last exit := by
  generalize reached : some next = place at before
  induction before with
  | rest position machine =>
      cases reached
      exact after
  | stop fetched executed => cases reached
  | step fetched executed others inductionHypothesis =>
      exact .step fetched executed (inductionHypothesis after reached)

/-- One operation that goes on. -/
theorem single {position next : Nat} {op : Op} {machine last : Machine}
    (fetched : program.ops[position]? = some op)
    (executed : machine.execute program earlyFail position op = (last, some next)) :
    Trace program earlyFail 1 position machine last (some next) :=
  .step fetched executed (.rest next last)

/-- One operation, wherever it leads. -/
theorem once {position : Nat} {op : Op} {machine last : Machine} {exit : Option Nat}
    (fetched : program.ops[position]? = some op)
    (executed : machine.execute program earlyFail position op = (last, exit)) :
    Trace program earlyFail 1 position machine last exit := by
  cases exit with
  | none => exact .stop fetched executed
  | some next => exact single fetched executed

/-- A run with enough fuel passes through every trace. -/
theorem run_eq {count position : Nat} {machine last : Machine} {exit : Option Nat}
    (trace : Trace program earlyFail count position machine last exit) (fuel : Nat) :
    run program earlyFail (count + fuel) position machine =
      exit.elim last fun next => run program earlyFail fuel next last := by
  induction trace with
  | rest position machine =>
      rw [Nat.zero_add]
      rfl
  | stop fetched executed =>
      rw [Nat.add_comm]
      simp only [run, fetched, executed, Option.elim_none]
  | step fetched executed others inductionHypothesis =>
      rw [Nat.add_right_comm]
      simp only [run, fetched, executed, inductionHypothesis]

end Trace

/-- Where no operation is left, a run does nothing. -/
theorem run_over {position : Nat} (beyond : program.ops[position]? = none) (fuel : Nat)
    (machine : Machine) : run program earlyFail fuel position machine = machine := by
  cases fuel with
  | zero => rfl
  | succ fuel => rw [run, beyond]

/-- A whole run that is over after some steps: an operation ended it, or no
operation is left where it leads. -/
def Ends (program : Program) (earlyFail : Bool) (count : Nat) (machine last : Machine) : Prop :=
  ∃ exit : Option Nat, Trace program earlyFail count 0 machine last exit ∧
    ∀ next ∈ exit, program.ops[next]? = none

/-- A run that is over does not depend on how much fuel is left. -/
theorem Ends.run_eq {count : Nat} {machine last : Machine}
    (ends : Ends program earlyFail count machine last) {fuel : Nat} (enough : count ≤ fuel) :
    run program earlyFail fuel 0 machine = last := by
  rcases ends with ⟨exit, trace, beyond⟩
  rw [← Nat.add_sub_of_le enough, trace.run_eq]
  cases exit with
  | none => rfl
  | some next => exact run_over (beyond next rfl) _ last

/-- What a part of a program leaves of a machine: everything but the slots and
cursors from some numbers on, and findings that are added. -/
structure Extends (slots cursors : Nat) (findings : List Finding) (before after : Machine) : Prop where
  slots_size : after.slots.size = before.slots.size
  cursors_size : after.cursors.size = before.cursors.size
  slots_eq : ∀ slot < slots, after.slots[slot]? = before.slots[slot]?
  cursors_eq : ∀ cursor < cursors, after.cursors[cursor]? = before.cursors[cursor]?
  frames_eq : after.frames = before.frames
  found_eq : after.found = before.found ++ findings.toArray

namespace Extends

variable {slots cursors : Nat} {machine middle last : Machine} {findings more : List Finding}

theorem refl (slots cursors : Nat) (machine : Machine) : Extends slots cursors [] machine machine :=
  ⟨rfl, rfl, fun _ _ => rfl, fun _ _ => rfl, rfl, by simp⟩

theorem trans (first : Extends slots cursors findings machine middle)
    (second : Extends slots cursors more middle last) :
    Extends slots cursors (findings ++ more) machine last where
  slots_size := second.slots_size.trans first.slots_size
  cursors_size := second.cursors_size.trans first.cursors_size
  slots_eq slot low := (second.slots_eq slot low).trans (first.slots_eq slot low)
  cursors_eq cursor low := (second.cursors_eq cursor low).trans (first.cursors_eq cursor low)
  frames_eq := second.frames_eq.trans first.frames_eq
  found_eq := by
    simp only [second.found_eq, first.found_eq, Array.append_assoc, List.append_toArray]

/-- A part that leaves more alone leaves less alone. -/
theorem weaken {fewerSlots fewerCursors : Nat} (low : fewerSlots ≤ slots)
    (lowCursors : fewerCursors ≤ cursors) (extended : Extends slots cursors findings machine last) :
    Extends fewerSlots fewerCursors findings machine last :=
  { extended with
    slots_eq := fun slot below => extended.slots_eq slot (Nat.lt_of_lt_of_le below low)
    cursors_eq := fun cursor below =>
      extended.cursors_eq cursor (Nat.lt_of_lt_of_le below lowCursors) }

theorem found_size (extended : Extends slots cursors findings machine last) :
    last.found.size = machine.found.size + findings.length := by
  simp only [extended.found_eq, Array.size_append, List.size_toArray]

theorem value_eq (extended : Extends slots cursors findings machine last) {slot : Nat}
    (low : slot < slots) : last.value slot = machine.value slot := by
  rw [value, value, extended.slots_eq slot low]

theorem halts_eq (extended : Extends slots cursors findings machine last) (earlyFail : Bool) :
    last.halts earlyFail = machine.halts earlyFail := by
  rw [halts, halts, extended.frames_eq]

theorem afterFinding_eq (extended : Extends slots cursors findings machine last) (earlyFail : Bool)
    (next : Nat) : last.afterFinding earlyFail next = machine.afterFinding earlyFail next := by
  rw [afterFinding, afterFinding, extended.frames_eq]

end Extends

/-- The steps to a slot are read off that slot and those before it. -/
theorem slotTrail_congr {first second : Array Slot} : ∀ slot : Nat,
    (∀ other ≤ slot, first[other]? = second[other]?) → slotTrail first slot = slotTrail second slot := by
  intro slot
  induction slot using Nat.strongRecOn with
  | _ slot inductionHypothesis =>
      intro same
      rw [slotTrail, slotTrail, same slot (Nat.le_refl slot)]
      cases second[slot]?.bind (·.link) with
      | none => rfl
      | some link =>
          rcases link with ⟨parent, segment⟩
          by_cases earlier : parent < slot
          · have parents := inductionHypothesis parent earlier fun other low =>
              same other (Nat.le_trans low (Nat.le_of_lt earlier))
            simp only [if_pos earlier, parents]
          · simp only [if_neg earlier]

theorem Extends.trail_eq {slots cursors : Nat} {findings : List Finding} {machine last : Machine}
    (extended : Extends slots cursors findings machine last) {slot : Nat} (low : slot < slots) :
    slotTrail last.slots slot = slotTrail machine.slots slot :=
  slotTrail_congr slot fun other early =>
    extended.slots_eq other (Nat.lt_of_le_of_lt early low)

end Machine
end Conformance
