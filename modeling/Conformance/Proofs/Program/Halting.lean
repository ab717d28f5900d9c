import Conformance.Proofs.Program.Equivalence

namespace Conformance

/-!
# Every run comes to an end

The machine runs in a loop: as long as there is an operation at its position, it executes the
operation and goes on where that says.  Jumps back close the bodies of loops, cursors are filled
anew for every element of an outer loop, and a finding may leave several blocks at once.  So no
number in a state gets smaller with every operation.

What gets smaller is what is left to do.  The blocks of a tree were counted along with what they
find: a block is left after at most two operations per operation in it and part of its value,
where a loop spends what its elements allow and hands the rest on.  A whole run is one such
block.  Since the machine leaves no choice, the run that is over is the longest of all, and no
run goes on for ever.
-/

namespace Machine

variable {program : Program} {earlyFail : Bool}

/-- One round of the loop that leads on to another state. -/
def Steps (program : Program) (earlyFail : Bool) (before after : Nat × Machine) : Prop :=
  ∃ op, program.ops[before.1]? = some op ∧
    before.2.execute program earlyFail before.1 op = (after.2, some after.1)

namespace Trace

variable {count position : Nat} {machine last : Machine} {exit : Option Nat}

/-- No run from a state is longer than one that is over. -/
theorem length_le (trace : Trace program earlyFail count position machine last exit)
    (ended : ∀ next ∈ exit, program.ops[next]? = none) {steps : Nat} {middle : Machine}
    {place : Option Nat} (other : Trace program earlyFail steps position machine middle place) :
    steps ≤ count := by
  induction trace generalizing steps with
  | rest position machine =>
      have beyond := ended position rfl
      cases other with
      | rest => exact Nat.le_refl 0
      | stop fetched _ => cases beyond.symm.trans fetched
      | step fetched _ _ => cases beyond.symm.trans fetched
  | stop fetched executed =>
      cases other with
      | rest => exact Nat.zero_le 1
      | stop _ _ => exact Nat.le_refl 1
      | step fetchedToo executedToo _ =>
          cases fetched.symm.trans fetchedToo
          cases executed.symm.trans executedToo
  | step fetched executed others inductionHypothesis =>
      cases other with
      | rest => exact Nat.zero_le _
      | stop _ _ => exact Nat.succ_le_succ (Nat.zero_le _)
      | step fetchedToo executedToo othersToo =>
          cases fetched.symm.trans fetchedToo
          cases executed.symm.trans executedToo
          exact Nat.succ_le_succ (inductionHypothesis ended othersToo)

/-- Where a run is over, no steps lead on for ever. -/
theorem accessible (trace : Trace program earlyFail count position machine last exit)
    (ended : ∀ next ∈ exit, program.ops[next]? = none) :
    Acc (fun after before => Steps program earlyFail before after) (position, machine) := by
  induction trace with
  | rest position machine =>
      refine .intro _ fun after ⟨op, fetched, _⟩ => ?_
      cases (ended position rfl).symm.trans fetched
  | stop fetched executed =>
      refine .intro _ fun after ⟨op, fetchedToo, executedToo⟩ => ?_
      cases fetched.symm.trans fetchedToo
      cases executed.symm.trans executedToo
  | step fetched executed others inductionHypothesis =>
      refine .intro _ fun ⟨place, after⟩ ⟨op, fetchedToo, executedToo⟩ => ?_
      cases fetched.symm.trans fetchedToo
      cases executed.symm.trans executedToo
      exact inductionHypothesis ended

end Trace
end Machine

namespace Schema

variable {schema : Schema} {mode : UnionMode} {budget : Nat} {program : Program}

/-- Every assembled program halts on every value, present or absent, whether or not it fails
early.  Its loop leads through finitely many states: the run is over after some count of
operations, no more than the program and the value allow, no run from the start is longer, and
once the run is over, more fuel changes nothing. -/
theorem assembled_halts (assembled : schema.assemble mode budget = .ok program) (earlyFail : Bool)
    (value : Option Value) :
    Acc (fun after before => Machine.Steps program earlyFail before after)
      (0, .start program value) ∧
    ∃ count ≤ program.bound value, ∃ last,
      Machine.Ends program earlyFail count (.start program value) last ∧
      (∀ steps machine exit,
        Machine.Trace program earlyFail steps 0 (.start program value) machine exit →
        steps ≤ count) ∧
      ∀ fuel ≥ count, Machine.run program earlyFail fuel 0 (.start program value) = last := by
  rw [layout_of_assemble assembled]
  rcases schema.layout_ends mode earlyFail value with ⟨count, bound, last, ends, _⟩
  have ⟨exit, trace, ended⟩ := ends
  exact ⟨trace.accessible ended, count, bound, last, ends,
    fun _ _ _ other => trace.length_le ended other, fun _ enough => ends.run_eq enough⟩

/-- A run through a loop in a loop, the inner one in an alternative that is left early. -/
theorem assembled_halts_listOfUnions :
    listOfUnions.assemble .all 64 = .ok (listOfUnions.layout .all) ∧
    Acc (fun after before => Machine.Steps (listOfUnions.layout .all) true before after)
      (0, .start (listOfUnions.layout .all)
        (some (.list [.text "ab", .list [.null, .boolean true]]))) :=
  ⟨assemble_listOfUnions, (assembled_halts assemble_listOfUnions true _).1⟩

end Schema
end Conformance
