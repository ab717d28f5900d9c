import Conformance.Proofs.Check.Counting
import Conformance.Proofs.Check.Interpretation
import Conformance.Proofs.Program.Simulation

namespace Conformance

/-!
# Programs answer what walks answer

A program that was assembled is the layout of its schema, and the layout finds what
the tree finds, as far as counts are compared with bounds that bind.  For moderate
values those are all counts that matter, so a program and a walk over the schema
report the same failures in the same order, with and without early failing.

A run is bounded by a number of steps.  The bound is no part of what a program
means: the run is over before it is reached.
-/

namespace Schema

variable {schema : Schema} {mode : UnionMode} {budget : Nat} {program : Program}

/-- What an assembled program finds, whatever the value. -/
theorem assembled_findings (assembled : schema.assemble mode budget = .ok program) (halt : Bool)
    (value : Option Value) :
    program.findings halt value = kept halt (schema.rootShape.judge .binding mode value) := by
  rw [layout_of_assemble assembled]
  exact schema.layout_run mode halt value

theorem assembled_run (assembled : schema.assemble mode budget = .ok program) (options : CheckOptions)
    (value : Option Value) :
    program.run options value =
      (kept options.earlyFail (schema.rootShape.judge .binding mode value)).map
        (·.failure options.path) := by
  rw [Program.run, assembled_findings assembled]

/-- Counts that nothing bounds do not matter for moderate values. -/
theorem assembled_report (assembled : schema.assemble mode budget = .ok program)
    {value : Option Value} (moderate : ∀ present ∈ value, present.Moderate) (options : CheckOptions) :
    program.run options value = schema.interpret mode options value := by
  have agree := schema.rootShape.judge_agree mode value moderate
  rw [assembled_run assembled, interpret_eq_kept, agree]
  rfl

/-- An assembled program reports what the interpreter reports of a moderate value.
Its run comes to an end, after no more steps than its bound says, and what it has
found by then is what is reported. -/
theorem run_eq_interpret (assembled : schema.assemble mode budget = .ok program)
    {value : Option Value} (moderate : ∀ present ∈ value, present.Moderate) (options : CheckOptions) :
    program.run options value = schema.interpret mode options value ∧
    ∃ count ≤ program.bound value, ∃ last,
      Machine.Ends program options.earlyFail count (.start program value) last ∧
      program.run options value = last.found.toList.map (·.failure options.path) := by
  constructor
  · exact assembled_report assembled moderate options
  · rw [assembled_run assembled, layout_of_assemble assembled]
    rcases schema.layout_ends mode options.earlyFail value with ⟨count, bound, last, ends, found⟩
    exact ⟨count, bound, last, ends, by rw [found]⟩

theorem assemble_listOfUnions :
    listOfUnions.assemble .all 64 = .ok (listOfUnions.layout .all) := by
  rw [assemble_eq, layout_size, if_pos (by decide)]

/-- A loop inside of a union inside of a loop, left early. -/
theorem run_listOfUnions :
    listOfUnions.assemble .all 64 = .ok (listOfUnions.layout .all) ∧
    (∀ present ∈ some (Value.list [.text "ab", .list [.null, .boolean true]]), present.Moderate) ∧
    (listOfUnions.layout .all).run ⟨"list", true⟩
        (some (.list [.text "ab", .list [.null, .boolean true]])) =
      listOfUnions.interpret .all ⟨"list", true⟩
        (some (.list [.text "ab", .list [.null, .boolean true]])) := by
  have inner : (Value.list [.null, .boolean true]).Moderate :=
    .list _ (by decide) (List.forall_mem_cons.mpr
      ⟨.null, List.forall_mem_singleton.mpr (.boolean true)⟩)
  have moderate : ∀ present ∈ some (Value.list [.text "ab", .list [.null, .boolean true]]),
      present.Moderate := by
    intro present same
    cases same
    exact .list _ (by decide) (List.forall_mem_cons.mpr
      ⟨.text "ab", List.forall_mem_singleton.mpr inner⟩)
  exact ⟨assemble_listOfUnions, moderate,
    (run_eq_interpret assemble_listOfUnions moderate ⟨"list", true⟩).1⟩

end Schema
end Conformance
