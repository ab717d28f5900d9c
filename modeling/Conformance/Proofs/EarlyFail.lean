import Conformance.Proofs.Validator

namespace Conformance

/-!
# Failing early

A check that fails early and one that goes on take different ways: in the first,
alternatives of unions are cut off, loops are left and findings are dropped.  They
still answer alike, because each of them keeps of one and the same judgement what
its options ask for.
-/

/-- A check that, failing early, reports the first of what it reports otherwise. -/
def ReportsFirst (check : CheckOptions → List Failure) : Prop :=
  ∀ path : String,
    check ⟨path, true⟩ = (check ⟨path, false⟩).take 1 ∧
    (check ⟨path, true⟩).length ≤ 1 ∧
    (check ⟨path, true⟩ = [] ↔ check ⟨path, false⟩ = [])

/-- Whatever keeps what its options ask for reports the first. -/
theorem reportsFirst_of_kept {check : CheckOptions → List Failure} {findings : List Finding}
    (keeps : ∀ options, check options =
      (kept options.earlyFail findings).map (·.failure options.path)) : ReportsFirst check := by
  intro path
  rw [keeps ⟨path, true⟩, keeps ⟨path, false⟩, kept_true, kept_false]
  refine ⟨List.map_take, ?_, ?_⟩
  · rw [List.length_map]
    exact List.length_take_le 1 findings
  · rw [List.map_eq_nil_iff, List.map_eq_nil_iff]
    exact kept_eq_nil_iff true findings

/-- Both engines, failing early, report exactly the first failure.  In particular
a validator accepts a value exactly if it reports no failure, whatever it was asked
before each of the two questions. -/
theorem Schema.early_fail_reports_first (schema : Schema) :
    (∀ (mode : UnionMode) (value : Option Value),
      ReportsFirst fun options => schema.interpret mode options value) ∧
    (∀ (mode : UnionMode) (budget : Nat) (program : Program),
      schema.assemble mode budget = .ok program →
      ∀ value : Option Value, ReportsFirst fun options => program.run options value) ∧
    (∀ (options : ValidatorOptions) (first second : Validator),
      Validator.Reachable schema options first → Validator.Reachable schema options second →
      ∀ value : Value,
        ((Validator.isValid value).run first).1 = true ↔
          ((Validator.validate {} (some value)).run second).1 = []) := by
  refine ⟨?interpreter, ?program, ?validator⟩
  case interpreter =>
    intro mode value
    exact reportsFirst_of_kept fun options => schema.interpret_eq_kept mode options value
  case program =>
    intro mode budget program assembled value
    exact reportsFirst_of_kept fun options => assembled_run assembled options value
  case validator =>
    intro options first second firstReached secondReached value
    rcases Validator.settled_report schema options with ⟨counting, reports⟩
    have early := reportsFirst_of_kept fun check => reports check (some value)
    rw [Validator.isValid_run, Validator.validate_run, firstReached.prepare_eq,
      secondReached.prepare_eq, List.isEmpty_iff]
    exact (early "").2.2

/-- The program of a list of unions, and a new validator with the usual options. -/
theorem listOfUnions_reports_first :
    Schema.listOfUnions.assemble .all 64 = .ok (Schema.listOfUnions.layout .all) ∧
    (∀ value : Option Value,
      ReportsFirst fun options => (Schema.listOfUnions.layout .all).run options value) ∧
    ∀ value : Value,
      ((Validator.isValid value).run (.new Schema.listOfUnions {})).1 = true ↔
        ((Validator.validate {} (some value)).run (.new Schema.listOfUnions {})).1 = [] := by
  rcases Schema.early_fail_reports_first Schema.listOfUnions with ⟨_, program, validator⟩
  exact ⟨Schema.assemble_listOfUnions, program .all 64 _ Schema.assemble_listOfUnions,
    validator {} _ _ .new .new⟩

end Conformance
