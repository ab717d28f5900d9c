import Conformance.Proofs.Check.Interpretation
import Conformance.Proofs.Program.Equivalence
import Conformance.Validator

namespace Conformance

/-!
# Validators in use

Calls change a validator in one way only: the first that may assemble its program
does so.  Whatever calls came before, a validator that is asked for a program is
afterwards in one state, which its schema and its options determine.  So what it
answers does not depend on the calls before.
-/

namespace Validator

/-- The validators that calls can lead to, from a new one. -/
inductive Reachable (schema : Schema) (options : ValidatorOptions) : Validator → Prop where
  | new : Reachable schema options (.new schema options)
  | program {validator : Validator} (reached : Reachable schema options validator) :
      Reachable schema options (program?.run validator).2
  | validate {validator : Validator} (reached : Reachable schema options validator)
      (check : CheckOptions) (value : Option Value) :
      Reachable schema options ((Validator.validate check value).run validator).2
  | isValid {validator : Validator} (reached : Reachable schema options validator) (value : Value) :
      Reachable schema options ((Validator.isValid value).run validator).2
  | cast {validator : Validator} (reached : Reachable schema options validator) {Target : Type}
      (read? : Value → Option Target) (value : Value) :
      Reachable schema options ((Validator.cast read? value).run validator).2

/-- The validator after any call that may assemble. -/
def settled (schema : Schema) (options : ValidatorOptions) : Validator :=
  match options.time with
  | .never => ⟨schema, options, .untried⟩
  | .firstUse | .construction => ⟨schema, options, attempt schema options⟩

section

variable (validator : Validator)

theorem program?_run : program?.run validator = (validator.prepare.inUse?, validator.prepare) := rfl

/-- The failures that a validator reports once it is prepared. -/
def report (options : CheckOptions) (value : Option Value) : List Failure :=
  match validator.inUse? with
  | some program => program.run options value
  | none => validator.interpret options value

/-- Two actions on a validator, one after the other. -/
private theorem run_bind {First Second : Type} (first : StateM Validator First)
    (second : First → StateM Validator Second) :
    (first >>= second).run validator = (second (first.run validator).1).run (first.run validator).2 :=
  rfl

theorem validate_run (options : CheckOptions) (value : Option Value) :
    (validate options value).run validator =
      (validator.prepare.report options value, validator.prepare) := by
  rw [validate, run_bind, program?_run, report]
  cases validator.prepare.inUse? <;> rfl

theorem isValid_run (value : Value) :
    (isValid value).run validator =
      ((validator.prepare.report ⟨"", true⟩ (some value)).isEmpty, validator.prepare) := by
  rw [isValid, run_bind, validate_run]
  rfl

theorem cast_run {Target : Type} (read? : Value → Option Target) (value : Value) :
    ((cast read? value).run validator).2 = validator.prepare := by
  rw [cast, run_bind, validate_run]
  cases (validator.prepare.report {} (some value)).isEmpty with
  | false =>
      simp only [Bool.false_eq_true, if_false]
      rfl
  | true =>
      simp only [if_true]
      cases read? value <;> rfl

/-- A value without failures is read, and all failures of any other are the error. -/
theorem cast_answer {Target : Type} (read? : Value → Option Target) (value : Value) :
    ((cast read? value).run validator).1 =
      if (validator.prepare.report {} (some value)).isEmpty then
        match read? value with
        | some target => .ok target
        | none => .error .mismatched
      else .error (.invalid (validator.prepare.report {} (some value))) := by
  rw [cast, run_bind, validate_run]
  cases (validator.prepare.report {} (some value)).isEmpty with
  | false =>
      simp only [Bool.false_eq_true, if_false]
      rfl
  | true =>
      simp only [if_true]
      cases read? value <;> rfl

end

variable {schema : Schema} {options : ValidatorOptions}

theorem new_prepare (schema : Schema) (options : ValidatorOptions) :
    (new schema options).prepare = settled schema options := by
  cases time : options.time with
  | construction =>
      cases tried : attempt schema options <;>
        simp only [new, settled, prepare, time, tried]
  | _ => simp only [new, settled, prepare, time]

theorem settled_prepare (schema : Schema) (options : ValidatorOptions) :
    (settled schema options).prepare = settled schema options := by
  cases time : options.time with
  | never => simp only [settled, prepare, time]
  | _ =>
      cases tried : attempt schema options <;>
        simp only [settled, prepare, time, tried]

/-- Whatever calls came before, the next one that may assemble leads to one state. -/
theorem Reachable.prepare_eq {validator : Validator} (reached : Reachable schema options validator) :
    validator.prepare = settled schema options := by
  induction reached with
  | new => exact new_prepare schema options
  | program reached inductionHypothesis =>
      rw [program?_run, inductionHypothesis]
      exact settled_prepare schema options
  | validate reached check value inductionHypothesis =>
      rw [validate_run, inductionHypothesis]
      exact settled_prepare schema options
  | isValid reached value inductionHypothesis =>
      rw [isValid_run, inductionHypothesis]
      exact settled_prepare schema options
  | cast reached read? value inductionHypothesis =>
      rw [cast_run, inductionHypothesis]
      exact settled_prepare schema options

/-- The program in use is the one that the schema is assembled to. -/
theorem settled_inUse {program : Program} (used : (settled schema options).inUse? = some program) :
    schema.assemble options.mode options.budget = .ok program := by
  have ready : (attempt schema options) = .ready program := by
    cases time : options.time with
    | never =>
        simp only [settled, time, inUse?, reduceCtorEq] at used
    | _ =>
        cases tried : attempt schema options <;>
          simp only [settled, time, tried, inUse?, reduceCtorEq, Option.some.injEq] at used
        rw [used]
  rw [attempt] at ready
  cases assembled : schema.assemble options.mode options.budget with
  | error refusal =>
      rw [assembled] at ready
      cases ready
  | ok found =>
      rw [assembled] at ready
      cases ready
      rfl

theorem settled_interpret (schema : Schema) (options : ValidatorOptions) (check : CheckOptions)
    (value : Option Value) :
    (settled schema options).interpret check value = schema.interpret options.mode check value := by
  cases time : options.time <;> simp only [settled, time, interpret]

/-- What a validator reports is the judgement of its schema, or what is left of it
where counts are compared with bounds that bind. -/
theorem settled_report (schema : Schema) (options : ValidatorOptions) :
    ∃ counting : Counting, ∀ (check : CheckOptions) (value : Option Value),
      (settled schema options).report check value =
        (kept check.earlyFail (schema.rootShape.judge counting options.mode value)).map
          (·.failure check.path) := by
  cases used : (settled schema options).inUse? with
  | none =>
      refine ⟨.every, fun check value => ?_⟩
      simp only [report, used]
      rw [settled_interpret, Schema.interpret_eq_kept]
      rfl
  | some program =>
      refine ⟨.binding, fun check value => ?_⟩
      simp only [report, used]
      exact Schema.assembled_run (settled_inUse used) check value

end Validator
end Conformance
