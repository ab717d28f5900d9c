import Conformance.Proofs.Validator

namespace Conformance

/-!
# Whole runs of a validator

A validator serves one call after another.  Calls are described by the type of what
they answer, and a run by the list of the calls so far.  Two of the calls leave the
validator alone: a walk over the schema and the question for the status.  The first
of the others is the one that may assemble the program.

So a validator has two states in all its life: the one it was constructed in and the
settled one, and which of them it is in is told by the calls so far.  From that
follows what the status is at every moment, and that the program makes no difference
for any answer.
-/

namespace Validator

/-- A call on a validator, by the type of its answer. -/
inductive Call : Type → Type 1 where
  | validate (check : CheckOptions) (value : Option Value) : Call (List Failure)
  | isValid (value : Value) : Call Bool
  | cast {Target : Type} (read? : Value → Option Target) (value : Value) :
      Call (Except CastError Target)
  | program : Call (Option Program)
  | interpret (check : CheckOptions) (value : Option Value) : Call (List Failure)
  | status : Call Bool

namespace Call

variable {Answer : Type}

/-- What a call does. -/
def action : Call Answer → StateM Validator Answer
  | .validate check value => Validator.validate check value
  | .isValid value => Validator.isValid value
  | .cast read? value => Validator.cast read? value
  | .program => program?
  | .interpret check value => return (← get).interpret check value
  | .status => return (← get).isAssembled

/-- What a validator answers to a call. -/
def answer (call : Call Answer) (validator : Validator) : Answer := (call.action.run validator).1

/-- The validator after a call. -/
def next (call : Call Answer) (validator : Validator) : Validator := (call.action.run validator).2

/-- Whether a call may assemble the program. -/
def mayAssemble : Call Answer → Bool
  | .interpret _ _ | .status => false
  | .validate _ _ | .isValid _ | .cast _ _ | .program => true

@[simp] theorem answer_interpret (check : CheckOptions) (value : Option Value)
    (validator : Validator) :
    (Call.interpret check value).answer validator = validator.interpret check value := rfl

@[simp] theorem answer_status (validator : Validator) :
    Call.status.answer validator = validator.isAssembled := rfl

theorem answer_validate (check : CheckOptions) (value : Option Value) (validator : Validator) :
    (Call.validate check value).answer validator = validator.prepare.report check value := by
  rw [answer, action, validate_run]

/-- A call that may assemble the program prepares the validator, and no call does
anything else to it. -/
theorem next_eq (call : Call Answer) (validator : Validator) :
    call.next validator = if call.mayAssemble then validator.prepare else validator := by
  cases call with
  | validate check value => rw [next, action, validate_run, mayAssemble, if_pos rfl]
  | isValid value => rw [next, action, isValid_run, mayAssemble, if_pos rfl]
  | cast read? value => rw [next, action, cast_run, mayAssemble, if_pos rfl]
  | program => rw [next, action, program?_run, mayAssemble, if_pos rfl]
  | interpret check value => rfl
  | status => rfl

/-- A value is cast to itself unless it has failures, and those are the error. -/
theorem answer_cast_some (value : Value) (validator : Validator) :
    (Call.cast some value).answer validator =
      match (Call.validate {} (some value)).answer validator with
      | [] => .ok value
      | failures => .error (.invalid failures) := by
  rw [answer_validate, answer, action, cast_answer]
  cases validator.prepare.report {} (some value) <;> rfl

end Call

/-- The validator after some calls, the first of them first. -/
def after (validator : Validator) (calls : List ((Answer : Type) × Call Answer)) : Validator :=
  calls.foldl (fun validator call => call.2.next validator) validator

/-! ## The two states of a validator -/

section

variable (schema : Schema) (options : ValidatorOptions)

/-- A settled validator stays as it is. -/
theorem settled_next {Answer : Type} (call : Call Answer) :
    call.next (settled schema options) = settled schema options := by
  rw [call.next_eq, settled_prepare, ite_self]

theorem settled_after (calls : List ((Answer : Type) × Call Answer)) :
    (settled schema options).after calls = settled schema options := by
  induction calls with
  | nil => rfl
  | cons call rest inductionHypothesis =>
      rw [after, List.foldl_cons, settled_next]
      exact inductionHypothesis

/-- A validator is as it was constructed until the first call that may assemble its
program, and settled from then on. -/
theorem new_after (calls : List ((Answer : Type) × Call Answer)) :
    (new schema options).after calls =
      if calls.any (·.2.mayAssemble) then settled schema options else new schema options := by
  induction calls with
  | nil => rfl
  | cons call rest inductionHypothesis =>
      rw [after, List.foldl_cons, call.2.next_eq, List.any_cons]
      cases call.2.mayAssemble with
      | true =>
          rw [if_pos rfl, new_prepare, Bool.true_or, if_pos rfl]
          exact settled_after schema options rest
      | false =>
          rw [if_neg Bool.false_ne_true, Bool.false_or]
          exact inductionHypothesis

theorem new_after_prepare (calls : List ((Answer : Type) × Call Answer)) :
    ((new schema options).after calls).prepare = settled schema options := by
  rw [new_after]
  cases calls.any (·.2.mayAssemble) with
  | true => exact settled_prepare schema options
  | false => exact new_prepare schema options

theorem new_interpret (check : CheckOptions) (value : Option Value) :
    (new schema options).interpret check value = schema.interpret options.mode check value := by
  cases time : options.time <;> simp only [new, time, interpret]

theorem new_after_interpret (calls : List ((Answer : Type) × Call Answer)) (check : CheckOptions)
    (value : Option Value) :
    ((new schema options).after calls).interpret check value =
      schema.interpret options.mode check value := by
  rw [new_after]
  cases calls.any (·.2.mayAssemble) with
  | true => exact settled_interpret schema options check value
  | false => exact new_interpret schema options check value

/-- Whatever was assembled, a settled validator reports of a moderate value what the
interpreter does. -/
theorem settled_report_eq {value : Option Value} (moderate : ∀ present ∈ value, present.Moderate)
    (check : CheckOptions) :
    (settled schema options).report check value = schema.interpret options.mode check value := by
  cases used : (settled schema options).inUse? with
  | none =>
      simp only [report, used]
      exact settled_interpret schema options check value
  | some program =>
      simp only [report, used]
      exact Schema.assembled_report (settled_inUse used) moderate check

/-! ## The status -/

/-- Whether the program of a schema is within the budget. -/
def isWithinBudget : Bool := (schema.assemble options.mode options.budget).isOk

theorem attempt_isAssembled :
    (Validator.mk schema options (attempt schema options)).isAssembled =
      isWithinBudget schema options := by
  rw [isAssembled, inUse?, attempt, isWithinBudget]
  cases schema.assemble options.mode options.budget <;> rfl

theorem settled_isAssembled :
    (settled schema options).isAssembled =
      match options.time with
      | .never => false
      | .firstUse | .construction => isWithinBudget schema options := by
  cases time : options.time with
  | never =>
      simp only [settled, time]
      rfl
  | _ =>
      simp only [settled, time]
      exact attempt_isAssembled schema options

theorem new_isAssembled :
    (new schema options).isAssembled =
      match options.time with
      | .never | .firstUse => false
      | .construction => isWithinBudget schema options := by
  cases time : options.time with
  | construction =>
      simp only [new, time]
      exact attempt_isAssembled schema options
  | _ =>
      simp only [new, time]
      rfl

/-- Whether a program is in use is told by the options, the budget and the calls so
far. -/
theorem new_after_isAssembled (calls : List ((Answer : Type) × Call Answer)) :
    ((new schema options).after calls).isAssembled =
      match options.time with
      | .never => false
      | .construction => isWithinBudget schema options
      | .firstUse => calls.any (·.2.mayAssemble) && isWithinBudget schema options := by
  rw [new_after]
  cases calls.any (·.2.mayAssemble) with
  | true =>
      rw [if_pos rfl, settled_isAssembled]
      cases options.time <;> rfl
  | false =>
      rw [if_neg Bool.false_ne_true, new_isAssembled]
      cases options.time <;> rfl

/-- No call turns the status back: where it depends on the calls, one more call can only
be another one that may assemble. -/
theorem isAssembled_next (calls : List ((Answer : Type) × Call Answer)) {Answer : Type}
    (call : Call Answer) (assembled : ((new schema options).after calls).isAssembled = true) :
    (call.next ((new schema options).after calls)).isAssembled = true := by
  have later := new_after_isAssembled schema options (calls ++ [⟨Answer, call⟩])
  rw [after, List.foldl_append] at later
  rw [new_after_isAssembled] at assembled
  refine later.trans ?_
  cases time : options.time with
  | never =>
      rw [time] at assembled
      exact assembled
  | construction =>
      rw [time] at assembled
      exact assembled
  | firstUse =>
      rw [time] at assembled
      rcases Bool.and_eq_true_iff.mp assembled with ⟨called, within⟩
      simp only [List.any_append, called, within, Bool.true_or, Bool.and_self]

end

/-- Assembly is transparent over whole runs.  After any calls, a validator reports of
a moderate value what a walk over its schema does, and casts a value to itself exactly
if it reports nothing.  The status depends on the calls only where the program is
assembled at its first use: there it turns with the first call that may assemble,
provided that the program is within the budget.  No call turns it back. -/
theorem answers_transparent (schema : Schema) (options : ValidatorOptions)
    (earlier : List ((Answer : Type) × Call Answer)) :
    let validator := (new schema options).after earlier
    (∀ (check : CheckOptions) (value : Option Value), (∀ present ∈ value, present.Moderate) →
      (Call.validate check value).answer validator = (Call.interpret check value).answer validator) ∧
    (∀ (check : CheckOptions) (value : Option Value),
      (Call.interpret check value).answer validator = schema.interpret options.mode check value) ∧
    (∀ value : Value,
      (Call.cast some value).answer validator =
        match (Call.validate {} (some value)).answer validator with
        | [] => .ok value
        | failures => .error (.invalid failures)) ∧
    (∀ {Answer : Type} (call : Call Answer), Call.status.answer validator = true →
      Call.status.answer (call.next validator) = true) ∧
    Call.status.answer validator =
      match options.time with
      | .never => false
      | .construction => (schema.assemble options.mode options.budget).isOk
      | .firstUse =>
          earlier.any (·.2.mayAssemble) && (schema.assemble options.mode options.budget).isOk := by
  intro validator
  have interprets : ∀ check value,
      validator.interpret check value = schema.interpret options.mode check value :=
    new_after_interpret schema options earlier
  have status := new_after_isAssembled schema options earlier
  refine ⟨?validates, ?interprets, ?casts, ?stays, ?status⟩
  case validates =>
    intro check value moderate
    rw [Call.answer_validate, new_after_prepare, settled_report_eq schema options moderate,
      Call.answer_interpret, interprets]
  case interprets => exact interprets
  case casts =>
    intro value
    exact Call.answer_cast_some value validator
  case stays =>
    intro Answer call assembled
    exact isAssembled_next schema options earlier call assembled
  case status => exact status

/-- A validator that was asked for its status, and then whether it accepts null. -/
theorem answers_listOfUnions :
    let validator := (new Schema.listOfUnions ⟨.firstUse, .all, 64⟩).after
      [⟨Bool, .status⟩, ⟨Bool, .isValid .null⟩]
    (∀ present ∈ some (Value.list [.text "abcd"]), present.Moderate) ∧
    (Call.validate ⟨"list", true⟩ (some (.list [.text "abcd"]))).answer validator =
      (Call.interpret ⟨"list", true⟩ (some (.list [.text "abcd"]))).answer validator ∧
    Call.status.answer validator = true ∧
    Call.status.answer ((Call.cast Value.text? .null).next validator) = true := by
  intro validator
  have moderate : ∀ present ∈ some (Value.list [.text "abcd"]), present.Moderate :=
    Value.forall_mem_some (.list _ (by decide) (List.forall_mem_singleton.mpr (.text "abcd")))
  rcases answers_transparent Schema.listOfUnions ⟨.firstUse, .all, 64⟩
    [⟨Bool, .status⟩, ⟨Bool, .isValid .null⟩] with ⟨validates, _, _, stays, status⟩
  have assembled : Call.status.answer validator = true := by
    refine status.trans ?_
    rw [Schema.assemble_listOfUnions]
    rfl
  exact ⟨moderate, validates ⟨"list", true⟩ _ moderate, assembled, stays _ assembled⟩

end Validator
end Conformance
