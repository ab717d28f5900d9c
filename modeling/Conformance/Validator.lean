import Conformance.Program.Assembly
import Conformance.Program.Machine

namespace Conformance

/-!
# Validators

A validator keeps one schema and checks many values.  Depending on its options it
assembles a program at its construction, at the first check or never.  It tries
that once: if the program would be too large the validator walks the schema for
ever.  Both ways answer the same, so the difference shows only in the status.

Operations that may assemble are actions on the validator.
-/

/-- When a validator assembles its program. -/
inductive AssemblyTime where
  | never
  | firstUse
  | construction
deriving DecidableEq, Repr

/-- How large a program may be unless something else is said. -/
def defaultBudget : Nat := 65536

/-- The options of a validator. -/
structure ValidatorOptions where
  time : AssemblyTime := .firstUse
  mode : UnionMode := .synthesized
  budget : Nat := defaultBudget
deriving DecidableEq, Repr

/-- What became of the program of a validator. -/
inductive Assembled where
  | untried
  | refused
  | ready (program : Program)

/-- A validator. -/
structure Validator where
  schema : Schema
  options : ValidatorOptions
  assembled : Assembled

/-- Why a value cannot be cast. -/
inductive CastError where
  | invalid (failures : List Failure)
  | mismatched

namespace Validator

/-- What comes of an attempt at a program. -/
def attempt (schema : Schema) (options : ValidatorOptions) : Assembled :=
  match schema.assemble options.mode options.budget with
  | .ok program => .ready program
  | .error _ => .refused

/-- A new validator. -/
def new (schema : Schema) (options : ValidatorOptions) : Validator :=
  match options.time with
  | .construction => ⟨schema, options, attempt schema options⟩
  | .never | .firstUse => ⟨schema, options, .untried⟩

/-- The program in use, if there is one. -/
def inUse? (validator : Validator) : Option Program :=
  match validator.assembled with
  | .ready program => some program
  | .untried | .refused => none

/-- Whether a program is in use. -/
def isAssembled (validator : Validator) : Bool := validator.inUse?.isSome

/-- The validator after an attempt at its program, if one is due. -/
def prepare (validator : Validator) : Validator :=
  match validator.options.time, validator.assembled with
  | .never, _ => validator
  | _, .untried => { validator with assembled := attempt validator.schema validator.options }
  | _, _ => validator

/-- The failures of a walk over the schema, whatever program there is. -/
def interpret (validator : Validator) (options : CheckOptions) (value : Option Value) :
    List Failure :=
  validator.schema.interpret validator.options.mode options value

/-- The program of a validator.  There is none if it is never assembled or would
be too large. -/
def program? : StateM Validator (Option Program) := do
  modify prepare
  return (← get).inUse?

/-- The failures of a value that may be absent. -/
def validate (options : CheckOptions) (value : Option Value) :
    StateM Validator (List Failure) := do
  match ← program? with
  | some program => return program.run options value
  | none => return (← get).interpret options value

/-- Whether a value has no failures. -/
def isValid (value : Value) : StateM Validator Bool := do
  return (← validate ⟨"", true⟩ (some value)).isEmpty

/-- Reads a value as something else, provided that it has no failures. -/
def cast {Target : Type} (read? : Value → Option Target) (value : Value) :
    StateM Validator (Except CastError Target) := do
  let failures ← validate {} (some value)
  if failures.isEmpty then
    match read? value with
    | some target => return .ok target
    | none => return .error .mismatched
  else return .error (.invalid failures)

end Validator

namespace Value

/-- The byte that a value is. -/
def byte? : Value → Option Nat
  | .number written => written.toWord?.filter (· ≤ 255)
  | _ => none

/-- The truth value that a value is. -/
def boolean? : Value → Option Bool
  | .boolean value => some value
  | _ => none

/-- The truth values that a list holds. -/
def booleans? : Value → Option (List Bool)
  | .list items => items.mapM boolean?
  | _ => none

end Value
end Conformance
