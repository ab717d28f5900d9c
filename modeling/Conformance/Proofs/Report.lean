import Conformance.Proofs.Calls
import Conformance.Proofs.Verdict
import Conformance.Report
import Mathlib.Data.List.Forall2

namespace Conformance

/-!
# Checks of files

A check of files reads them one after another, hands one validator on from input to
input, and drops the reports that it has made when a later input cannot be loaded.
Of all this only the last shows.  Where reading changes nothing, a check of files is
what it is on fixed contents, and there the report on an input is what the interpreter
finds in it, whatever was checked before.  So a check that comes to its end reports on
every input in turn, and any other ends with the first input that cannot be loaded.
-/

/-! ## Reading that changes nothing -/

section

variable {System Answer Result : Type} {system : System}

/-- On a system, an action answers what a pure one does and leaves the system as it is. -/
def Observes (system : System) (action : StateM System Answer) (answer : Id Answer) : Prop :=
  action.run system = (answer.run, system)

theorem Observes.pure (answer : Answer) : Observes system (pure answer) (pure answer) := rfl

theorem Observes.bind {action : StateM System Answer} {answer : Id Answer}
    {next : Answer → StateM System Result} {result : Answer → Id Result}
    (first : Observes system action answer)
    (second : ∀ found, Observes system (next found) (result found)) :
    Observes system (action >>= next) (answer >>= result) := by
  rw [Observes, StateT.run_bind, first]
  exact second answer.run

/-- Reading a system is reading fixed contents. -/
def ReadFile.Shows (read : ReadFile (StateM System)) (system : System) (contents : ReadFile Id) :
    Prop :=
  ∀ path : SystemText, Observes system (read path) (contents path)

variable {read : ReadFile (StateM System)} {contents : ReadFile Id}
  (shown : read.Shows system contents)
include shown

theorem ReadFile.Shows.loadSchema (path : SystemText) :
    Observes system (loadSchema read path) (loadSchema contents path) := by
  refine (shown path).bind fun text? => ?_
  cases text? with
  | none => exact .pure _
  | some text => exact .pure _

theorem ReadFile.Shows.loadValue (path : SystemText) :
    Observes system (loadValue read path) (loadValue contents path) := by
  refine (shown path).bind fun text? => ?_
  cases text? with
  | none => exact .pure _
  | some text => exact .pure _

theorem ReadFile.Shows.checkFiles (check : CheckOptions) (validator : Validator)
    (inputs : List SystemText) :
    Observes system (Report.checkFiles read check validator inputs)
      (Report.checkFiles contents check validator inputs) := by
  induction inputs generalizing validator with
  | nil => exact .pure _
  | cons path rest inductionHypothesis =>
      refine (shown.loadValue path).bind fun loaded => ?_
      cases loaded with
      | error error => exact .pure _
      | ok value =>
          refine (inductionHypothesis _).bind fun checked => ?_
          cases checked with
          | error error => exact .pure _
          | ok reports => exact .pure _

end

/-! ## Inputs that can and that cannot be loaded -/

section

variable (contents : ReadFile Id)

/-- An input is loaded as a value. -/
def LoadsAs (path : SystemText) (value : Value) : Prop := (loadValue contents path).run = .ok value

/-- The first of some inputs that cannot be loaded, and the error of loading it. -/
inductive FirstUnloadable : List SystemText → SystemText → LoadError → Prop where
  | here {path : SystemText} {error : LoadError} (fails : (loadValue contents path).run = .error error)
      (rest : List SystemText) : FirstUnloadable (path :: rest) path error
  | later {path : SystemText} {value : Value} (loads : LoadsAs contents path value)
      {rest : List SystemText} {first : SystemText} {error : LoadError}
      (found : FirstUnloadable rest first error) : FirstUnloadable (path :: rest) first error

/-- A report says of an input what the interpreter finds in it. -/
structure Report.Describes (schema : Schema) (mode : UnionMode) (check : CheckOptions)
    (path : SystemText) (report : Report) : Prop where
  input_eq : report.input = path
  failures_eq : ∃ value, LoadsAs contents path value ∧
    report.failures = schema.interpret mode check (some value)

end

variable {contents : ReadFile Id} {inputs : List SystemText} {path : SystemText} {error : LoadError}

theorem loads_or_firstUnloadable (contents : ReadFile Id) (inputs : List SystemText) :
    (∀ path ∈ inputs, ∃ value, LoadsAs contents path value) ∨
      ∃ path error, FirstUnloadable contents inputs path error := by
  induction inputs with
  | nil => exact .inl fun path member => nomatch member
  | cons path rest inductionHypothesis =>
      cases loaded : (loadValue contents path).run with
      | error error => exact .inr ⟨path, error, .here loaded rest⟩
      | ok value =>
          rcases inductionHypothesis with loads | ⟨first, error, found⟩
          · exact .inl (List.forall_mem_cons.mpr ⟨⟨value, loaded⟩, loads⟩)
          · exact .inr ⟨first, error, .later loaded found⟩

theorem FirstUnloadable.mem_and_fails (found : FirstUnloadable contents inputs path error) :
    path ∈ inputs ∧ (loadValue contents path).run = .error error := by
  induction found with
  | here fails rest => exact ⟨List.mem_cons_self, fails⟩
  | later loads found inductionHypothesis =>
      rcases inductionHypothesis with ⟨member, fails⟩
      exact ⟨List.mem_cons_of_mem _ member, fails⟩

theorem valueOfText_error {text : String} (fails : valueOfText path text = .error error) :
    error = .malformedYaml path ∨ error = .malformedJson path := by
  rw [valueOfText] at fails
  split at fails
  · cases parsed : Yaml.readValue? text with
    | some value => simp only [parsed, reduceCtorEq] at fails
    | none =>
        simp only [parsed, Except.error.injEq] at fails
        exact .inl fails.symm
  · cases parsed : Json.readValue? text with
    | some value => simp only [parsed, reduceCtorEq] at fails
    | none =>
        simp only [parsed, Except.error.injEq] at fails
        exact .inr fails.symm

/-- The error of loading an input names the input. -/
theorem loadValue_error_message (fails : (loadValue contents path).run = .error error) :
    ∃ complaint, error.message = complaint ++ path.display := by
  rw [loadValue, Id.run_bind] at fails
  cases text? : (contents path).run with
  | none =>
      rw [text?] at fails
      cases fails
      exact ⟨_, rfl⟩
  | some text =>
      rw [text?] at fails
      rcases valueOfText_error fails with rfl | rfl
      · exact ⟨_, rfl⟩
      · exact ⟨_, rfl⟩

/-! ## What a check of files answers -/

namespace Report

theorem checkFiles_error (fails : (loadValue contents path).run = .error error)
    (check : CheckOptions) (validator : Validator) (rest : List SystemText) :
    (checkFiles contents check validator (path :: rest)).run = .error error := by
  rw [checkFiles, Id.run_bind, fails]
  rfl

/-- A prepared validator reports on an input, and it is handed on to the others. -/
theorem checkFiles_ok {value : Value} (loads : LoadsAs contents path value) (check : CheckOptions)
    (validator : Validator) (rest : List SystemText) :
    (checkFiles contents check validator (path :: rest)).run =
      (checkFiles contents check validator.prepare rest).run.map
        (⟨path, validator.prepare.report check (some value)⟩ :: ·) := by
  have validated : validator.validate check (some value) =
      (validator.prepare.report check (some value), validator.prepare) :=
    validator.validate_run check (some value)
  rw [checkFiles, Id.run_bind, show (loadValue contents path).run = _ from loads]
  simp only [validated, Id.run]
  cases checkFiles contents check validator.prepare rest <;> rfl

/-- The first input that cannot be loaded ends a check, whatever came before it. -/
theorem checkFiles_of_firstUnloadable (found : FirstUnloadable contents inputs path error)
    (check : CheckOptions) (validator : Validator) :
    (checkFiles contents check validator inputs).run = .error error := by
  induction found generalizing validator with
  | here fails rest => exact checkFiles_error fails check validator rest
  | later loads found inductionHypothesis =>
      rw [checkFiles_ok loads, inductionHypothesis]
      rfl

variable {schema : Schema} {options : ValidatorOptions}

/-- A check of inputs that can all be loaded describes each of them.  The validator is
the same for all of them once it is prepared. -/
theorem checkFiles_of_loads {validator : Validator}
    (prepared : validator.prepare = Validator.settled schema options) (check : CheckOptions)
    (loads : ∀ path ∈ inputs, ∃ value, LoadsAs contents path value ∧ value.Moderate) :
    ∃ reports, (checkFiles contents check validator inputs).run = .ok reports ∧
      List.Forall₂ (Describes contents schema options.mode check) inputs reports := by
  induction inputs generalizing validator with
  | nil => exact ⟨[], rfl, .nil⟩
  | cons path rest inductionHypothesis =>
      rcases List.forall_mem_cons.mp loads with ⟨⟨value, loaded, moderate⟩, later⟩
      rcases inductionHypothesis (Validator.settled_prepare schema options) later with
        ⟨reports, checked, described⟩
      refine ⟨⟨path, schema.interpret options.mode check (some value)⟩ :: reports, ?_,
        .cons ⟨rfl, value, loaded, rfl⟩ described⟩
      rw [checkFiles_ok loaded, prepared, checked,
        Validator.settled_report_eq schema options (Value.forall_mem_some moderate)]
      rfl

/-- The verdict of a report is the one of the interpreter, in whichever mode and with
whichever options. -/
theorem Describes.isValid_iff {mode : UnionMode} {check : CheckOptions} {report : Report}
    (described : Describes contents schema mode check path report) (other : UnionMode)
    (otherCheck : CheckOptions) :
    report.isValid = true ↔
      ∃ value, LoadsAs contents path value ∧ schema.interpret other otherCheck (some value) = [] := by
  rcases described.failures_eq with ⟨value, loaded, failures⟩
  have verdict : report.failures = [] ↔ schema.interpret other otherCheck (some value) = [] := by
    rw [failures]
    exact schema.interpret_verdict mode other check otherCheck (some value)
  rw [isValid, List.isEmpty_iff, verdict]
  constructor
  · intro accepted
    exact ⟨value, loaded, accepted⟩
  · rintro ⟨again, loadedAgain, accepted⟩
    cases loaded.symm.trans loadedAgain
    exact accepted

theorem exists_input_iff_of_describes {mode : UnionMode} {check : CheckOptions}
    {reports : List Report}
    (described : List.Forall₂ (Describes contents schema mode check) inputs reports)
    (property : SystemText → Prop) :
    (∃ report ∈ reports, property report.input) ↔ ∃ path ∈ inputs, property path := by
  induction described with
  | nil => simp only [List.not_mem_nil, false_and, exists_false]
  | cons first rest inductionHypothesis =>
      simp only [List.mem_cons, exists_eq_or_imp, first.input_eq, inductionHypothesis]

/-- The interpreter says one thing only of an input. -/
theorem describes_rightUnique (contents : ReadFile Id) (schema : Schema) (mode : UnionMode)
    (check : CheckOptions) : Relator.RightUnique (Describes contents schema mode check) := by
  rintro path ⟨input, failures⟩ ⟨other, others⟩ described again
  cases described.input_eq
  cases again.input_eq
  rcases described.failures_eq with ⟨value, loaded, found⟩
  rcases again.failures_eq with ⟨same, loadedAgain, foundAgain⟩
  cases loaded.symm.trans loadedAgain
  cases found.trans foundAgain.symm
  rfl

section

variable {mode other : UnionMode} {check otherCheck : CheckOptions} {reports others : List Report}

/-- Reports that describe the same inputs have the same verdicts. -/
theorem map_isValid_eq_of_describes
    (described : List.Forall₂ (Describes contents schema mode check) inputs reports)
    (again : List.Forall₂ (Describes contents schema other otherCheck) inputs others) :
    reports.map isValid = others.map isValid := by
  induction described generalizing others with
  | nil =>
      cases again
      rfl
  | cons first rest inductionHypothesis =>
      cases again with
      | cons firstAgain restAgain =>
          have heads := (first.isValid_iff .all {}).trans (firstAgain.isValid_iff .all {}).symm
          rw [List.map_cons, List.map_cons, Bool.eq_iff_iff.mpr heads, inductionHypothesis restAgain]

/-- All reports are without failures exactly if all inputs are accepted. -/
theorem forall_isValid_iff
    (described : List.Forall₂ (Describes contents schema mode check) inputs reports)
    (other : UnionMode) (otherCheck : CheckOptions) :
    (∀ report ∈ reports, report.isValid = true) ↔
      ∀ path ∈ inputs, ∃ value, LoadsAs contents path value ∧
        schema.interpret other otherCheck (some value) = [] := by
  induction described with
  | nil => exact iff_of_true (fun _ member => nomatch member) (fun _ member => nomatch member)
  | cons first rest inductionHypothesis =>
      rw [List.forall_mem_cons, List.forall_mem_cons, inductionHypothesis,
        first.isValid_iff other otherCheck]

end

end Report
end Conformance
