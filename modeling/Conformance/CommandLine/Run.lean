import Conformance.CommandLine.Arguments
import Conformance.Emission.Export

namespace Conformance
namespace CommandLine

/-!
# Running commands

A command reads files, perhaps writes one, and answers what is printed, whether
there is an error to tell, and the status of the program.  Arguments that make no
sense end with status 2, every other error with status 1.

How files are read and written is left to the caller.
-/

/-- Access to files.  Writing answers whether it succeeded. -/
structure FileAccess (m : Type → Type) where
  read : ReadFile m
  write : SystemText → String → m Bool

/-- What comes of a run. -/
structure Outcome where
  status : Nat
  output : String
  error : Option String
deriving DecidableEq, Repr

namespace Outcome

/-- Arguments that make no sense. -/
def usage : Outcome := ⟨2, "", none⟩

/-- A run without errors. -/
def success (output : String) : Outcome := ⟨0, output, none⟩

/-- A run that ends with an error. -/
def failure (output error : String) : Outcome := ⟨1, output, some error⟩

end Outcome

/-- Text that ends with a line break. -/
def endedLine (text : String) : String := if text.endsWith "\n" then text else text ++ "\n"

/-- What the command that validates answers about some reports.  If they cannot be
printed, nothing is said of their failures. -/
def validated (format : ReportFormat) (reports : List Report) : Outcome :=
  match format.print reports with
  | .error error => .failure "" error
  | .ok output =>
      let rejected := (reports.filter fun report => !report.isValid).length
      if rejected = 0 then .success output
      else
        .failure output
          (toString rejected ++ " of " ++ toString reports.length ++ " inputs failed validation")

variable {m : Type → Type} [Monad m]

/-- Validates files. -/
def runValidate (files : FileAccess m) (schema : SystemText) (inputs : List SystemText)
    (options : ValidatorOptions) (check : CheckOptions) (format : ReportFormat) : m Outcome := do
  match ← loadSchema files.read schema with
  | .error error => return .failure "" error.message
  | .ok schema =>
      match ← Report.checkFiles files.read check (.new schema options) inputs with
      | .error error => return .failure "" error.message
      | .ok reports => return validated format reports

/-- Emits types. -/
def runTypes (files : FileAccess m) (path : SystemText) (language : String)
    (name : Option String) (output : Option SystemText) (strict : Bool) : m Outcome := do
  match ← loadSchema files.read path with
  | .error error => return .failure "" error.message
  | .ok schema =>
      let mode : RegistryMode := if strict then .strict else .firstWins
      match schema.exportText ⟨true, some language, name, mode⟩ with
      | .error _ => return .failure "" ("Failed to emit types for " ++ path.display)
      | .ok text =>
          match output with
          | none => return .success (endedLine text)
          | some target =>
              if ← files.write target text then return .success ""
              else return .failure "" ("Failed to write " ++ target.display)

/-- Prints a schema as authoring text. -/
def runPrint (files : FileAccess m) (path : SystemText) : m Outcome := do
  match ← loadSchema files.read path with
  | .error error => return .failure "" error.message
  | .ok schema => return .success (Authoring.render 0 schema.rootShape ++ "\n")

/-- Runs a command. -/
def Command.run (files : FileAccess m) : Command → m Outcome
  | .validate schema inputs options check format =>
      runValidate files schema inputs options check format
  | .types schema language name output strict => runTypes files schema language name output strict
  | .print schema => runPrint files schema

/-- Runs the command that some arguments ask for. -/
def run (files : FileAccess m) (arguments : List SystemText) : m Outcome :=
  match Command.ofArguments? arguments with
  | none => return .usage
  | some command => command.run files

end CommandLine
end Conformance
