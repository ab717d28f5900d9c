import Conformance.Document.Lowering
import Conformance.Document.Outline
import Conformance.Json.Printer
import Conformance.Text.System
import Conformance.Validator

namespace Conformance

/-!
# Reports over files

Files are checked one after another against the schema in another file.  The name
of a file tells its notation: YAML for the extensions `yaml` and `yml`, JSON for
everything else.  The first file that cannot be loaded ends the run.

How a file is read is left to the caller, as an action that answers the text of a
file or nothing.  The path of a file is whatever the system takes for one and need not
be a text.
-/

/-- Why a file cannot be loaded. -/
inductive LoadError where
  | unreadableSchema (path : SystemText)
  | malformedSchema (path : SystemText)
  | invalidSchema (path : SystemText)
  | unreadableInput (path : SystemText)
  | malformedJson (path : SystemText)
  | malformedYaml (path : SystemText)
deriving DecidableEq, Repr

/-- The text of an error. -/
def LoadError.message : LoadError → String
  | .unreadableSchema path => "Failed to read schema " ++ path.display
  | .malformedSchema path => "Failed to parse schema " ++ path.display
  | .invalidSchema path => "Invalid schema " ++ path.display
  | .unreadableInput path => "Failed to read input " ++ path.display
  | .malformedJson path => "Failed to parse JSON input " ++ path.display
  | .malformedYaml path => "Failed to parse YAML input " ++ path.display

namespace Path

/-- The parts of a path between its slashes. -/
def partsFrom (part : List SystemUnit) : List SystemUnit → List SystemText
  | [] => [⟨part.reverse⟩]
  | unit :: rest =>
      if unit = .char '/' then ⟨part.reverse⟩ :: partsFrom [] rest
      else partsFrom (unit :: part) rest

/-- The parts of a path that lead somewhere. -/
def parts (path : SystemText) : List SystemText :=
  (partsFrom [] path.units).filter fun part => !part.isEmpty && part != ("." : SystemText)

/-- The extension of a file name: what follows its last dot, unless the name begins
with that dot. -/
def extension? (path : SystemText) : Option SystemText :=
  match (parts path).getLast? with
  | none => none
  | some name =>
      if name == (".." : SystemText) then none
      else
        let reversed := name.units.reverse
        let extension := reversed.takeWhile (· != .char '.')
        if 2 ≤ reversed.length - extension.length then some ⟨extension.reverse⟩
        else none

/-- Whether a file is written in YAML. -/
def isYaml (path : SystemText) : Bool :=
  let extension := extension? path
  extension == some ("yaml" : SystemText) || extension == some ("yml" : SystemText)

end Path

/-- An action that answers the text of a file, if it can be read. -/
abbrev ReadFile (m : Type → Type) : Type := SystemText → m (Option String)

/-- The schema in a file with some text. -/
def schemaOfText (path : SystemText) (text : String) : Except LoadError Schema :=
  let document? := if Path.isYaml path then Document.ofYaml? text else Document.ofJson? text
  match document? with
  | none => .error (.malformedSchema path)
  | some document =>
      match document.toSchema with
      | .ok schema => .ok schema
      | .error _ => .error (.invalidSchema path)

/-- The value in a file with some text. -/
def valueOfText (path : SystemText) (text : String) : Except LoadError Value :=
  if Path.isYaml path then
    match Yaml.readValue? text with
    | some value => .ok value
    | none => .error (.malformedYaml path)
  else
    match Json.readValue? text with
    | some value => .ok value
    | none => .error (.malformedJson path)

variable {m : Type → Type} [Monad m]

/-- Loads a schema. -/
def loadSchema (read : ReadFile m) (path : SystemText) : m (Except LoadError Schema) := do
  match ← read path with
  | none => return .error (.unreadableSchema path)
  | some text => return schemaOfText path text

/-- Loads a value. -/
def loadValue (read : ReadFile m) (path : SystemText) : m (Except LoadError Value) := do
  match ← read path with
  | none => return .error (.unreadableInput path)
  | some text => return valueOfText path text

/-- What came of one file. -/
structure Report where
  input : SystemText
  failures : List Failure

namespace Report

/-- Whether a file has no failures. -/
def isValid (report : Report) : Bool := report.failures.isEmpty

/-- Checks files in their order. -/
def checkFiles (read : ReadFile m) (options : CheckOptions) :
    Validator → List SystemText → m (Except LoadError (List Report))
  | _, [] => return .ok []
  | validator, path :: rest => do
      match ← loadValue read path with
      | .error error => return .error error
      | .ok value =>
          let (failures, validator) := (validator.validate options (some value)).run
          match ← checkFiles read options validator rest with
          | .error error => return .error error
          | .ok reports => return .ok (⟨path, failures⟩ :: reports)

/-- The lines about one file. -/
def text (report : Report) : String :=
  if report.isValid then report.input.display ++ ": ok\n"
  else
    report.input.display ++ ": " ++ toString report.failures.length ++ " failure(s)\n" ++
      String.join (report.failures.map fun failure => "  - " ++ failure.display ++ "\n")

/-- A failure as data. -/
def failureTree (failure : Failure) : Json.Tree :=
  .map
    [("kind", .text failure.kind.name), ("message", .text failure.message),
      ("value", failure.value.elim .null .ofValue), ("path", .text failure.path)]

/-- A report as data. -/
def tree (report : Report) : Json.Tree :=
  .map [("input", .text report.input.display), ("failures", .list (report.failures.map failureTree))]

end Report

/-- How reports are printed. -/
inductive ReportFormat where
  | text
  | json
deriving DecidableEq, Repr

/-- The text of some reports, each of them under the name that is shown of its file. -/
def ReportFormat.render (format : ReportFormat) (reports : List Report) : String :=
  match format with
  | .text => String.join (reports.map Report.text)
  | .json => Json.pretty (.list (reports.map Report.tree))

/-- What is said of a path that is no text where only a text will do. -/
def notText : String := "path contains invalid UTF-8 characters"

/-- What is printed of some reports, or why nothing is.  Data holds paths only as the
texts that they are. -/
def ReportFormat.print (format : ReportFormat) (reports : List Report) : Except String String :=
  if format = .json && reports.any (·.input.toString?.isNone) then .error notText
  else .ok (format.render reports)

end Conformance
