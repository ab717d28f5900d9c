import Conformance.Report

namespace Conformance
namespace CommandLine

/-!
# Arguments of the command line

Options have a long name and perhaps a letter.  A value stands in the same argument
behind the letter or an equals sign, or in the next argument, which must not look
like an option then.  Letters of flags can be joined.  An option must not repeat,
and after two lone dashes nothing is an option any more.  Arguments need not be text,
but only paths are read from what is not.
-/

/-- An option of a command. -/
structure OptionName where
  long : String
  letter : Option Char
  takesValue : Bool

/-- What the arguments of a command say. -/
structure Given where
  options : List (String × SystemText)
  positional : List SystemText

/-- The state of reading arguments.  An option may wait for its value. -/
structure Intake where
  options : List (String × SystemText)
  positional : List SystemText
  waiting : Option String
  literally : Bool

namespace Intake

/-- Nothing read yet. -/
def start : Intake := ⟨[], [], none, false⟩

/-- Notes an option with its value, the empty text for a flag. -/
def give? (intake : Intake) (name : String) (value : SystemText) :
    Option Intake :=
  if (intake.options.lookup name).isSome then none
  else some { intake with options := (name, value) :: intake.options, waiting := none }

/-- Whether an argument looks like an option. -/
def looksLikeOption (argument : SystemText) : Bool :=
  match argument.units with
  | .char '-' :: _ :: _ => true
  | _ => false

/-- Reads an option that is given by its long name. -/
def long? (names : List OptionName) (intake : Intake) (argument : List SystemUnit) :
    Option Intake := do
  let name ← (SystemText.mk (argument.takeWhile (· != .char '='))).toString?
  let option ← names.find? fun option => option.long == name
  match argument.dropWhile (· != .char '='), option.takesValue with
  | _ :: value, true => intake.give? name ⟨value⟩
  | _ :: _, false => none
  | [], true => some { intake with waiting := some name }
  | [], false => intake.give? name ""

/-- Reads options that are given by their letters. -/
def letters? (names : List OptionName) (intake : Intake) : List SystemUnit → Option Intake
  | [] => some intake
  | letter :: rest => do
      let option ← names.find? fun option => option.letter.map .char == some letter
      if option.takesValue then
        match rest with
        | [] => some { intake with waiting := some option.long }
        | .char '=' :: value => intake.give? option.long ⟨value⟩
        | value => intake.give? option.long ⟨value⟩
      else letters? names (← intake.give? option.long "") rest

/-- Reads one argument. -/
def argument? (names : List OptionName) (intake : Intake) (argument : SystemText) :
    Option Intake :=
  if intake.literally || !looksLikeOption argument then
    match intake.waiting with
    | some name => intake.give? name argument
    | none => some { intake with positional := intake.positional ++ [argument] }
  else if intake.waiting.isSome then none
  else
    match argument.units with
    | [.char '-', .char '-'] => some { intake with literally := true }
    | .char '-' :: .char '-' :: rest => intake.long? names rest
    | units => intake.letters? names (units.drop 1)

end Intake

/-- Reads the arguments of a command. -/
def given? (names : List OptionName) (arguments : List SystemText) : Option Given := do
  let intake ← arguments.foldlM (Intake.argument? names) .start
  if intake.waiting.isSome then none else some ⟨intake.options, intake.positional⟩

namespace Given

/-- The value of an option. -/
def value? (given : Given) (name : String) : Option SystemText := given.options.lookup name

/-- The value of an option that has to be a text wherever it is given. -/
def text? (given : Given) (name : String) : Option (Option String) :=
  match given.value? name with
  | none => some none
  | some value => value.toString?.map some

/-- Whether a flag is given. -/
def has (given : Given) (name : String) : Bool := (given.value? name).isSome

end Given

/-- What the program is asked to do. -/
inductive Command where
  | validate (schema : SystemText) (inputs : List SystemText) (options : ValidatorOptions)
      (check : CheckOptions) (format : ReportFormat)
  | types (schema : SystemText) (language : String) (name : Option String)
      (output : Option SystemText) (strict : Bool)
  | print (schema : SystemText)

/-- The options of the program itself. -/
def programOptions : List OptionName :=
  [⟨"verbose", some 'v', false⟩, ⟨"debug", some 'd', false⟩]

/-- The option for the file of the schema. -/
def schemaOption : OptionName := ⟨"schema", some 's', true⟩

/-- The options of the command that validates. -/
def validateOptions : List OptionName :=
  [schemaOption, ⟨"early-fail", none, false⟩, ⟨"interpret", none, false⟩,
    ⟨"all-union-failures", none, false⟩, ⟨"context", none, true⟩, ⟨"format", some 'f', true⟩]

/-- The options of the command that emits types. -/
def typesOptions : List OptionName :=
  [schemaOption, ⟨"language", some 'l', true⟩, ⟨"name", some 'n', true⟩,
    ⟨"output", some 'o', true⟩, ⟨"strict", none, false⟩]

/-- The path of a file, which must not be empty. -/
def path? (path : SystemText) : Option SystemText := if path.isEmpty then none else some path

/-- The format of reports that a text names. -/
def format? : String → Option ReportFormat
  | "text" => some .text
  | "json" => some .json
  | _ => none

/-- Reads the arguments of the command that validates. -/
def validate? (arguments : List SystemText) : Option Command := do
  let given ← given? validateOptions arguments
  let schema ← path? (← given.value? "schema")
  let inputs ← given.positional.mapM path?
  let format ← format? ((← given.text? "format").getD "text")
  let context ← given.text? "context"
  let options : ValidatorOptions :=
    { time := if given.has "interpret" then .never else .firstUse
      mode := if given.has "all-union-failures" then .all else .synthesized }
  let check : CheckOptions :=
    { path := context.getD "", earlyFail := given.has "early-fail" }
  if inputs.isEmpty then none else some (.validate schema inputs options check format)

/-- Reads the arguments of the command that emits types. -/
def types? (arguments : List SystemText) : Option Command := do
  let given ← given? typesOptions arguments
  let schema ← path? (← given.value? "schema")
  let output ← (given.value? "output").elim (some none) fun output => (path? output).map some
  let language ← given.text? "language"
  let name ← given.text? "name"
  if given.positional.isEmpty then
    some (.types schema (language.getD "typescript") name output (given.has "strict"))
  else none

/-- Reads the arguments of the command that prints a schema. -/
def print? (arguments : List SystemText) : Option Command := do
  let given ← given? [schemaOption] arguments
  let schema ← path? (← given.value? "schema")
  if given.positional.isEmpty then some (.print schema) else none

/-- Reads arguments from the name of a command on. -/
def command? (name : String) (arguments : List SystemText) : Option Command :=
  match name with
  | "validate" => validate? arguments
  | "types" => types? arguments
  | "show" => print? arguments
  | _ => none

/-- Reads arguments.  The options of the program stand before the name of the
command. -/
def read? (intake : Intake) : List SystemText → Option Command
  | [] => none
  | argument :: rest =>
      if Intake.looksLikeOption argument && argument != ("--" : SystemText) then
        match intake.argument? programOptions argument with
        | some intake => read? intake rest
        | none => none
      else argument.toString?.bind fun name => command? name rest

/-- The command that some arguments ask for, if they make sense. -/
def Command.ofArguments? (arguments : List SystemText) : Option Command :=
  read? .start arguments

end CommandLine
end Conformance
