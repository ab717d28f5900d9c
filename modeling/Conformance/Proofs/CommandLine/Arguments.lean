import Conformance.CommandLine.Arguments
import Conformance.Proofs.Text.System
import Mathlib.Data.List.Nodup

namespace Conformance
namespace CommandLine

/-!
# Arguments that are read as they are meant

Whatever is to be said to a command can be said in arguments: each option in one
argument, its value behind an equals sign, and everything that is no option behind two
lone dashes.  What is read of such arguments is what was to be said, provided that no
option is given twice.
-/

/-- An option of a command with the value that it is given, if it is given.  A flag is
given the empty text. -/
structure Choice where
  option : OptionName
  value? : Option SystemText

namespace Choice

/-- A choice that one argument can say: the option is found by its long name, which is
told apart from a value, and there is no value where none is taken. -/
structure Legible (names : List OptionName) (choice : Choice) : Prop where
  found : (names.find? fun other => other.long == choice.option.long) = some choice.option
  named : choice.option.long.toList.isEmpty = false
  plain : choice.option.long.toList.all (· != '=') = true
  empty : choice.option.takesValue = false → ∀ value ∈ choice.value?, value = ("" : SystemText)

/-- The argument that gives an option a value. -/
def spelling (option : OptionName) (value : SystemText) : SystemText :=
  ⟨.char '-' :: .char '-' :: ((option.long : SystemText).units ++
    if option.takesValue then .char '=' :: value.units else [])⟩

/-- The arguments that say some choices. -/
def spell (choices : List Choice) : List SystemText :=
  choices.filterMap fun choice => choice.value?.map (spelling choice.option)

/-- What is noted of some choices, the last of them first. -/
def noted (choices : List Choice) : List (String × SystemText) :=
  (choices.filterMap fun choice => choice.value?.map (choice.option.long, ·)).reverse

theorem noted_cons (choice : Choice) (choices : List Choice) :
    noted (choice :: choices) =
      noted choices ++ (choice.value?.map (choice.option.long, ·)).toList := by
  rw [noted, List.filterMap_cons]
  cases choice.value? with
  | none => exact (List.append_nil _).symm
  | some value => exact List.reverse_cons

theorem lookup_noted_of_not_mem {choices : List Choice} {name : String}
    (other : name ∉ choices.map (·.option.long)) : (noted choices).lookup name = none := by
  induction choices with
  | nil => rfl
  | cons choice rest inductionHypothesis =>
      rw [noted_cons, List.lookup_append, inductionHypothesis (List.not_mem_of_not_mem_cons other),
        Option.none_or]
      cases choice.value? with
      | none => rfl
      | some value =>
          rw [Option.map_some, Option.toList_some, List.lookup_cons,
            beq_eq_false_iff_ne.mpr (List.ne_of_not_mem_cons other)]
          rfl

/-- Of different options, each has been noted with its own value. -/
theorem lookup_noted {choices : List Choice} (different : (choices.map (·.option.long)).Nodup)
    {choice : Choice} (member : choice ∈ choices) :
    (noted choices).lookup choice.option.long = choice.value? := by
  induction choices with
  | nil => cases member
  | cons first rest inductionHypothesis =>
      rcases List.nodup_cons.mp different with ⟨fresh, laterDifferent⟩
      rw [noted_cons, List.lookup_append]
      rcases List.mem_cons.mp member with rfl | later
      · rw [lookup_noted_of_not_mem fresh, Option.none_or]
        cases choice.value? with
        | none => rfl
        | some value => rw [Option.map_some, Option.toList_some, List.lookup_cons, beq_self_eq_true]
      · rw [inductionHypothesis laterDifferent later]
        have other : choice.option.long ≠ first.option.long := fun same =>
          fresh (List.mem_map.mpr ⟨choice, later, same⟩)
        cases first.value? with
        | none => exact Option.or_none
        | some value =>
            rw [Option.map_some, Option.toList_some, List.lookup_cons,
              beq_eq_false_iff_ne.mpr other]
            exact Option.or_none

end Choice

namespace Intake

variable {names : List OptionName}

theorem long?_spelling {option : OptionName} {value : SystemText}
    (legible : Choice.Legible names ⟨option, some value⟩) (intake : Intake) :
    intake.long? names ((option.long : SystemText).units ++
        if option.takesValue then .char '=' :: value.units else []) =
      intake.give? option.long value := by
  have kept : ∀ unit ∈ (SystemText.ofString option.long).units, (unit != .char '=') = true := by
    intro unit member
    rcases List.mem_map.mp member with ⟨character, inside, rfl⟩
    have plain := List.all_eq_true.mp legible.plain character inside
    simpa using plain
  have found := legible.found
  have named := SystemText.toString?_ofString option.long
  rw [long?, List.takeWhile_append_of_pos kept, List.dropWhile_append_of_pos kept]
  cases takes : option.takesValue with
  | true => simp [found, takes, named]
  | false => simp [found, takes, named, legible.empty takes value rfl]

theorem argument?_spelling {option : OptionName} {value : SystemText}
    (legible : Choice.Legible names ⟨option, some value⟩) (options : List (String × SystemText))
    (positional : List SystemText) :
    argument? names ⟨options, positional, none, false⟩ (Choice.spelling option value) =
      give? ⟨options, positional, none, false⟩ option.long value := by
  rcases List.exists_cons_of_ne_nil (List.isEmpty_eq_false_iff.mp legible.named) with
    ⟨letter, letters, named⟩
  rw [← long?_spelling legible, argument?, Choice.spelling, SystemText.ofString,
    show option.long.toList = _ from named]
  rfl

/-- Choices of different options are noted one after another. -/
theorem foldlM_spell {choices : List Choice} (legible : ∀ choice ∈ choices, choice.Legible names)
    (different : (choices.map (·.option.long)).Nodup) {options : List (String × SystemText)}
    (fresh : ∀ choice ∈ choices, options.lookup choice.option.long = none)
    (positional : List SystemText) :
    (Choice.spell choices).foldlM (argument? names) ⟨options, positional, none, false⟩ =
      some ⟨Choice.noted choices ++ options, positional, none, false⟩ := by
  induction choices generalizing options with
  | nil => rfl
  | cons choice rest inductionHypothesis =>
      rcases choice with ⟨option, value?⟩
      rcases List.forall_mem_cons.mp legible with ⟨legible, laterLegible⟩
      rcases List.forall_mem_cons.mp fresh with ⟨fresh, laterFresh⟩
      rcases List.nodup_cons.mp different with ⟨first, laterDifferent⟩
      rw [Choice.noted_cons]
      cases value? with
      | none =>
          rw [Option.map_none, Option.toList_none, List.append_nil]
          exact inductionHypothesis laterLegible laterDifferent laterFresh
      | some value =>
          have given : give? ⟨options, positional, none, false⟩ option.long value =
              some ⟨(option.long, value) :: options, positional, none, false⟩ := by
            rw [give?, fresh]
            rfl
          have stillFresh : ∀ later ∈ rest,
              ((option.long, value) :: options).lookup later.option.long = none := by
            intro later member
            have other : later.option.long ≠ option.long := fun same =>
              first (List.mem_map.mpr ⟨later, member, same⟩)
            rw [List.lookup_cons, beq_eq_false_iff_ne.mpr other]
            exact laterFresh later member
          have spelled : Choice.spell (⟨option, some value⟩ :: rest) =
              Choice.spelling option value :: Choice.spell rest := rfl
          rw [spelled, List.foldlM_cons, argument?_spelling legible, given]
          refine (inductionHypothesis laterLegible laterDifferent stillFresh).trans ?_
          rw [Option.map_some, Option.toList_some, List.append_assoc, List.singleton_append]

theorem foldlM_literally (options : List (String × SystemText))
    (before positional : List SystemText) :
    positional.foldlM (argument? names) ⟨options, before, none, true⟩ =
      some ⟨options, before ++ positional, none, true⟩ := by
  induction positional generalizing before with
  | nil =>
      rw [List.append_nil]
      rfl
  | cons argument rest inductionHypothesis =>
      rw [List.foldlM_cons]
      refine (inductionHypothesis (before ++ [argument])).trans ?_
      rw [List.append_assoc, List.singleton_append]

end Intake

/-- Choices of different options, with arguments behind two lone dashes, are read as what
they are. -/
theorem given?_spell {names : List OptionName} {choices : List Choice}
    (legible : ∀ choice ∈ choices, choice.Legible names)
    (different : (choices.map (·.option.long)).Nodup) (positional : List SystemText) :
    ∃ given : Given,
      given? names (Choice.spell choices ++ ("--" : SystemText) :: positional) = some given ∧
      given.positional = positional ∧
      ∀ choice ∈ choices, given.value? choice.option.long = choice.value? := by
  refine ⟨⟨Choice.noted choices, positional⟩, ?_, rfl,
    fun choice member => Choice.lookup_noted different member⟩
  have fresh : ∀ choice ∈ choices,
      ([] : List (String × SystemText)).lookup choice.option.long = none := fun _ _ => rfl
  have noted := Intake.foldlM_spell legible different fresh []
  have marked : ∀ options, Intake.argument? names ⟨options, [], none, false⟩ ("--" : SystemText) =
      some ⟨options, [], none, true⟩ := fun _ => rfl
  rw [given?, List.foldlM_append, Intake.start, noted, List.append_nil]
  simp only [Option.bind_eq_bind, Option.bind_some, List.foldlM_cons, marked,
    Intake.foldlM_literally, List.nil_append]
  rfl

/-! ## The command that validates -/

theorem path?_eq_some_iff {path found : SystemText} :
    path? path = some found ↔ path.isEmpty = false ∧ path = found := by
  rw [path?]
  cases path.isEmpty with
  | true => simp
  | false => simp

theorem mapM_path?_eq_some_iff {paths found : List SystemText} :
    paths.mapM path? = some found ↔ (∀ path ∈ paths, path.isEmpty = false) ∧ paths = found := by
  induction paths generalizing found with
  | nil =>
      constructor
      · intro same
        exact ⟨List.forall_mem_nil _, Option.some.inj same⟩
      · rintro ⟨_, rfl⟩
        rfl
  | cons path rest inductionHypothesis =>
      simp only [List.mapM_cons, Option.bind_eq_bind, Option.bind_eq_some_iff, path?_eq_some_iff,
        inductionHypothesis]
      constructor
      · rintro ⟨_, ⟨named, rfl⟩, _, ⟨allNamed, rfl⟩, same⟩
        exact ⟨List.forall_mem_cons.mpr ⟨named, allNamed⟩, Option.some.inj same⟩
      · rintro ⟨allNamed, rfl⟩
        rcases List.forall_mem_cons.mp allNamed with ⟨named, allNamed⟩
        exact ⟨path, ⟨named, rfl⟩, rest, ⟨allNamed, rfl⟩, rfl⟩

/-- Arguments ask to validate if they name a schema, inputs and a format, and the options
tell the rest. -/
theorem validate?_eq_some_iff {arguments : List SystemText} {command : Command} :
    validate? arguments = some command ↔
      ∃ given schema formatName format context, given? validateOptions arguments = some given ∧
        given.value? "schema" = some schema ∧ schema.isEmpty = false ∧
        (∀ input ∈ given.positional, input.isEmpty = false) ∧ given.positional ≠ [] ∧
        given.text? "format" = some formatName ∧ format? (formatName.getD "text") = some format ∧
        given.text? "context" = some context ∧
        command = .validate schema given.positional
          { time := if given.has "interpret" then .never else .firstUse
            mode := if given.has "all-union-failures" then .all else .synthesized }
          { path := context.getD "", earlyFail := given.has "early-fail" } format := by
  simp only [validate?, Option.bind_eq_bind, Option.bind_eq_some_iff, path?_eq_some_iff,
    mapM_path?_eq_some_iff, Option.ite_none_left_eq_some, List.isEmpty_iff, Option.some.injEq]
  constructor
  · rintro ⟨given, read, schema, found, _, ⟨named, rfl⟩, _, ⟨allNamed, rfl⟩, formatName, spoken,
      format, formatted, context, placed, present, rfl⟩
    exact ⟨given, schema, formatName, format, context, read, found, named, allNamed, present, spoken,
      formatted, placed, rfl⟩
  · rintro ⟨given, schema, formatName, format, context, read, found, named, allNamed, present, spoken,
      formatted, placed, rfl⟩
    exact ⟨given, read, schema, found, schema, ⟨named, rfl⟩, _, ⟨allNamed, rfl⟩, formatName,
      spoken, format, formatted, context, placed, present, rfl⟩

theorem Given.text?_of_value? {given : Given} {name : String} {text : Option String}
    (told : given.value? name = text.map SystemText.ofString) : given.text? name = some text := by
  rw [text?, told]
  cases text with
  | none => rfl
  | some text => exact congrArg (Option.map some) (SystemText.toString?_ofString text)

/-- What the command that validates is asked for besides its files. -/
structure Presentation where
  interpret : Bool
  earlyFail : Bool
  allUnionFailures : Bool
  context : Option String
  format : Option ReportFormat

namespace Presentation

variable (presentation : Presentation)

/-- The options of the validator. -/
def options : ValidatorOptions where
  time := if presentation.interpret then .never else .firstUse
  mode := if presentation.allUnionFailures then .all else .synthesized

/-- The options of each check. -/
def check : CheckOptions := ⟨presentation.context.getD "", presentation.earlyFail⟩

/-- The format of the reports. -/
def reportFormat : ReportFormat := presentation.format.getD .text

/-- The command that validates inputs and presents the reports. -/
def command (schema : SystemText) (inputs : List SystemText) : Command :=
  .validate schema inputs presentation.options presentation.check presentation.reportFormat

/-- A flag, given or not. -/
def flag (name : String) (isGiven : Bool) : Choice :=
  ⟨⟨name, none, false⟩, if isGiven then some ("" : SystemText) else none⟩

/-- How a format is named. -/
def formatName : ReportFormat → String
  | .text => "text"
  | .json => "json"

/-- The choices among the options of the command. -/
def choices (schema : SystemText) : List Choice :=
  [⟨schemaOption, some schema⟩, flag "interpret" presentation.interpret,
    flag "early-fail" presentation.earlyFail,
    flag "all-union-failures" presentation.allUnionFailures,
    ⟨⟨"context", none, true⟩, presentation.context.map .ofString⟩,
    ⟨⟨"format", some 'f', true⟩, (presentation.format.map formatName).map .ofString⟩]

/-- Arguments that ask for the command. -/
def arguments (schema : SystemText) (inputs : List SystemText) : List SystemText :=
  ("validate" : SystemText) ::
    (Choice.spell (presentation.choices schema) ++ ("--" : SystemText) :: inputs)

theorem flag_legible {name : String} (isGiven : Bool)
    (found : (validateOptions.find? fun other => other.long == name) = some ⟨name, none, false⟩)
    (named : name.toList.isEmpty = false) (plain : name.toList.all (· != '=') = true) :
    (flag name isGiven).Legible validateOptions where
  found := found
  named := named
  plain := plain
  empty := by
    intro _ value member
    cases isGiven with
    | false => cases member
    | true => exact (Option.some.inj member).symm

/-- Every choice is found among the options of the command, as what it is here. -/
theorem choices_legible (schema : SystemText) :
    ∀ choice ∈ presentation.choices schema, choice.Legible validateOptions := by
  have valued {option : OptionName} (value? : Option SystemText)
      (found : (validateOptions.find? fun other => other.long == option.long) = some option)
      (named : option.long.toList.isEmpty = false)
      (plain : option.long.toList.all (· != '=') = true)
      (takes : option.takesValue = true) : Choice.Legible validateOptions ⟨option, value?⟩ :=
    ⟨found, named, plain, fun refuses => nomatch takes.symm.trans refuses⟩
  rw [choices]
  simp only [List.forall_mem_cons]
  refine ⟨valued _ rfl rfl rfl rfl, flag_legible _ rfl rfl rfl,
    flag_legible _ rfl rfl rfl, flag_legible _ rfl rfl rfl,
    valued _ rfl rfl rfl rfl, valued _ rfl rfl rfl rfl,
    fun _ member => nomatch member⟩

theorem choices_different (schema : SystemText) :
    ((presentation.choices schema).map (·.option.long)).Nodup := by
  simp only [choices, flag, schemaOption, List.map_cons, List.map_nil]
  decide

theorem format?_formatName (format : ReportFormat) : format? (formatName format) = some format := by
  cases format <;> rfl

/-- Every presentation of the reports on any inputs can be asked for. -/
theorem arguments_ask {schema : SystemText} {inputs : List SystemText}
    (named : schema.isEmpty = false) (present : inputs ≠ [])
    (allNamed : ∀ input ∈ inputs, input.isEmpty = false) :
    Command.ofArguments? (presentation.arguments schema inputs) =
      some (presentation.command schema inputs) := by
  have read : Command.ofArguments? (presentation.arguments schema inputs) =
      validate? (Choice.spell (presentation.choices schema) ++ ("--" : SystemText) :: inputs) := rfl
  rcases given?_spell (presentation.choices_legible schema) (presentation.choices_different schema)
    inputs with ⟨given, found, positional, values⟩
  simp only [choices, List.forall_mem_cons, flag, schemaOption] at values
  rcases values with ⟨schemaGiven, interprets, fails, speaks, context, format, -⟩
  have formatted : format? ((presentation.format.map formatName).getD "text") =
      some presentation.reportFormat := by
    rw [reportFormat]
    cases presentation.format with
    | none => rfl
    | some format => exact format?_formatName format
  rw [read, validate?_eq_some_iff]
  refine ⟨given, schema, presentation.format.map formatName, presentation.reportFormat,
    presentation.context, found, schemaGiven, named, positional ▸ allNamed, positional ▸ present,
    Given.text?_of_value? format, formatted, Given.text?_of_value? context, ?_⟩
  rw [command, options, check, Given.has, Given.has, Given.has, positional, interprets, fails,
    speaks]
  cases presentation.interpret <;> cases presentation.earlyFail <;>
    cases presentation.allUnionFailures <;> rfl

end Presentation

end CommandLine
end Conformance
