import Conformance.CommandLine.Directory
import Conformance.Proofs.CommandLine.Arguments
import Conformance.Proofs.Listing
import Conformance.Proofs.Report

namespace Conformance
namespace CommandLine

/-!
# The command that validates

The command that validates can be asked to interpret the schema, to fail early, to let
unions speak for all alternatives, to put a context in front of every path and to print
in one of two formats.  All of this is presentation.  The status and the error depend on
what can be loaded and on which inputs are accepted, and neither of these depends on how
the inputs are gone about, so arguments that name the same files get the same verdict.
What is printed does not even tell whether the schema was interpreted.

There is one thing that presentation does decide.  Data names an input by a text, and so
reports on an input whose path is none can be printed as text only.
-/

/-! ## What is said of reports -/

section

variable {format : ReportFormat} {reports : List Report}

/-- The error of printed reports tells how many of them have failures, if any have. -/
theorem validated_of_print {output : String} (printed : format.print reports = .ok output) :
    validated format reports =
      { status := if reports.countP (!·.isValid) = 0 then 0 else 1
        output := output
        error :=
          if reports.countP (!·.isValid) = 0 then none
          else some (toString (reports.countP (!·.isValid)) ++ " of " ++
            toString reports.length ++ " inputs failed validation") } := by
  rw [validated, printed]
  simp only [← List.countP_eq_length_filter]
  split <;> rfl

theorem validated_of_print_error {error : String} (fails : format.print reports = .error error) :
    validated format reports = .failure "" error := by
  rw [validated, fails]

theorem validated_status_eq_zero_iff {output : String}
    (printed : format.print reports = .ok output) :
    (validated format reports).status = 0 ↔ ∀ report ∈ reports, report.isValid = true := by
  rw [validated_of_print printed, ite_eq_left_iff]
  simp only [Nat.one_ne_zero, imp_false, not_not, List.countP_eq_zero, Bool.not_eq_true',
    Bool.not_eq_false]

/-- Printed reports with the same verdicts have the same status and the same error, in
whichever format they are printed. -/
theorem validated_verdict {others : List Report}
    (same : reports.map Report.isValid = others.map Report.isValid) {other : ReportFormat}
    {output second : String} (printed : format.print reports = .ok output)
    (otherPrinted : other.print others = .ok second) :
    (validated format reports).status = (validated other others).status ∧
    (validated format reports).error = (validated other others).error := by
  have lengths : reports.length = others.length := by
    simpa only [List.length_map] using congrArg List.length same
  have rejected : reports.countP (!·.isValid) = others.countP (!·.isValid) := by
    simpa only [List.countP_map, Function.comp_def] using congrArg (List.countP (!·)) same
  rw [validated_of_print printed, validated_of_print otherPrinted, rejected, lengths]
  exact ⟨rfl, rfl⟩

end

/-! ## What the command answers -/

/-- Access to fixed contents, among which nothing can be written. -/
def FileAccess.fixed (contents : ReadFile Id) : FileAccess Id := ⟨contents, fun _ _ => pure false⟩

/-- The command that validates reads files and does not change any. -/
theorem observes_runValidate {System : Type} {files : FileAccess (StateM System)} {system : System}
    {contents : ReadFile Id} (shown : files.read.Shows system contents) (schema : SystemText)
    (inputs : List SystemText) (options : ValidatorOptions) (check : CheckOptions)
    (format : ReportFormat) :
    Observes system (runValidate files schema inputs options check format)
      (runValidate (.fixed contents) schema inputs options check format) := by
  refine (shown.loadSchema schema).bind fun loaded => ?_
  cases loaded with
  | error error => exact .pure _
  | ok built =>
      refine (shown.checkFiles check _ inputs).bind fun checked => ?_
      cases checked with
      | error error => exact .pure _
      | ok reports => exact .pure _

section

variable {contents : ReadFile Id} {schema : SystemText} {inputs : List SystemText}

theorem runValidate_of_unloadableSchema {error : LoadError}
    (fails : (loadSchema contents schema).run = .error error) (options : ValidatorOptions)
    (check : CheckOptions) (format : ReportFormat) :
    (runValidate (.fixed contents) schema inputs options check format).run =
      .failure "" error.message := by
  rw [runValidate, Id.run_bind, FileAccess.fixed, fails]
  rfl

variable {built : Schema} (loaded : (loadSchema contents schema).run = .ok built)
include loaded

theorem runValidate_of_schema (options : ValidatorOptions) (check : CheckOptions)
    (format : ReportFormat) :
    (runValidate (.fixed contents) schema inputs options check format).run =
      match (Report.checkFiles contents check (.new built options) inputs).run with
      | .error error => .failure "" error.message
      | .ok reports => validated format reports := by
  rw [runValidate, Id.run_bind, FileAccess.fixed, loaded]
  dsimp only
  rw [Id.run_bind]
  cases (Report.checkFiles contents check (.new built options) inputs).run <;> rfl

theorem runValidate_of_firstUnloadable {path : SystemText} {error : LoadError}
    (found : FirstUnloadable contents inputs path error) (options : ValidatorOptions)
    (check : CheckOptions) (format : ReportFormat) :
    (runValidate (.fixed contents) schema inputs options check format).run =
      .failure "" error.message := by
  rw [runValidate_of_schema loaded, Report.checkFiles_of_firstUnloadable found]

/-- If everything can be loaded, then all inputs are reported on. -/
theorem runValidate_of_loads
    (loads : ∀ path ∈ inputs, ∃ value, LoadsAs contents path value ∧ value.Moderate)
    (options : ValidatorOptions) (check : CheckOptions) (format : ReportFormat) :
    ∃ reports, List.Forall₂ (Report.Describes contents built options.mode check) inputs reports ∧
      (runValidate (.fixed contents) schema inputs options check format).run =
        validated format reports := by
  rcases Report.checkFiles_of_loads (Validator.new_prepare built options) check loads with
    ⟨reports, checked, described⟩
  refine ⟨reports, described, ?_⟩
  rw [runValidate_of_schema loaded, checked]

end

/-- Everything can be loaded, and the reports are to be data, which cannot name one of the
inputs. -/
structure Unprintable (contents : ReadFile Id) (schema : SystemText) (inputs : List SystemText)
    (format : ReportFormat) : Prop where
  asData : format = .json
  builds : ∃ built, (loadSchema contents schema).run = .ok built
  loads : ∀ path ∈ inputs, ∃ value, LoadsAs contents path value
  nameless : ∃ path ∈ inputs, path.toString? = none

section

variable {contents : ReadFile Id} {schema : SystemText} {built : Schema} {mode : UnionMode}
  {check : CheckOptions} {inputs : List SystemText} {reports : List Report}
  {format : ReportFormat}

theorem print_of_unprintable
    (described : List.Forall₂ (Report.Describes contents built mode check) inputs reports)
    (unprintable : Unprintable contents schema inputs format) :
    format.print reports = .error notText := by
  have nameless := (Report.exists_input_iff_of_describes described (·.toString? = none)).mpr
    unprintable.nameless
  exact ReportFormat.print_eq_error_iff.mpr ⟨rfl, unprintable.asData, nameless⟩

theorem exists_print_of_printable (loaded : (loadSchema contents schema).run = .ok built)
    (loads : ∀ path ∈ inputs, ∃ value, LoadsAs contents path value)
    (described : List.Forall₂ (Report.Describes contents built mode check) inputs reports)
    (printable : ¬Unprintable contents schema inputs format) :
    ∃ output, format.print reports = .ok output := by
  cases printed : format.print reports with
  | ok output => exact ⟨output, rfl⟩
  | error error =>
      rcases ReportFormat.print_eq_error_iff.mp printed with ⟨_, asData, nameless⟩
      have amongInputs := (Report.exists_input_iff_of_describes described (·.toString? = none)).mp
        nameless
      exact absurd ⟨asData, ⟨built, loaded⟩, loads, amongInputs⟩ printable

end

section

variable {contents : ReadFile Id} {inputs : List SystemText}
  (moderate : ∀ path ∈ inputs, ∀ value, LoadsAs contents path value → value.Moderate)
include moderate

theorem loads_moderate (loads : ∀ path ∈ inputs, ∃ value, LoadsAs contents path value) :
    ∀ path ∈ inputs, ∃ value, LoadsAs contents path value ∧ value.Moderate := by
  intro path member
  rcases loads path member with ⟨value, loaded⟩
  exact ⟨value, loaded, moderate path member value loaded⟩

theorem runValidate_of_unprintable {schema : SystemText} {format : ReportFormat}
    (unprintable : Unprintable contents schema inputs format) (options : ValidatorOptions)
    (check : CheckOptions) :
    (runValidate (.fixed contents) schema inputs options check format).run =
      .failure "" notText := by
  rcases unprintable.builds with ⟨built, loaded⟩
  rcases runValidate_of_loads loaded (loads_moderate moderate unprintable.loads) options check format
    with ⟨reports, described, answered⟩
  rw [answered, validated_of_print_error (print_of_unprintable described unprintable)]

/-- Two runs over the same files have the same outcome if they differ in nothing but the
time at which a program is assembled, and the same status and the same error whenever
what they find can be printed. -/
theorem runValidate_agree (schema : SystemText) (options others : ValidatorOptions)
    (check otherCheck : CheckOptions) (format other : ReportFormat) :
    let first := (runValidate (.fixed contents) schema inputs options check format).run
    let second := (runValidate (.fixed contents) schema inputs others otherCheck other).run
    (options.mode = others.mode → check = otherCheck → format = other → first = second) ∧
    (¬Unprintable contents schema inputs format → ¬Unprintable contents schema inputs other →
      first.status = second.status ∧ first.error = second.error) := by
  intro first second
  have agree_of_eq (same : first = second) :
      (options.mode = others.mode → check = otherCheck → format = other → first = second) ∧
      (¬Unprintable contents schema inputs format → ¬Unprintable contents schema inputs other →
        first.status = second.status ∧ first.error = second.error) :=
    ⟨fun _ _ _ => same, fun _ _ => ⟨congrArg _ same, congrArg _ same⟩⟩
  cases loaded : (loadSchema contents schema).run with
  | error error =>
      exact agree_of_eq ((runValidate_of_unloadableSchema loaded options check format).trans
        (runValidate_of_unloadableSchema loaded others otherCheck other).symm)
  | ok built =>
      rcases loads_or_firstUnloadable contents inputs with loads | ⟨path, error, found⟩
      · have bothLoad := loads_moderate moderate loads
        rcases runValidate_of_loads loaded bothLoad options check format with
          ⟨reports, described, answered⟩
        rcases runValidate_of_loads loaded bothLoad others otherCheck other with
          ⟨again, describedAgain, answeredAgain⟩
        -- The reports need not be the same, as unions may speak for more alternatives in
        -- one run than in the other, but their verdicts are.
        constructor
        · rintro sameMode rfl rfl
          rw [← sameMode] at describedAgain
          have same := (Report.describes_rightUnique contents built options.mode check).forall₂
            described describedAgain
          rw [show first = _ from answered, show second = _ from answeredAgain, same]
        · intro printable otherPrintable
          rcases exists_print_of_printable loaded loads described printable with ⟨_, printed⟩
          rcases exists_print_of_printable loaded loads describedAgain otherPrintable with
            ⟨_, otherPrinted⟩
          have verdicts := Report.map_isValid_eq_of_describes described describedAgain
          rw [show first = _ from answered, show second = _ from answeredAgain]
          exact validated_verdict verdicts printed otherPrinted
      · exact agree_of_eq ((runValidate_of_firstUnloadable loaded found options check format).trans
          (runValidate_of_firstUnloadable loaded found others otherCheck other).symm)

/-- If what is found can be printed, then the status is good exactly if everything can be
loaded and all inputs are accepted. -/
theorem runValidate_status_eq_zero_iff {schema : SystemText} {format : ReportFormat}
    (printable : ¬Unprintable contents schema inputs format) (options : ValidatorOptions)
    (check : CheckOptions) (mode : UnionMode) (other : CheckOptions) :
    (runValidate (.fixed contents) schema inputs options check format).run.status = 0 ↔
      ∃ built, (loadSchema contents schema).run = .ok built ∧
        ∀ path ∈ inputs, ∃ value, LoadsAs contents path value ∧
          built.interpret mode other (some value) = [] := by
  cases loaded : (loadSchema contents schema).run with
  | error error =>
      rw [runValidate_of_unloadableSchema loaded options check format]
      exact iff_of_false Nat.one_ne_zero fun ⟨_, impossible, _⟩ => nomatch impossible
  | ok built =>
      simp only [Except.ok.injEq, exists_eq_left']
      rcases loads_or_firstUnloadable contents inputs with loads | ⟨path, error, found⟩
      · rcases runValidate_of_loads loaded (loads_moderate moderate loads) options check format with
          ⟨reports, described, answered⟩
        rcases exists_print_of_printable loaded loads described printable with ⟨_, printed⟩
        rw [answered, validated_status_eq_zero_iff printed]
        exact Report.forall_isValid_iff described mode other
      · rw [runValidate_of_firstUnloadable loaded found options check format]
        refine iff_of_false Nat.one_ne_zero fun accepted => ?_
        rcases found.mem_and_fails with ⟨member, fails⟩
        rcases accepted path member with ⟨value, loads, _⟩
        exact nomatch fails.symm.trans loads

end

/-! ## Presentations -/

/-- Whatever arguments ask for one schema and the same inputs, the outcome is the same if
all that differs is whether the schema is interpreted, and the status and the error are
the same as long as what is found can be printed.  It cannot be if it is to be data and
the path of an input is no text: then nothing but that is said.  Otherwise the status is
good exactly if the schema and all inputs can be loaded and the interpreter accepts every
input.  The first input that cannot be loaded leaves nothing but an error that names it,
and if there is none, what is printed lists every input in its turn, and the error counts
those that are rejected. -/
theorem presentation_never_decides {System : Type} {files : FileAccess (StateM System)}
    {system : System} {contents : ReadFile Id} (shown : files.read.Shows system contents)
    {schema : SystemText} {inputs : List SystemText} (named : schema.isEmpty = false)
    (present : inputs ≠ []) (allNamed : ∀ input ∈ inputs, input.isEmpty = false)
    (moderate : ∀ path ∈ inputs, ∀ value, LoadsAs contents path value → value.Moderate) :
    (∀ presentation : Presentation, Command.ofArguments? (presentation.arguments schema inputs) =
      some (presentation.command schema inputs)) ∧
    ∀ arguments (presentation : Presentation),
      Command.ofArguments? arguments = some (presentation.command schema inputs) →
      let outcome := ((run files arguments).run system).1
      (∀ others (other : Presentation),
        Command.ofArguments? others = some (other.command schema inputs) →
        let second := ((run files others).run system).1
        (other = { presentation with interpret := other.interpret } → second = outcome) ∧
        (¬Unprintable contents schema inputs other.reportFormat →
          ¬Unprintable contents schema inputs presentation.reportFormat →
          second.status = outcome.status ∧ second.error = outcome.error)) ∧
      (Unprintable contents schema inputs presentation.reportFormat →
        outcome = .failure "" notText) ∧
      (¬Unprintable contents schema inputs presentation.reportFormat →
        ∀ mode check, outcome.status = 0 ↔
          ∃ built, (loadSchema contents schema).run = .ok built ∧
            ∀ path ∈ inputs, ∃ value, LoadsAs contents path value ∧
              built.interpret mode check (some value) = []) ∧
      (∀ error, (loadSchema contents schema).run = .error error →
        outcome = .failure "" error.message) ∧
      ∀ built, (loadSchema contents schema).run = .ok built →
        (∀ path error, FirstUnloadable contents inputs path error →
          outcome = .failure "" error.message ∧
          ∃ complaint, error.message = complaint ++ path.display) ∧
        ((∀ path ∈ inputs, ∃ value, LoadsAs contents path value) →
          ¬Unprintable contents schema inputs presentation.reportFormat →
          ∃ reports,
            List.Forall₂ (Report.Describes contents built presentation.options.mode
              presentation.check) inputs reports ∧
            presentation.reportFormat.Lists reports outcome.output ∧
            outcome.error =
              if reports.countP (!·.isValid) = 0 then none
              else some (toString (reports.countP (!·.isValid)) ++ " of " ++
                toString inputs.length ++ " inputs failed validation")) := by
  refine ⟨fun presentation => presentation.arguments_ask named present allNamed,
    fun arguments presentation asked => ?_⟩
  intro outcome
  have answer {others : List SystemText} {other : Presentation}
      (asked : Command.ofArguments? others = some (other.command schema inputs)) :
      ((run files others).run system).1 = (runValidate (.fixed contents) schema inputs
        other.options other.check other.reportFormat).run := by
    rw [run, asked]
    exact congrArg Prod.fst (observes_runValidate shown schema inputs _ _ _)
  rw [show outcome = _ from answer asked]
  refine ⟨?agrees, ?unprintable, ?succeeds, ?unloadableSchema,
    fun built loaded => ⟨?unloadableInput, ?reported⟩⟩
  case agrees =>
    intro others other otherAsked second
    rw [show second = _ from answer otherAsked]
    rcases runValidate_agree moderate schema other.options presentation.options other.check
      presentation.check other.reportFormat presentation.reportFormat with ⟨whole, verdict⟩
    refine ⟨fun same => ?_, verdict⟩
    rw [same] at whole ⊢
    exact whole rfl rfl rfl
  case unprintable =>
    intro unprintable
    exact runValidate_of_unprintable moderate unprintable _ _
  case succeeds =>
    intro printable
    exact runValidate_status_eq_zero_iff moderate printable _ _
  case unloadableSchema =>
    intro error fails
    exact runValidate_of_unloadableSchema fails _ _ _
  case unloadableInput =>
    intro path error found
    exact ⟨runValidate_of_firstUnloadable loaded found _ _ _,
      loadValue_error_message found.mem_and_fails.2⟩
  case reported =>
    intro loads printable
    rcases runValidate_of_loads loaded (loads_moderate moderate loads) presentation.options
      presentation.check presentation.reportFormat with ⟨reports, described, answered⟩
    rcases exists_print_of_printable loaded loads described printable with ⟨output, printed⟩
    rw [answered, validated_of_print printed, described.length_eq]
    exact ⟨reports, described, ReportFormat.lists_of_print printed, rfl⟩

/-- Reading a directory in memory leaves it as it is. -/
theorem Directory.access_shows (directory : Directory) :
    access.read.Shows directory directory.read? := fun _ => rfl

/-- A schema of truth values, with an input that it accepts and one that it rejects. -/
def Directory.truthValues : Directory :=
  ⟨[("schema.json", "\x7b\"kind\":\"boolean\"\x7d"), ("first.json", "true"),
    ("second.json", "null")]⟩

/-- One of two inputs is rejected, also with everything that can be asked for. -/
theorem presentation_truthValues :
    let plain : Presentation := ⟨false, false, false, none, none⟩
    let adorned : Presentation := ⟨true, true, true, some "run", some .json⟩
    let schema : SystemText := "schema.json"
    let inputs : List SystemText := ["first.json", "second.json"]
    let contents : ReadFile Id := Directory.truthValues.read?
    Directory.access.read.Shows .truthValues contents ∧ schema.isEmpty = false ∧ inputs ≠ [] ∧
    (∀ input ∈ inputs, input.isEmpty = false) ∧
    (∀ path ∈ inputs, ∀ value, LoadsAs contents path value → value.Moderate) ∧
    ¬Unprintable contents schema inputs adorned.reportFormat ∧
    let first := ((run Directory.access (plain.arguments schema inputs)).run .truthValues).1
    let second := ((run Directory.access (adorned.arguments schema inputs)).run .truthValues).1
    first.status = 1 ∧ second.status = first.status ∧ second.error = first.error := by
  intro plain adorned schema inputs contents
  have shown := Directory.truthValues.access_shows
  have named : schema.isEmpty = false := rfl
  have present : inputs ≠ [] := List.cons_ne_nil _ _
  have allNamed : ∀ input ∈ inputs, input.isEmpty = false := by decide
  have moderate : ∀ path ∈ inputs, ∀ value, LoadsAs contents path value → value.Moderate := by
    have first : LoadsAs contents ("first.json" : SystemText) (.boolean true) := rfl
    have second : LoadsAs contents ("second.json" : SystemText) .null := rfl
    refine List.forall_mem_cons.mpr ⟨fun value loads => ?_, List.forall_mem_singleton.mpr
      fun value loads => ?_⟩
    · cases first.symm.trans loads
      exact .boolean true
    · cases second.symm.trans loads
      exact .null
  have printable (format : ReportFormat) : ¬Unprintable contents schema inputs format := by
    intro unprintable
    rcases unprintable.nameless with ⟨path, member, nameless⟩
    have texts : ∀ path ∈ inputs, path.toString? ≠ none := by decide
    exact texts path member nameless
  rcases presentation_never_decides shown named present allNamed moderate with ⟨asks, answers⟩
  rcases (answers _ plain (asks plain)).1 _ adorned (asks adorned) with ⟨_, agrees⟩
  rcases agrees (printable _) (printable _) with ⟨status, error⟩
  exact ⟨shown, named, present, allNamed, moderate, printable _, by decide +kernel, status, error⟩

/-- A schema of truth values, with an input that it accepts on a path that is no text. -/
def namelessTruth : ReadFile Id := fun path =>
  if path = ("schema.json" : SystemText) then some "\x7b\"kind\":\"boolean\"\x7d"
  else if path = ⟨[.stray [0xFF]]⟩ then some "true"
  else none

/-- Without any input the arguments make no sense, although the schema can be loaded.  An
accepted input on a path that is no text makes a good status as text and a bad one as
data. -/
theorem missing_and_nameless_inputs_decide :
    let asText : Presentation := ⟨false, false, false, none, some .text⟩
    let asData : Presentation := ⟨false, false, false, none, some .json⟩
    let schema : SystemText := "schema.json"
    let nameless : SystemText := ⟨[.stray [0xFF]]⟩
    (∃ built, (loadSchema namelessTruth schema).run = .ok built ∧
      built.interpret .all {} (some (.boolean true)) = []) ∧
    LoadsAs namelessTruth nameless (.boolean true) ∧
    (run (.fixed namelessTruth) (asText.arguments schema [])).run = .usage ∧
    (run (.fixed namelessTruth) (asText.arguments schema [nameless])).run =
      .success "\uFFFD: ok\n" ∧
    (run (.fixed namelessTruth) (asData.arguments schema [nameless])).run =
      .failure "" "path contains invalid UTF-8 characters" := by
  intro asText asData schema nameless
  have accepts : ((loadSchema namelessTruth schema).run.toOption.any fun built =>
      (built.interpret .all {} (some (.boolean true))).isEmpty) = true := by
    decide +kernel
  refine ⟨?_, ?_, by decide +kernel, by decide +kernel, by decide +kernel⟩
  · cases loaded : (loadSchema namelessTruth schema).run with
    | error error =>
        rw [loaded] at accepts
        cases accepts
    | ok built =>
        rw [loaded] at accepts
        exact ⟨built, rfl, List.isEmpty_iff.mp accepts⟩
  · rfl

end CommandLine
end Conformance
