import Conformance.Proofs.Json.RoundTrip
import Conformance.Proofs.Text.System
import Conformance.Report
import Mathlib.Data.List.Forall2

namespace Conformance

/-!
# What printed reports list

Printed reports list the files one after another, as text or as data.  As text a file has
a line that tells its path, and below it a line for each of its failures.  As data it has
an entry, which is found again by whoever reads the data.  Text can be printed of all
reports, but data only of those on paths that are texts.
-/

namespace Report

/-- Lines tell of a file that it has no failures, or how many and then each of them. -/
inductive Tells : Report → String → Prop where
  | accepted (input : SystemText) : Tells ⟨input, []⟩ (input.display ++ ": ok\n")
  | rejected (input : SystemText) {failures : List Failure} (found : failures ≠ []) :
      Tells ⟨input, failures⟩
        (input.display ++ ": " ++ toString failures.length ++ " failure(s)\n" ++
          String.join (failures.map fun failure => "  - " ++ failure.display ++ "\n"))

/-- An entry tells of a file its path, which is a text, and its failures. -/
inductive Records : Report → Json.Tree → Prop where
  | intro (name : String) (failures : List Failure) :
      Records ⟨name, failures⟩
        (.map [("input", .text name), ("failures", .list (failures.map failureTree))])

theorem tells_text (report : Report) : report.Tells report.text := by
  rcases report with ⟨input, failures⟩
  rw [text, isValid]
  cases failures with
  | nil => exact .accepted input
  | cons failure rest => exact .rejected input (List.cons_ne_nil failure rest)

theorem records_tree {report : Report} (named : report.input.toString?.isSome = true) :
    report.Records report.tree := by
  rcases report with ⟨input, failures⟩
  rcases Option.isSome_iff_exists.mp named with ⟨name, told⟩
  have isText : input = SystemText.ofString name := SystemText.toString?_eq_some_iff.mp told
  rw [tree, isText, SystemText.display_ofString]
  exact .intro name failures

end Report

namespace ReportFormat

/-- A printed text lists reports in their order.  Data is read as what it lists if its
numbers are. -/
inductive Lists (reports : List Report) : ReportFormat → String → Prop where
  | text {sections : List String} (each : List.Forall₂ Report.Tells reports sections) :
      Lists reports .text (String.join sections)
  | json {entries : List Json.Tree} (each : List.Forall₂ Report.Records reports entries)
      (readsBack : (Json.Tree.list entries).Legible →
        Json.readWithin? (Json.Tree.list entries).depth (Json.pretty (.list entries)) =
          some (.list entries)) :
      Lists reports .json (Json.pretty (.list entries))

variable {format : ReportFormat} {reports : List Report}

theorem lists_render
    (named : format = .json → ∀ report ∈ reports, report.input.toString?.isSome = true) :
    format.Lists reports (format.render reports) := by
  cases format with
  | text =>
      refine .text (List.forall₂_map_right_iff.mpr (List.forall₂_same.mpr fun report _ => ?_))
      exact report.tells_text
  | json =>
      refine .json (List.forall₂_map_right_iff.mpr (List.forall₂_same.mpr fun report member => ?_))
        fun legible => legible.readWithin?_pretty (Nat.le_refl _)
      exact Report.records_tree (named rfl report member)

/-- Reports are printed, unless they are to be data and the path of one is no text. -/
theorem print_eq_error_iff {error : String} :
    format.print reports = .error error ↔
      error = notText ∧ format = .json ∧ ∃ report ∈ reports, report.input.toString? = none := by
  have refuses : (decide (format = .json) && reports.any (·.input.toString?.isNone)) = true ↔
      format = .json ∧ ∃ report ∈ reports, report.input.toString? = none := by
    simp only [Bool.and_eq_true, decide_eq_true_iff, List.any_eq_true, Option.isNone_iff_eq_none]
  rw [print, ← refuses]
  split
  · rename_i refused
    exact ⟨fun same => ⟨(Except.error.inj same).symm, refused⟩, fun same => congrArg _ same.1.symm⟩
  · rename_i allowed
    exact iff_of_false (fun same => nomatch same) fun same => allowed same.2

/-- What is printed lists the reports. -/
theorem lists_of_print {output : String} (printed : format.print reports = .ok output) :
    format.Lists reports output := by
  have rendered : output = format.render reports := by
    rw [print] at printed
    split at printed
    · cases printed
    · exact (Except.ok.inj printed).symm
  rw [rendered]
  refine lists_render fun asData report member => ?_
  rw [← Option.ne_none_iff_isSome]
  intro nameless
  have refused := print_eq_error_iff.mpr ⟨rfl, asData, report, member, nameless⟩
  exact nomatch printed.symm.trans refused

end ReportFormat
end Conformance
