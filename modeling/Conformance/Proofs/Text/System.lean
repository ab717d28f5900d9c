import Conformance.Text.System
import Mathlib.Data.Option.Basic

namespace Conformance
namespace SystemText

/-!
# What the system hands over as text

A text is handed over as its characters, and what is read as a text is that text.
-/

theorem mapM_character?_eq_some_iff {units : List SystemUnit} {characters : List Char} :
    units.mapM SystemUnit.character? = some characters ↔ units = characters.map .char := by
  induction units generalizing characters with
  | nil => cases characters <;> simp
  | cons unit rest inductionHypothesis =>
      simp only [List.mapM_cons, Option.bind_eq_bind, Option.bind_eq_some_iff, inductionHypothesis]
      constructor
      · rintro ⟨c, read, others, rfl, same⟩
        cases unit with
        | stray bytes => cases read
        | char found =>
            cases read
            cases same
            rfl
      · intro same
        cases characters with
        | nil => cases same
        | cons c others =>
            cases same
            exact ⟨c, rfl, others, rfl, rfl⟩

theorem toString?_eq_some_iff {path : SystemText} {text : String} :
    path.toString? = some text ↔ path = ofString text := by
  rcases path with ⟨units⟩
  simp only [toString?, Option.map_eq_some_iff, mapM_character?_eq_some_iff, ofString, mk.injEq]
  constructor
  · rintro ⟨characters, rfl, rfl⟩
    rw [String.toList_ofList]
  · rintro rfl
    exact ⟨text.toList, rfl, String.ofList_toList⟩

@[simp]
theorem toString?_ofString (text : String) : (ofString text).toString? = some text :=
  toString?_eq_some_iff.mpr rfl

/-- What is shown of a text is the text. -/
@[simp]
theorem display_ofString (text : String) : (ofString text).display = text := by
  rw [display, ofString, List.map_map]
  exact (congrArg String.ofList (List.map_id text.toList)).trans String.ofList_toList

end SystemText
end Conformance
