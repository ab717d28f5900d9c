import Conformance.Proofs.Check.Interpretation

namespace Conformance

/-!
# Walks only append

A walk is handed the findings of all that was walked before it.  Inside of a union it cuts their
array, at one mark to drop what the alternatives left and at another to keep the first of it, and
alternatives may halt where the union itself goes on.  None of this shows outside.  The findings
that a walk is handed stay as they are; what comes behind them is what it finds if it is handed
none; and that it halts says no more than that it should and that something came behind them.

The same holds in terms of failures, which tell paths in place of steps.  The path at which a walk
starts acts as the context of a check: what the walk appends is what a check in that context
reports.

All this is a property of visits that follow a judgement.  Of the good form of a schema it uses
that a union has alternatives; one without any would halt although it finds nothing.
-/

namespace Walked

variable (halt : Bool) (found : Array Finding) (findings : List Finding)

theorem after_found :
    (after halt found findings).found = found ++ (after halt #[] findings).found := by
  simp only [after, Array.empty_append]

/-- The findings become more exactly if there is something to find. -/
theorem lt_after_size_iff : found.size < (after halt found findings).found.size ↔ findings ≠ [] := by
  have same := after_size_eq_iff halt found findings
  have grown : found.size ≤ (after halt found findings).found.size := by
    rw [after_found, Array.size_append]
    exact Nat.le_add_right _ _
  rw [Ne, ← same]
  omega

theorem after_halted_iff :
    (after halt found findings).halted = true ↔
      halt = true ∧ found.size < (after halt found findings).found.size := by
  rw [lt_after_size_iff]
  simp [after]

theorem after_size_le : (after true found findings).found.size ≤ found.size + 1 := by
  simp only [after, kept_true, Array.size_append, List.size_toArray]
  exact Nat.add_le_add_left (List.length_take_le 1 findings) found.size

end Walked

/-- What a visit does that only appends, wherever it starts and whatever was found before. -/
structure Visit.OnlyAppends (visit : Visit) : Prop where
  /-- What was found before stays, and what is found does not depend on it. -/
  appends : ∀ value trail halt found,
    (visit value trail halt found).found = found ++ (visit value trail halt #[]).found
  /-- A visit halts exactly if it should and has found something. -/
  halted_iff : ∀ value trail halt found,
    (visit value trail halt found).halted = true ↔
      halt = true ∧ found.size < (visit value trail halt found).found.size
  /-- A visit that should halt finds one thing at most. -/
  at_most_one : ∀ value trail found, (visit value trail true found).found.size ≤ found.size + 1
  /-- The steps to the start of a visit extend the context in which its findings are reported. -/
  placed : ∀ value trail halt context,
    (visit value trail halt #[]).found.toList.map (·.failure context) =
      (visit value [] halt #[]).found.toList.map (·.failure (Segment.render context trail.reverse))

namespace Visit

variable {visit : Visit}

/-- Whatever follows a judgement only appends. -/
theorem Follows.onlyAppends {judgement : Judgement} (follows : visit.Follows judgement) :
    visit.OnlyAppends := by
  refine ⟨?appends, ?halted_iff, ?at_most_one, ?placed⟩
  case appends =>
    intro value trail halt found
    rw [follows, follows value trail halt #[]]
    exact Walked.after_found halt found _
  case halted_iff =>
    intro value trail halt found
    rw [follows]
    exact Walked.after_halted_iff halt found _
  case at_most_one =>
    intro value trail found
    rw [follows]
    exact Walked.after_size_le found _
  case placed =>
    intro value trail halt context
    rw [follows, follows value [] halt #[], Finding.beneath_nil]
    simp only [Walked.after, Array.empty_append, kept_map, List.map_map]
    exact List.map_congr_left fun finding _ => finding.failure_beneath context trail

/-- All failures after a visit, reported in one context. -/
theorem OnlyAppends.failures (appending : visit.OnlyAppends) (value : Option Value)
    (trail : List Segment) (halt : Bool) (found : Array Finding) (context : String) :
    (visit value trail halt found).found.toList.map (·.failure context) =
      found.toList.map (·.failure context) ++
        (visit value [] halt #[]).found.toList.map
          (·.failure (Segment.render context trail.reverse)) := by
  rw [appending.appends, Array.toList_append, List.map_append, appending.placed]

end Visit

/-! ## Failures that were collected before

Below an empty context a key stands alone.  So any path is the path of a single step, and any list
of failures is what some findings are reported as.
-/

theorem Segment.render_key (path : String) : Segment.render "" [.key path] = path := by
  simp [Segment.render, Segment.below]

/-- A failure as a finding, to be reported in an empty context. -/
def Failure.asFinding (failure : Failure) : Finding :=
  ⟨failure.kind, failure.message, failure.value, [.key failure.path]⟩

theorem Failure.asFinding_failure (failure : Failure) : failure.asFinding.failure "" = failure := by
  rw [asFinding, Finding.failure, Segment.render_key]

theorem Failure.map_asFinding_failure (failures : List Failure) :
    (failures.map asFinding).map (·.failure "") = failures := by
  simp only [List.map_map, Function.comp_def, asFinding_failure, List.map_id']

namespace Schema

/-- The check of a node only appends.  In terms of paths and failures: those collected before stay,
behind them comes what a check of the node in the context of the path reports, the check halts
exactly if it should and something came, and then no more than one came. -/
theorem node_only_appends (schema : Schema) (mode : UnionMode) (id : NodeId) :
    (walk mode (schema.shape id)).OnlyAppends ∧
    ∀ (value : Option Value) (path : String) (halt : Bool) (collected : List Failure),
      let walked := walk mode (schema.shape id) value [.key path] halt
        (collected.map Failure.asFinding).toArray
      let appended := ((schema.shape id).findings mode halt value).map (·.failure path)
      walked.found.toList.map (·.failure "") = collected ++ appended ∧
      (walked.halted = true ↔ halt = true ∧ appended ≠ []) ∧
      (halt = true → appended.length ≤ 1) := by
  have appending := (walk_follows mode (schema.shape_proper id)).onlyAppends
  refine ⟨appending, ?_⟩
  intro value path halt collected walked appended
  have reported : walked.found.toList.map (·.failure "") = collected ++ appended := by
    have failures := appending.failures value [.key path] halt
      (collected.map Failure.asFinding).toArray ""
    rwa [Failure.map_asFinding_failure, List.reverse_singleton, Segment.render_key] at failures
  have started : (collected.map Failure.asFinding).toArray.size = collected.length := by
    rw [List.size_toArray, List.length_map]
  have ended : walked.found.size = collected.length + appended.length := by
    have lengths := congrArg List.length reported
    rwa [List.length_map, List.length_append] at lengths
  refine ⟨reported, ?halted, ?atMostOne⟩
  case halted =>
    rw [appending.halted_iff, started, ended, Nat.lt_add_right_iff_pos, List.length_pos_iff]
  case atMostOne =>
    intro halts
    have bound := appending.at_most_one value [.key path] (collected.map Failure.asFinding).toArray
    rw [started, ← halts, ended] at bound
    exact Nat.le_of_add_le_add_left bound

/-- The second item of a list of unions is the first that fails.  Both alternatives of its union
find something in it, of which the first is kept. -/
theorem node_only_appends_listOfUnions :
    let earlier : Failure := ⟨.required, "Is required", none, "name"⟩
    let value : Value := .list [.text "ab", .text "abcdef", .boolean true]
    let walked := walk .all (listOfUnions.shape 4) (some value) [.key "list"] true
      #[earlier.asFinding]
    walked.found.toList.map (·.failure "") =
      [earlier, ⟨.wrongLength, "Must contain between 1 and 3 characters (found 6)",
        some (.text "abcdef"), "list[1]"⟩] ∧
    walked.halted = true ∧
    ((listOfUnions.shape 4).findings .all true (some value)).length ≤ 1 := by
  intro earlier value walked
  rcases (listOfUnions.node_only_appends .all 4).2 (some value) "list" true [earlier] with
    ⟨reported, halted, atMostOne⟩
  refine ⟨reported, halted.mpr ⟨rfl, ?_⟩, ?_⟩
  · exact List.cons_ne_nil _ _
  · simpa only [List.length_map] using atMostOne rfl

end Schema

/-- A union without alternatives, which no finished schema has, halts and finds nothing. -/
example :
    let nothing := Shape.node ⟨true, false, none, none, false⟩ (.union [])
    let walked := walk .all nothing (some (.boolean true)) [] true #[]
    walked.halted = true ∧ walked.found = #[] := ⟨rfl, rfl⟩

end Conformance
