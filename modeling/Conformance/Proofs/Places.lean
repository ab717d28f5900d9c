import Conformance.Proofs.Program.Equivalence
import Conformance.Proofs.Value

namespace Conformance

/-!
# Places of findings

A finding tells a value and a place.  Walking from the value that was checked along
the steps of the place leads to the value that is told, or to a key that a record
does not have if the finding tells that nothing is there.

A judgement does not walk: it hands every child the value of the child and puts a
step in front of what the child finds.  So the places are right because a step and
the value it is put in front of belong together, at fields, items and entries alike.
For entries this needs records that have every key once.
-/

namespace Value

/-- One step down into a value, if the value has such a step.  A record has a step
for every key, and nothing is there if the key is missing. -/
def step? : Segment → Value → Option (Option Value)
  | .key name, .record entries => some (lookup? name entries)
  | .index position, .list items => items[position]?.map some
  | _, _ => none

/-- The value at a place below a value that may be absent, if there is such a place. -/
def at? : List Segment → Option Value → Option (Option Value)
  | [], value => some value
  | segment :: rest, some value => (value.step? segment).bind (at? rest)
  | _ :: _, none => none

theorem at?_cons {segment : Segment} {value : Value} {below : Option Value}
    (stepped : value.step? segment = some below) (rest : List Segment) :
    at? (segment :: rest) (some value) = at? rest below := by
  rw [at?, stepped, Option.bind_some]

/-- The items of a list are where their steps lead. -/
theorem step?_of_mem_indexedFrom {items : List Value} {entry : Segment × Value} :
    ∀ first : List Value, entry ∈ indexedFrom first.length items →
      (list (first ++ items)).step? entry.1 = some (some entry.2) := by
  induction items with
  | nil =>
      intro first member
      cases member
  | cons item rest inductionHypothesis =>
      intro first member
      rcases List.mem_cons.mp member with here | later
      · rw [here]
        simp only [step?, List.getElem?_append_right (Nat.le_refl _), Nat.sub_self,
          List.getElem?_cons_zero, Option.map_some]
      · have longer := inductionHypothesis (first ++ [item])
        rw [List.length_append, List.length_singleton, List.append_assoc, List.singleton_append]
          at longer
        exact longer later

theorem step?_of_mem_indexed {items : List Value} {entry : Segment × Value}
    (member : entry ∈ indexed items) : (list items).step? entry.1 = some (some entry.2) :=
  step?_of_mem_indexedFrom [] member

/-- The entries of a sorted record are where their keys lead. -/
theorem step?_of_mem_keyed {entries : List (String × Value)} (sorted : SortedEntries entries)
    {entry : Segment × Value} (member : entry ∈ keyed entries) :
    (record entries).step? entry.1 = some (some entry.2) := by
  rcases List.mem_map.mp member with ⟨⟨key, value⟩, listed, equal⟩
  rw [← equal]
  exact congrArg some (lookup?_of_mem sorted listed)

end Value

/-- Every finding about a value tells what is at its place. -/
def Located (value : Option Value) (findings : List Finding) : Prop :=
  ∀ finding ∈ findings, Value.at? finding.place value = some finding.value

namespace Located

theorem nil (value : Option Value) : Located value [] :=
  fun _ member => nomatch member

/-- A finding about the value itself has no steps to go. -/
theorem here (template : Template) (value : Option Value) (count : Option Nat) :
    Located value [template.here value count] :=
  List.forall_mem_singleton.mpr rfl

/-- Findings about a part are located in the whole once the step to the part is put in
front of them. -/
theorem under {segment : Segment} {value : Value} {below : Option Value} {findings : List Finding}
    (stepped : value.step? segment = some below) (located : Located below findings) :
    Located (some value) (findings.map (.under segment)) := by
  refine List.forall_mem_map.mpr fun finding member => ?_
  exact (Value.at?_cons stepped finding.place).trans (located finding member)

theorem flatMap {Child : Type} {value : Option Value} {children : List Child}
    {findings : Child → List Finding} (each : ∀ child ∈ children, Located value (findings child)) :
    Located value (children.flatMap findings) := by
  intro finding member
  rcases List.mem_flatMap.mp member with ⟨child, listed, found⟩
  exact each child listed finding found

/-- A check that fails early keeps some of what it finds. -/
theorem kept {value : Option Value} {findings : List Finding} (located : Located value findings)
    (halt : Bool) : Located value (kept halt findings) := by
  cases halt with
  | false => exact located
  | true => exact fun finding member => located finding (List.mem_of_mem_take member)

end Located

namespace Judgement

/-- A judgement that locates what it finds in ordered values. -/
def Locates (judgement : Judgement) : Prop :=
  ∀ value : Option Value, (∀ present ∈ value, present.Ordered) → Located value (judgement value)

variable {value : Value}

theorem each_located {child : Judgement} (locates : child.Locates) {values : List (Segment × Value)}
    (stepped : ∀ entry ∈ values, value.step? entry.1 = some (some entry.2))
    (ordered : ∀ entry ∈ values, entry.2.Ordered) : Located (some value) (child.each values) := by
  refine .flatMap fun entry member => .under (stepped entry member) (locates _ ?_)
  exact Value.forall_mem_some (ordered entry member)

theorem fields_located {children : List (String × Judgement)}
    (locates : ∀ field ∈ children, Locates field.2) {entries : List (String × Value)}
    (ordered : ∀ entry ∈ entries, entry.2.Ordered) :
    Located (some (.record entries)) (fields children entries) := by
  refine .flatMap fun field member => .under rfl (locates field member _ ?_)
  intro present found
  exact ordered _ (Value.mem_of_lookup? found)

theorem positions_located {children : List Judgement} (locates : ∀ child ∈ children, child.Locates)
    {values : List (Segment × Value)}
    (stepped : ∀ entry ∈ values, value.step? entry.1 = some (some entry.2))
    (ordered : ∀ entry ∈ values, entry.2.Ordered) :
    Located (some value) (positions children values) := by
  refine .flatMap fun pair member => ?_
  rcases List.of_mem_zip member with ⟨child, entry⟩
  refine .under (stepped pair.2 entry) (locates pair.1 child _ ?_)
  exact Value.forall_mem_some (ordered pair.2 entry)

/-- A union says where it stands, or what its alternatives say of the same value. -/
theorem union_located {mode : UnionMode} {reports : List (List Finding)}
    (each : ∀ report ∈ reports, Located (some value) report) :
    Located (some value) (union mode value reports) := by
  simp only [union]
  by_cases accepted : reports.any List.isEmpty = true
  · rw [if_pos accepted]
    exact .nil _
  · rw [if_neg accepted]
    cases mode with
    | synthesized => exact .here _ _ _
    | all =>
        intro finding member
        rcases List.mem_flatten.mp member with ⟨report, listed, found⟩
        exact each report listed finding found

theorem leaf_located (counting : Counting) (scalar : Leaf) :
    Located (some value) (leaf counting scalar value) := by
  rw [leaf]
  cases scalar.violation? value with
  | none => exact .nil _
  | some violation =>
      simp only
      cases scalar.reported? counting violation with
      | none => exact .nil _
      | some template => exact .here _ _ _

theorem gated_locates (required nullable nullIsValue : Bool) {form : Value → List Finding}
    (locates : ∀ value : Value, value.Ordered → Located (some value) (form value)) :
    Locates (gated required nullable nullIsValue form) := by
  intro value ordered
  simp only [gated]
  cases presence required nullable nullIsValue value with
  | missing => exact .here _ _ _
  | skip => exact .nil _
  | check =>
      cases value with
      | none => exact .nil _
      | some value => exact locates value (ordered value rfl)

end Judgement

/-- A form locates what it finds if its children do. -/
theorem Form.judge_located (counting : Counting) (mode : UnionMode) {form : Form Shape}
    (children : ∀ shape ∈ form.children, (shape.judge counting mode).Locates) {value : Value}
    (ordered : value.Ordered) :
    Located (some value) ((form.map (Shape.judge counting mode)).judge counting mode value) := by
  cases form with
  | leaf scalar => exact Judgement.leaf_located counting scalar
  | object fields =>
      cases ordered with
      | record entries sorted inside =>
          refine Judgement.fields_located (List.forall_mem_map.mpr fun field member => ?_) inside
          exact children field.2 (List.mem_map_of_mem member)
      | _ => exact .here _ _ _
  | array item length =>
      cases ordered with
      | list items inside =>
          simp only [map, judge]
          by_cases admitted : length.admits counting items.length = true
          · rw [if_pos admitted]
            exact Judgement.each_located (children item List.mem_cons_self)
              (fun _ => Value.step?_of_mem_indexed) (Value.forall_mem_indexed inside)
          · rw [if_neg admitted]
            exact .here _ _ _
      | _ => exact .here _ _ _
  | tuple shapes =>
      cases ordered with
      | list items inside =>
          simp only [map, judge]
          by_cases fits : items.length = (shapes.map (Shape.judge counting mode)).length
          · rw [if_pos fits]
            exact Judgement.positions_located (List.forall_mem_map.mpr children)
              (fun _ => Value.step?_of_mem_indexed) (Value.forall_mem_indexed inside)
          · rw [if_neg fits]
            exact .here _ _ _
      | _ => exact .here _ _ _
  | record child keys =>
      cases ordered with
      | record entries sorted inside =>
          simp only [map, judge]
          by_cases admitted : keys.admits counting entries.length = true
          · rw [if_pos admitted]
            exact Judgement.each_located (children child List.mem_cons_self)
              (fun _ => Value.step?_of_mem_keyed sorted) (Value.forall_mem_keyed inside)
          · rw [if_neg admitted]
            exact .here _ _ _
      | _ => exact .here _ _ _
  | union alternatives =>
      refine Judgement.union_located ?_
      rw [List.map_map]
      refine List.forall_mem_map.mpr fun shape member => children shape member _ ?_
      exact Value.forall_mem_some ordered

/-- A tree locates what it finds, however it counts and whatever its unions report. -/
theorem Shape.judge_locates (counting : Counting) (mode : UnionMode) (shape : Shape) :
    (shape.judge counting mode).Locates := by
  induction shape using Shape.induction with
  | node header form inductionHypothesis =>
      rw [Shape.judge_node]
      exact Judgement.gated_locates _ _ _ fun value ordered =>
        Form.judge_located counting mode inductionHypothesis ordered

/-! ## Reports -/

/-- A check whose failures point at what they report.  They have steps that lead from
the value that is checked to the value of the failure, and their paths are these steps
below the context.  Steps, kinds, messages and values do not depend on the context. -/
def PointsAt (value : Option Value) (check : CheckOptions → List Failure) : Prop :=
  ∀ earlyFail : Bool, ∃ findings : List Finding, Located value findings ∧
    ∀ path : String, check ⟨path, earlyFail⟩ = findings.map fun finding =>
      ⟨finding.kind, finding.message, finding.value, Segment.render path finding.place⟩

/-- Whatever keeps what its options ask for of located findings points at them. -/
theorem pointsAt_of_kept {value : Option Value} {check : CheckOptions → List Failure}
    {findings : List Finding} (located : Located value findings)
    (keeps : ∀ options, check options =
      (kept options.earlyFail findings).map (·.failure options.path)) : PointsAt value check :=
  fun earlyFail => ⟨kept earlyFail findings, located.kept earlyFail, fun path => keeps ⟨path, earlyFail⟩⟩

namespace Schema

/-- Every failure points at what it reports, in the interpreter and in every program
that is assembled. -/
theorem failures_point (schema : Schema) {value : Option Value}
    (ordered : ∀ present ∈ value, present.Ordered) :
    (∀ mode : UnionMode, PointsAt value fun options => schema.interpret mode options value) ∧
    ∀ (mode : UnionMode) (budget : Nat) (program : Program),
      schema.assemble mode budget = .ok program →
      PointsAt value fun options => program.run options value := by
  refine ⟨?interpreter, ?program⟩
  case interpreter =>
    intro mode
    exact pointsAt_of_kept (schema.rootShape.judge_locates .every mode value ordered)
      fun options => schema.interpret_eq_kept mode options value
  case program =>
    intro mode budget program assembled
    exact pointsAt_of_kept (schema.rootShape.judge_locates .binding mode value ordered)
      fun options => assembled_run assembled options value

/-- A list in which a record stands for a text. -/
theorem failures_point_listOfUnions :
    (∀ present ∈ some (Value.list [.record [("a", .null), ("b", .text "x")]]), present.Ordered) ∧
    listOfUnions.assemble .all 64 = .ok (listOfUnions.layout .all) ∧
    PointsAt (some (.list [.record [("a", .null), ("b", .text "x")]])) fun options =>
      (listOfUnions.layout .all).run options
        (some (.list [.record [("a", .null), ("b", .text "x")]])) := by
  have sorted : Value.SortedEntries [("a", .null), ("b", .text "x")] :=
    List.pairwise_pair.mpr (by decide)
  have record : (Value.record [("a", .null), ("b", .text "x")]).Ordered :=
    .record _ sorted (List.forall_mem_cons.mpr ⟨.null, List.forall_mem_singleton.mpr (.text "x")⟩)
  have ordered : ∀ present ∈ some (Value.list [.record [("a", .null), ("b", .text "x")]]),
      present.Ordered :=
    Value.forall_mem_some (.list _ (List.forall_mem_singleton.mpr record))
  exact ⟨ordered, assemble_listOfUnions,
    (failures_point listOfUnions ordered).2 .all 64 _ assemble_listOfUnions⟩

end Schema
end Conformance
