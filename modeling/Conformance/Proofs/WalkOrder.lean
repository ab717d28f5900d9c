import Conformance.Proofs.Places
import Mathlib.Data.List.Pairwise

namespace Conformance

/-!
# The order of findings

A walk visits the fields of an object as they are declared, items and positions by
their number and the entries of a record by their key.  So of two places that part
at some node, one comes first.  Two places of which one lies at or below the other
are not compared at all.

As long as unions speak for themselves, every finding of a walk comes before all
later ones.  A node that reports itself has visited nothing below it, and the places
of its children part at the node.  This is where the checks of a finished schema
matter: a field that was declared twice would be visited twice.
-/

namespace Form

/-- Whether a step leads to a child.  The alternatives of a union see the value of the
union itself, so no step leads to them. -/
def Leads : Form Shape → Segment → Shape → Prop
  | .object fields, .key name, child => (name, child) ∈ fields
  | .array item _, .index _, child => child = item
  | .tuple items, .index position, child => items[position]? = some child
  | .record value _, .key _, child => child = value
  | _, _, _ => False

/-- Whether a walk takes one step before another. -/
def StepsBefore : Form Shape → Segment → Segment → Prop
  | .object fields, .key earlier, .key later => [earlier, later].Sublist (fields.map Prod.fst)
  | .array _ _, .index earlier, .index later => earlier < later
  | .tuple _, .index earlier, .index later => earlier < later
  | .record _ _, .key earlier, .key later => earlier < later
  | _, _, _ => False

/-- Steps lead to children. -/
theorem Leads.mem_children {form : Form Shape} {segment : Segment} {child : Shape}
    (leads : form.Leads segment child) : child ∈ form.children := by
  cases form with
  | object fields =>
      cases segment with
      | key name => exact List.mem_map_of_mem (f := Prod.snd) leads
      | index position => exact leads.elim
  | array item length =>
      cases segment with
      | key name => exact leads.elim
      | index position => exact List.mem_singleton.mpr leads
  | tuple items =>
      cases segment with
      | key name => exact leads.elim
      | index position => exact List.mem_of_getElem? leads
  | record value keys =>
      cases segment with
      | key name => exact List.mem_singleton.mpr leads
      | index position => exact leads.elim
  | leaf scalar => exact leads.elim
  | union alternatives => exact leads.elim

/-- No step is taken before itself. -/
theorem StepsBefore.ne {form : Form Shape} (proper : form.Proper) {earlier later : Segment}
    (before : form.StepsBefore earlier later) : earlier ≠ later := by
  rintro rfl
  cases form with
  | object fields =>
      cases earlier with
      | key name => exact List.pairwise_iff_forall_sublist.mp proper before rfl
      | index position => exact before
  | array item length =>
      cases earlier with
      | key name => exact before
      | index position => exact lt_irrefl position before
  | tuple items =>
      cases earlier with
      | key name => exact before
      | index position => exact lt_irrefl position before
  | record value keys =>
      cases earlier with
      | key name => exact lt_irrefl name before
      | index position => exact before
  | leaf scalar => exact before
  | union alternatives => exact before

end Form

namespace Shape

/-- A place comes before another in a walk over a tree: the two part at some node, from
which the walk takes the step to the first place before the step to the second. -/
inductive Precedes : Shape → List Segment → List Segment → Prop where
  | parted {header : Header} {form : Form Shape} {earlier later : Segment}
      (before : form.StepsBefore earlier later) (first second : List Segment) :
      Precedes (.node header form) (earlier :: first) (later :: second)
  | inside {header : Header} {form : Form Shape} {segment : Segment} {child : Shape}
      (leads : form.Leads segment child) {first second : List Segment}
      (precedes : Precedes child first second) :
      Precedes (.node header form) (segment :: first) (segment :: second)

/-- Of two places in a walk neither is the other or lies below it. -/
theorem Precedes.apart {shape : Shape} (proper : shape.Proper) {first second : List Segment}
    (precedes : shape.Precedes first second) : ¬ first <+: second ∧ ¬ second <+: first := by
  induction precedes with
  | parted before first second =>
      cases proper with
      | node _ _ own children =>
          have differ := before.ne own
          constructor
          · intro isPrefix
            exact differ (List.cons_prefix_cons.mp isPrefix).1
          · intro isPrefix
            exact differ (List.cons_prefix_cons.mp isPrefix).1.symm
  | inside leads precedes inductionHypothesis =>
      cases proper with
      | node _ _ own children =>
          have deeper := inductionHypothesis (children _ leads.mem_children)
          constructor
          · intro isPrefix
            exact deeper.1 (List.cons_prefix_cons.mp isPrefix).2
          · intro isPrefix
            exact deeper.2 (List.cons_prefix_cons.mp isPrefix).2

/-- Findings about a value, each of which comes before all later ones. -/
def InOrder (shape : Shape) (findings : List Finding) : Prop :=
  findings.Pairwise fun earlier later => shape.Precedes earlier.place later.place

namespace InOrder

variable {header : Header} {form : Form Shape}

theorem nil (shape : Shape) : shape.InOrder [] := List.Pairwise.nil

theorem singleton (shape : Shape) (finding : Finding) : shape.InOrder [finding] :=
  List.pairwise_singleton _ finding

/-- What a scope keeps is as it was. -/
theorem kept {shape : Shape} {findings : List Finding} (inOrder : shape.InOrder findings)
    (halt : Bool) : shape.InOrder (kept halt findings) := by
  cases halt with
  | false => exact inOrder
  | true => exact inOrder.sublist (List.take_sublist 1 findings)

/-- Parts of a value that are visited by steps of their own, one after another, put
together what is found in each of them. -/
theorem parts {Part : Type} {parts : List Part} (step : Part → Segment)
    {found : Part → List Finding}
    (each : ∀ part ∈ parts, ∃ child, form.Leads (step part) child ∧ child.InOrder (found part))
    (apart : parts.Pairwise fun earlier later => form.StepsBefore (step earlier) (step later)) :
    (node header form).InOrder
      (parts.flatMap fun part => (found part).map (.under (step part))) := by
  refine List.pairwise_flatMap.mpr ⟨?_, ?_⟩
  · intro part member
    rcases each part member with ⟨child, leads, inOrder⟩
    exact inOrder.map _ fun earlier later precedes => .inside leads precedes
  · refine apart.imp fun before => ?_
    intro earlier foundEarlier later foundLater
    rcases List.mem_map.mp foundEarlier with ⟨first, _, equal⟩
    rcases List.mem_map.mp foundLater with ⟨second, _, equal'⟩
    rw [← equal, ← equal']
    exact .parted before first.place second.place

end InOrder
end Shape

/-! ## Steps are taken in order -/

namespace Value

variable {before : Segment → Segment → Prop}

/-- Items are numbered upwards, and all of them from the first position on. -/
theorem indexedFrom_pairwise
    (upwards : ∀ earlier later, earlier < later → before (.index earlier) (.index later))
    (items : List Value) : ∀ position : Nat,
    (indexedFrom position items).Pairwise (fun earlier later => before earlier.1 later.1) ∧
    ∀ index < position, ∀ entry ∈ indexedFrom position items, before (.index index) entry.1 := by
  induction items with
  | nil => exact fun position => ⟨.nil, fun index early entry member => nomatch member⟩
  | cons item rest inductionHypothesis =>
      intro position
      rcases inductionHypothesis (position + 1) with ⟨inOrder, behind⟩
      refine ⟨List.pairwise_cons.mpr ⟨behind position (Nat.lt_succ_self position), inOrder⟩, ?_⟩
      intro index early entry member
      rcases List.mem_cons.mp member with here | later
      · rw [here]
        exact upwards index position early
      · exact behind index (Nat.lt_succ_of_lt early) entry later

theorem indexed_pairwise
    (upwards : ∀ earlier later, earlier < later → before (.index earlier) (.index later))
    (items : List Value) :
    (indexed items).Pairwise fun earlier later => before earlier.1 later.1 :=
  (indexedFrom_pairwise upwards items 0).1

theorem keyed_pairwise
    (upwards : ∀ earlier later, earlier < later → before (.key earlier) (.key later))
    {entries : List (String × Value)} (sorted : SortedEntries entries) :
    (keyed entries).Pairwise fun earlier later => before earlier.1 later.1 :=
  List.pairwise_map.mpr ((List.pairwise_map.mp sorted).imp (upwards _ _))

theorem getElem?_indexedFrom (items : List Value) : ∀ position index : Nat,
    (indexedFrom position items)[index]? =
      items[index]?.map fun item => (.index (position + index), item) := by
  induction items with
  | nil =>
      intro position index
      rfl
  | cons item rest inductionHypothesis =>
      intro position index
      cases index with
      | zero => rfl
      | succ index =>
          rw [indexedFrom, List.getElem?_cons_succ, List.getElem?_cons_succ, inductionHypothesis,
            Nat.add_right_comm, Nat.add_assoc]

/-- A position of a tuple and the item it stands beside have one number. -/
theorem position_of_mem_zip {shapes : List Shape} {items : List Value}
    {pair : Shape × Segment × Value} (member : pair ∈ shapes.zip (indexed items)) :
    ∃ index, pair.2.1 = .index index ∧ shapes[index]? = some pair.1 := by
  rcases List.mem_iff_getElem?.mp member with ⟨index, found⟩
  rcases List.getElem?_zip_eq_some.mp found with ⟨shape, entry⟩
  rw [indexed, getElem?_indexedFrom, Nat.zero_add] at entry
  rcases Option.map_eq_some_iff.mp entry with ⟨item, _, equal⟩
  exact ⟨index, by rw [← equal], shape⟩

end Value

/-! ## Judgements find in order -/

/-- A judgement of a tree that finds in the order of a walk. -/
def Shape.FindsInOrder (shape : Shape) (judgement : Judgement) : Prop :=
  ∀ value : Option Value, (∀ present ∈ value, present.Ordered) → shape.InOrder (judgement value)

namespace Judgement

variable {header : Header} {form : Form Shape}

/-- A union that speaks for itself reports once at most. -/
theorem union_synthesized_inOrder (shape : Shape) (value : Value) (reports : List (List Finding)) :
    shape.InOrder (union .synthesized value reports) := by
  rw [union]
  by_cases accepted : reports.any List.isEmpty = true
  · rw [if_pos accepted]
    exact .nil shape
  · rw [if_neg accepted]
    exact .singleton shape _

theorem leaf_inOrder (shape : Shape) (counting : Counting) (scalar : Leaf) (value : Value) :
    shape.InOrder (leaf counting scalar value) := by
  rw [leaf]
  cases scalar.violation? value with
  | none => exact .nil shape
  | some violation =>
      simp only
      cases scalar.reported? counting violation with
      | none => exact .nil shape
      | some template => exact .singleton shape _

theorem gated_inOrder {shape : Shape} (required nullable nullIsValue : Bool)
    {form : Value → List Finding}
    (inOrder : ∀ value : Value, value.Ordered → shape.InOrder (form value)) :
    shape.FindsInOrder (gated required nullable nullIsValue form) := by
  intro value ordered
  simp only [gated]
  cases presence required nullable nullIsValue value with
  | missing => exact .singleton shape _
  | skip => exact .nil shape
  | check =>
      cases value with
      | none => exact .nil shape
      | some value => exact inOrder value (ordered value rfl)

/-- Values below one step each, which all lead to the same child. -/
theorem each_inOrder {child : Shape} {judgement : Judgement}
    (inOrder : child.FindsInOrder judgement) {values : List (Segment × Value)}
    (leads : ∀ entry ∈ values, form.Leads entry.1 child)
    (apart : values.Pairwise fun earlier later => form.StepsBefore earlier.1 later.1)
    (ordered : ∀ entry ∈ values, entry.2.Ordered) :
    (Shape.node header form).InOrder (judgement.each values) := by
  refine Shape.InOrder.parts Prod.fst (fun entry member => ?_) apart
  exact ⟨child, leads entry member, inOrder _ (Value.forall_mem_some (ordered entry member))⟩

end Judgement

section

variable {header : Header} {judge : Shape → Judgement}

theorem Judgement.fields_inOrder {fields : List (String × Shape)}
    (inOrder : ∀ field ∈ fields, field.2.FindsInOrder (judge field.2))
    {entries : List (String × Value)} (ordered : ∀ entry ∈ entries, entry.2.Ordered) :
    (Shape.node header (.object fields)).InOrder
      (Judgement.fields (fields.map fun (name, shape) => (name, judge shape)) entries) := by
  rw [Judgement.fields, List.flatMap_map]
  refine Shape.InOrder.parts (fun field : String × Shape => .key field.1) ?_ ?_
  · intro field member
    refine ⟨field.2, member, inOrder field member _ fun present found => ?_⟩
    exact ordered _ (Value.mem_of_lookup? found)
  · have declared : (fields.map Prod.fst).Pairwise fun earlier later =>
        [earlier, later].Sublist (fields.map Prod.fst) :=
      List.pairwise_iff_forall_sublist.mpr id
    exact (List.pairwise_map (f := Prod.fst)).mp declared

theorem Judgement.positions_inOrder {shapes : List Shape}
    (inOrder : ∀ shape ∈ shapes, shape.FindsInOrder (judge shape)) {items : List Value}
    (fits : items.length = shapes.length) (ordered : ∀ item ∈ items, item.Ordered) :
    (Shape.node header (.tuple shapes)).InOrder
      (Judgement.positions (shapes.map judge) (Value.indexed items)) := by
  rw [Judgement.positions, List.zip_map_left, List.flatMap_map]
  refine Shape.InOrder.parts (fun pair : Shape × Segment × Value => pair.2.1) ?_ ?_
  · intro pair member
    rcases Value.position_of_mem_zip member with ⟨index, step, listed⟩
    rcases List.of_mem_zip member with ⟨shape, entry⟩
    refine ⟨pair.1, ?_, inOrder pair.1 shape _ ?_⟩
    · rw [step]
      exact listed
    · exact Value.forall_mem_some (Value.forall_mem_indexed ordered pair.2 entry)
  · have long : (Value.indexed items).length ≤ shapes.length :=
      ((Layout.length_indexedFrom items 0).trans fits).le
    have apart : ((shapes.zip (Value.indexed items)).map Prod.snd).Pairwise fun earlier later =>
        (Form.tuple shapes).StepsBefore earlier.1 later.1 := by
      rw [List.map_snd_zip long]
      exact Value.indexed_pairwise (fun _ _ => id) items
    exact (List.pairwise_map (f := Prod.snd)).mp apart

end

variable (counting : Counting)

/-- A form finds in order if its children do. -/
theorem Form.judge_inOrder {header : Header} {form : Form Shape}
    (children : ∀ child ∈ form.children, child.FindsInOrder (child.judge counting .synthesized))
    {value : Value} (ordered : value.Ordered) :
    (Shape.node header form).InOrder
      ((form.map (Shape.judge counting .synthesized)).judge counting .synthesized value) := by
  cases form with
  | leaf scalar => exact Judgement.leaf_inOrder _ counting scalar value
  | object fields =>
      cases ordered with
      | record entries sorted inside =>
          exact Judgement.fields_inOrder
            (fun field member => children field.2 (List.mem_map_of_mem member)) inside
      | _ => exact .singleton _ _
  | array item length =>
      cases ordered with
      | list items inside =>
          simp only [map, judge]
          by_cases admitted : length.admits counting items.length = true
          · rw [if_pos admitted]
            refine Judgement.each_inOrder (children item List.mem_cons_self) ?_ ?_
              (Value.forall_mem_indexed inside)
            · intro entry member
              rcases List.mem_iff_getElem?.mp member with ⟨index, found⟩
              rw [Value.indexed, Value.getElem?_indexedFrom] at found
              rcases Option.map_eq_some_iff.mp found with ⟨present, _, equal⟩
              rw [← equal]
              rfl
            · exact Value.indexed_pairwise (fun _ _ => id) items
          · rw [if_neg admitted]
            exact .singleton _ _
      | _ => exact .singleton _ _
  | tuple shapes =>
      cases ordered with
      | list items inside =>
          simp only [map, judge, List.length_map]
          by_cases fits : items.length = shapes.length
          · rw [if_pos fits]
            exact Judgement.positions_inOrder children fits inside
          · rw [if_neg fits]
            exact .singleton _ _
      | _ => exact .singleton _ _
  | record child keys =>
      cases ordered with
      | record entries sorted inside =>
          simp only [map, judge]
          by_cases admitted : keys.admits counting entries.length = true
          · rw [if_pos admitted]
            refine Judgement.each_inOrder (children child List.mem_cons_self) ?_ ?_
              (Value.forall_mem_keyed inside)
            · intro entry member
              rcases List.mem_map.mp member with ⟨pair, _, equal⟩
              rw [← equal]
              rfl
            · exact Value.keyed_pairwise (fun _ _ => id) sorted
          · rw [if_neg admitted]
            exact .singleton _ _
      | _ => exact .singleton _ _
  | union alternatives => exact Judgement.union_synthesized_inOrder _ value _

/-- A tree whose unions speak for themselves finds in the order of a walk. -/
theorem Shape.judge_inOrder (shape : Shape) :
    shape.FindsInOrder (shape.judge counting .synthesized) := by
  induction shape using Shape.induction with
  | node header form inductionHypothesis =>
      rw [Shape.judge_node]
      exact Judgement.gated_inOrder _ _ _ fun value ordered =>
        Form.judge_inOrder counting inductionHypothesis ordered

/-! ## Reports -/

/-- Findings of which none has the place of another or a place below it, in the order of
a walk. -/
def Shape.Orderly (shape : Shape) (findings : List Finding) : Prop :=
  findings.Pairwise fun earlier later =>
    ¬ earlier.place <+: later.place ∧ ¬ later.place <+: earlier.place ∧
      shape.Precedes earlier.place later.place

theorem Shape.InOrder.orderly {shape : Shape} (proper : shape.Proper) {findings : List Finding}
    (inOrder : shape.InOrder findings) : shape.Orderly findings := by
  refine inOrder.imp fun precedes => ?_
  rcases precedes.apart proper with ⟨notBelow, notAbove⟩
  exact ⟨notBelow, notAbove, precedes⟩

namespace Schema

/-- As long as unions speak for themselves, neither engine reports a place twice or a
place below one that it reports, and both report in the order of a walk. -/
theorem findings_orderly (schema : Schema) {value : Option Value}
    (ordered : ∀ present ∈ value, present.Ordered) (options : CheckOptions) :
    (schema.rootShape.Orderly (schema.rootShape.findings .synthesized options.earlyFail value) ∧
      schema.interpret .synthesized options value =
        (schema.rootShape.findings .synthesized options.earlyFail value).map
          (·.failure options.path)) ∧
    ∀ (budget : Nat) (program : Program), schema.assemble .synthesized budget = .ok program →
      schema.rootShape.Orderly (program.findings options.earlyFail value) ∧
      program.run options value =
        (program.findings options.earlyFail value).map (·.failure options.path) := by
  have proper : schema.rootShape.Proper := schema.shape_proper schema.root
  have orderly : ∀ counting, schema.rootShape.Orderly
      (kept options.earlyFail (schema.rootShape.judge counting .synthesized value)) := fun counting =>
    ((schema.rootShape.judge_inOrder counting value ordered).kept options.earlyFail).orderly proper
  refine ⟨⟨?interpreter, rfl⟩, ?program⟩
  case interpreter =>
    rw [Shape.findings_eq_kept .synthesized options.earlyFail value proper]
    exact orderly .every
  case program =>
    intro budget program assembled
    refine ⟨?_, rfl⟩
    rw [assembled_findings assembled]
    exact orderly .binding

/-- A list of which no item is accepted, in both engines. -/
theorem findings_orderly_listOfUnions :
    (∀ present ∈ some (Value.list [.record [("a", .null)], .list [.boolean true], .text "abcd"]),
      present.Ordered) ∧
    listOfUnions.assemble .synthesized 64 = .ok (listOfUnions.layout .synthesized) ∧
    listOfUnions.rootShape.Orderly (listOfUnions.rootShape.findings .synthesized false
      (some (.list [.record [("a", .null)], .list [.boolean true], .text "abcd"]))) ∧
    listOfUnions.rootShape.Orderly ((listOfUnions.layout .synthesized).findings false
      (some (.list [.record [("a", .null)], .list [.boolean true], .text "abcd"]))) := by
  have record : (Value.record [("a", .null)]).Ordered :=
    .record _ (List.pairwise_singleton _ _) (List.forall_mem_singleton.mpr .null)
  have inner : (Value.list [.boolean true]).Ordered :=
    .list _ (List.forall_mem_singleton.mpr (.boolean true))
  have ordered : ∀ present ∈
      some (Value.list [.record [("a", .null)], .list [.boolean true], .text "abcd"]),
      present.Ordered :=
    Value.forall_mem_some (.list _ (List.forall_mem_cons.mpr
      ⟨record, List.forall_mem_cons.mpr ⟨inner, List.forall_mem_singleton.mpr (.text "abcd")⟩⟩))
  have assembled : listOfUnions.assemble .synthesized 64 = .ok (listOfUnions.layout .synthesized) := by
    rw [assemble_eq, layout_size, if_pos (by decide)]
  rcases findings_orderly listOfUnions ordered ⟨"list", false⟩ with ⟨interpreted, programs⟩
  exact ⟨ordered, assembled, interpreted.1, (programs 64 _ assembled).1⟩

end Schema
end Conformance
