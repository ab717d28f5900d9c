import Conformance.Proofs.Check.Judgement

namespace Conformance

/-!
# Counts that no bound refuses

Bounds that bind neither side are still two numbers, and a count above the larger
of them lies outside.  So whether every count is compared or only those whose
bounds bind makes a difference for lists and records of more entries than a length
that is bounded by nothing, and for no others.  Texts do not matter: their length is
compared only where it is bounded, whoever asks.
-/

/-- A value with no list or record of more entries than a length that is bounded by
nothing. -/
inductive Value.Moderate : Value → Prop where
  | null : Moderate .null
  | boolean (truth : Bool) : Moderate (.boolean truth)
  | number (number : Number) : Moderate (.number number)
  | text (text : String) : Moderate (.text text)
  | list (items : List Value) (few : items.length ≤ maxSafeLength)
      (inside : ∀ item ∈ items, Moderate item) : Moderate (.list items)
  | record (entries : List (String × Value)) (few : entries.length ≤ maxSafeLength)
      (inside : ∀ entry ∈ entries, Moderate entry.2) : Moderate (.record entries)

namespace Value

theorem mem_of_lookup? {key : String} {value : Value} {entries : List (String × Value)}
    (found : lookup? key entries = some value) : (key, value) ∈ entries := by
  induction entries with
  | nil => cases found
  | cons entry rest inductionHypothesis =>
      rcases entry with ⟨name, other⟩
      rw [lookup?] at found
      by_cases same : name = key
      · rw [if_pos same] at found
        rw [same, Option.some.inj found]
        exact List.mem_cons_self
      · rw [if_neg same] at found
        exact List.mem_cons_of_mem _ (inductionHypothesis found)

theorem mem_of_mem_indexedFrom {items : List Value} {entry : Segment × Value} : ∀ {position : Nat},
    entry ∈ indexedFrom position items → entry.2 ∈ items := by
  induction items with
  | nil =>
      intro position member
      cases member
  | cons item rest inductionHypothesis =>
      intro position member
      rcases List.mem_cons.mp member with first | later
      · rw [first]
        exact List.mem_cons_self
      · exact List.mem_cons_of_mem _ (inductionHypothesis later)

/-- What holds of a value holds of the value if it is present. -/
theorem forall_mem_some {property : Value → Prop} {value : Value} (holds : property value) :
    ∀ present ∈ some value, property present := by
  intro present same
  cases same
  exact holds

/-- What holds of all items holds of them where they are visited. -/
theorem forall_mem_indexed {property : Value → Prop} {items : List Value}
    (inside : ∀ item ∈ items, property item) : ∀ entry ∈ indexed items, property entry.2 :=
  fun entry member => inside entry.2 (mem_of_mem_indexedFrom member)

theorem forall_mem_keyed {property : Value → Prop} {entries : List (String × Value)}
    (inside : ∀ entry ∈ entries, property entry.2) : ∀ entry ∈ keyed entries, property entry.2 := by
  intro entry member
  rcases List.mem_map.mp member with ⟨pair, listed, equal⟩
  rw [← equal]
  exact inside pair listed

end Value

namespace LengthBounds

/-- Bounds that bind neither side contain every count that is not too large. -/
theorem contains_of_isUnbounded {bounds : LengthBounds} (unbounded : bounds.isUnbounded = true)
    {count : Nat} (few : count ≤ maxSafeLength) : bounds.contains count = true := by
  rcases bounds.isUnbounded_iff.mp unbounded with ⟨lower, upper⟩
  rw [contains, Bool.and_eq_true, decide_eq_true_iff, decide_eq_true_iff]
  constructor <;> omega

theorem admits_eq_contains (counting : Counting) (bounds : LengthBounds) {count : Nat}
    (few : count ≤ maxSafeLength) : bounds.admits counting count = bounds.contains count := by
  cases counting with
  | every => rfl
  | binding =>
      rw [admits_binding]
      cases unbounded : bounds.isUnbounded with
      | true => rw [contains_of_isUnbounded unbounded few, Bool.true_or]
      | false => rw [Bool.false_or]

end LengthBounds

namespace Judgement

/-- Judgements that agree on moderate values. -/
def Agree (first second : Judgement) : Prop :=
  ∀ value : Option Value, (∀ present ∈ value, present.Moderate) → first value = second value

theorem step_agree {first second : Judgement} (agree : Agree first second) (segment : Segment)
    {value : Option Value} (moderate : ∀ present ∈ value, present.Moderate) :
    first.step segment value = second.step segment value := by
  rw [step, step, agree value moderate]

theorem each_agree {first second : Judgement} (agree : Agree first second)
    {values : List (Segment × Value)} (moderate : ∀ entry ∈ values, entry.2.Moderate) :
    first.each values = second.each values := by
  rw [each, each, List.flatMap_def, List.flatMap_def]
  congr 1
  refine List.map_congr_left fun entry member => ?_
  exact step_agree agree entry.1 (Value.forall_mem_some (moderate entry member))

theorem fields_agree {Child : Type} {first second : Child → Judgement}
    {children : List (String × Child)} (agree : ∀ field ∈ children, Agree (first field.2) (second field.2))
    {entries : List (String × Value)} (moderate : ∀ entry ∈ entries, entry.2.Moderate) :
    fields (children.map fun (name, child) => (name, first child)) entries =
      fields (children.map fun (name, child) => (name, second child)) entries := by
  rw [fields, fields, List.flatMap_map, List.flatMap_map, List.flatMap_def, List.flatMap_def]
  congr 1
  refine List.map_congr_left fun field member => ?_
  refine step_agree (agree field member) (.key field.1) fun present found => ?_
  exact moderate _ (Value.mem_of_lookup? found)

theorem positions_agree {Child : Type} {first second : Child → Judgement} {children : List Child}
    (agree : ∀ child ∈ children, Agree (first child) (second child)) :
    ∀ {values : List (Segment × Value)}, (∀ entry ∈ values, entry.2.Moderate) →
      positions (children.map first) values = positions (children.map second) values := by
  induction children with
  | nil =>
      intro values moderate
      rfl
  | cons child rest inductionHypothesis =>
      intro values moderate
      cases values with
      | nil => rfl
      | cons entry values =>
          rcases entry with ⟨segment, value⟩
          have here : (first child).step segment (some value) = (second child).step segment (some value) :=
            step_agree (agree child List.mem_cons_self) segment
              (Value.forall_mem_some (moderate (segment, value) List.mem_cons_self))
          have others := inductionHypothesis (fun child member => agree child (List.mem_cons_of_mem _ member))
            fun entry member => moderate entry (List.mem_cons_of_mem (segment, value) member)
          rw [List.map_cons, List.map_cons, positions_cons, positions_cons, here, others]

end Judgement

/-- Bounds of a leaf that bind neither side are violated by no moderate value. -/
theorem Leaf.violation?_kind {scalar : Leaf} (uncounted : scalar.countsWith .binding = false)
    {value : Value} (moderate : value.Moderate) {violation : Violation}
    (violated : scalar.violation? value = some violation) : violation.kind = .wrongType := by
  cases scalar with
  | string length =>
      have unbounded : length.isUnbounded = true := by simpa [countsWith] using uncounted
      cases moderate with
      | text text =>
          rw [violation?, LeafCheck.string?, if_pos unbounded] at violated
          cases violated
      | _ =>
          cases violated
          rfl
  | buffer length =>
      have unbounded : length.isUnbounded = true := by simpa [countsWith] using uncounted
      cases moderate with
      | list items few inside =>
          rw [violation?, LeafCheck.buffer?, LengthBounds.contains_of_isUnbounded unbounded few] at violated
          cases bytes : items.all LeafCheck.isByte with
          | true =>
              rw [bytes] at violated
              cases violated
          | false =>
              rw [bytes] at violated
              cases violated
              rfl
      | _ =>
          cases violated
          rfl
  | _ => cases uncounted

namespace Judgement

theorem leaf_agree (scalar : Leaf) {value : Value} (moderate : value.Moderate) :
    leaf .binding scalar value = leaf .every scalar value := by
  rw [leaf, leaf]
  cases violated : scalar.violation? value with
  | none => rfl
  | some violation =>
      have every : scalar.countsWith .every = true := by
        cases scalar <;> rfl
      have same : scalar.reported? .binding violation = scalar.reported? .every violation := by
        rw [Leaf.reported?, Leaf.reported?, every]
        cases counted : scalar.countsWith .binding with
        | true => rfl
        | false => rw [Leaf.violation?_kind counted moderate violated]
      simp only [same]

/-- Behind a gate judgements agree if they agree on the values that pass it. -/
theorem gated_agree (required nullable nullIsValue : Bool) {first second : Value → List Finding}
    (agree : ∀ value : Value, value.Moderate → first value = second value) :
    Agree (gated required nullable nullIsValue first) (gated required nullable nullIsValue second) := by
  intro value moderate
  simp only [gated]
  cases presence required nullable nullIsValue value with
  | missing => rfl
  | skip => rfl
  | check =>
      cases value with
      | none => rfl
      | some value => exact agree value (moderate value rfl)

end Judgement

theorem Form.judge_agree (mode : UnionMode) {form : Form Shape}
    (children : ∀ shape ∈ form.children,
      Judgement.Agree (shape.judge .binding mode) (shape.judge .every mode))
    {value : Value} (moderate : value.Moderate) :
    (form.map (Shape.judge .binding mode)).judge .binding mode value =
      (form.map (Shape.judge .every mode)).judge .every mode value := by
  cases form with
  | leaf scalar => exact Judgement.leaf_agree scalar moderate
  | object fields =>
      cases moderate with
      | record entries few inside =>
          exact Judgement.fields_agree
            (fun field member => children field.2 (List.mem_map_of_mem member)) inside
      | _ => rfl
  | array item length =>
      cases moderate with
      | list items few inside =>
          have each := Judgement.each_agree (children item List.mem_cons_self)
            (Value.forall_mem_indexed inside)
          simp only [map, judge, LengthBounds.admits_eq_contains _ length few, each]
      | _ => rfl
  | tuple shapes =>
      cases moderate with
      | list items few inside =>
          have positions : Judgement.positions (shapes.map (Shape.judge .binding mode))
              (Value.indexed items) =
              Judgement.positions (shapes.map (Shape.judge .every mode)) (Value.indexed items) :=
            Judgement.positions_agree children (Value.forall_mem_indexed inside)
          simp only [map, judge, List.length_map, positions]
      | _ => rfl
  | record child keys =>
      cases moderate with
      | record entries few inside =>
          have each := Judgement.each_agree (children child List.mem_cons_self)
            (Value.forall_mem_keyed inside)
          simp only [map, judge, LengthBounds.admits_eq_contains _ keys few, each]
      | _ => rfl
  | union alternatives =>
      have reports : (alternatives.map (Shape.judge .binding mode)).map (· (some value)) =
          (alternatives.map (Shape.judge .every mode)).map (· (some value)) := by
        rw [List.map_map, List.map_map]
        refine List.map_congr_left fun shape member => ?_
        exact children shape member (some value) (Value.forall_mem_some moderate)
      simp only [map, judge, reports]

/-- On moderate values it makes no difference which counts are compared. -/
theorem Shape.judge_agree (mode : UnionMode) (shape : Shape) :
    Judgement.Agree (shape.judge .binding mode) (shape.judge .every mode) := by
  induction shape using Shape.induction with
  | node header form inductionHypothesis =>
      rw [Shape.judge_node, Shape.judge_node]
      exact Judgement.gated_agree _ _ _ fun value moderate =>
        Form.judge_agree mode inductionHypothesis moderate

end Conformance
