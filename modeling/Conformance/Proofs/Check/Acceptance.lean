import Conformance.Proofs.Check.Interpretation

namespace Conformance

/-!
# Acceptance at unions

A union accepts what one of its alternatives accepts.  For every value but null
the gate of the union lets the value through, and nothing more is to be said.
Null is decided beforehand by two flags of the union and by a third one, which
looks for an alternative that is nullable or describes null itself.

A union that raises the third flag leaves null to its alternatives, required or
not.  One of them may describe the absence of a value, and such a leaf sees null
and refuses it.  A union that does not raise the flag treats null as absent, and
so does each of its alternatives.
-/

/-- Whether a check at a node answers without failures. -/
def Schema.Accepts (schema : Schema) (mode : UnionMode) (id : NodeId) (value : Option Value) : Prop :=
  (schema.shape id).findings mode false value = []

instance (schema : Schema) (mode : UnionMode) (id : NodeId) (value : Option Value) :
    Decidable (schema.Accepts mode id value) :=
  decidable_of_iff (((schema.shape id).findings mode false value).isEmpty = true) List.isEmpty_iff

namespace Judgement

theorem step_eq_nil_iff (child : Judgement) (segment : Segment) (value : Option Value) :
    child.step segment value = [] ↔ child value = [] :=
  List.map_eq_nil_iff

theorem each_eq_nil_iff (child : Judgement) (values : List (Segment × Value)) :
    child.each values = [] ↔ ∀ entry ∈ values, child (some entry.2) = [] := by
  rw [each, List.flatMap_eq_nil_iff]
  exact forall₂_congr fun entry _ => child.step_eq_nil_iff entry.1 (some entry.2)

theorem fields_eq_nil_iff (children : List (String × Judgement)) (entries : List (String × Value)) :
    fields children entries = [] ↔
      ∀ field ∈ children, field.2 (Value.lookup? field.1 entries) = [] := by
  rw [fields, List.flatMap_eq_nil_iff]
  exact forall₂_congr fun field _ => field.2.step_eq_nil_iff _ _

theorem positions_eq_nil_iff (children : List Judgement) (values : List (Segment × Value)) :
    positions children values = [] ↔
      ∀ pair ∈ children.zip values, pair.1 (some pair.2.2) = [] := by
  rw [positions, List.flatMap_eq_nil_iff]
  exact forall₂_congr fun pair _ => pair.1.step_eq_nil_iff _ _

/-- A union says nothing exactly when one of its alternatives says nothing. -/
theorem union_eq_nil_iff (mode : UnionMode) (value : Value) {reports : List (List Finding)}
    (some? : reports ≠ []) : union mode value reports = [] ↔ [] ∈ reports := by
  cases accepted : reports.any List.isEmpty with
  | true =>
      rcases List.any_eq_true.mp accepted with ⟨report, member, empty⟩
      rw [List.isEmpty_iff] at empty
      rw [empty] at member
      simp only [union, accepted, if_true, member]
  | false =>
      have absent : [] ∉ reports := fun member => List.any_eq_false.mp accepted [] member rfl
      have something : union mode value reports ≠ [] := by
        simp only [union, accepted, Bool.false_eq_true, if_false]
        cases mode with
        | synthesized => exact List.cons_ne_nil _ _
        | all =>
            intro empty
            rcases List.exists_mem_of_ne_nil reports some? with ⟨report, member⟩
            have nothing := List.flatten_eq_nil_iff.mp empty report member
            exact absent (nothing ▸ member)
      simp only [something, absent]

/-- Behind a gate absence is a matter of the requirement alone. -/
theorem gated_none_eq_nil_iff (required nullable nullIsValue : Bool) (form : Value → List Finding) :
    gated required nullable nullIsValue form none = [] ↔ required = false := by
  cases required <;> simp [gated, presence]

/-- Behind a gate null is accepted if a flag says so, and otherwise as the form
or the requirement decides. -/
theorem gated_null_eq_nil_iff (required nullable nullIsValue : Bool) (form : Value → List Finding) :
    gated required nullable nullIsValue form (some .null) = [] ↔
      nullable = true ∨ if nullIsValue then form .null = [] else required = false := by
  cases required <;> cases nullable <;> cases nullIsValue <;> simp [gated, presence]

/-- Every other value that is there passes the gate. -/
theorem gated_of_ne_null (required nullable nullIsValue : Bool) (form : Value → List Finding)
    {value : Value} (present : value ≠ .null) :
    gated required nullable nullIsValue form (some value) = form value := by
  cases value with
  | null => exact absurd rfl present
  | _ => rfl

end Judgement

/-- The third flag of a union. -/
theorem alternativesTakeNull_eq_any (alternatives : List Shape) :
    alternativesTakeNull alternatives =
      alternatives.any fun shape => shape.header.nullable || shape.nullIsValue := by
  induction alternatives with
  | nil => rfl
  | cons shape rest inductionHypothesis =>
      rw [alternativesTakeNull, inductionHypothesis, List.any_cons]

namespace Schema

variable (schema : Schema) (mode : UnionMode) {id : NodeId} {node : Node}

theorem accepts_iff (value : Option Value) (id : NodeId) :
    schema.Accepts mode id value ↔ schema.judge mode id value = [] := by
  rw [Accepts, findings_eq_kept, kept_false]

theorem interpret_eq_nil_iff (options : CheckOptions) (value : Option Value) :
    schema.interpret mode options value = [] ↔ schema.judge mode schema.root value = [] := by
  rw [interpret_eq_kept, List.map_eq_nil_iff, kept_eq_nil_iff]

/-- Null is accepted at a node that lets it through if the form of the node finds
nothing, and by the flags of the node otherwise. -/
theorem accepts_null_iff (listed : schema.nodes[id]? = some node) :
    schema.Accepts mode id (some .null) ↔
      node.nullable = true ∨
        if schema.nullIsValue id then
          (node.form.map (schema.judge mode)).judge .every mode .null = []
        else node.required = false := by
  rw [accepts_iff, schema.judge_eq mode listed, Judgement.gated_null_eq_nil_iff]

variable {alternatives : List NodeId}

/-- Whether a union has to see null, said of the nodes of its alternatives. -/
theorem nullIsValue_union (listed : schema.nodes[id]? = some node)
    (isUnion : node.form = .union alternatives) :
    schema.nullIsValue id =
      alternatives.any fun other => (schema.shape other).header.nullable || schema.nullIsValue other := by
  rw [nullIsValue, schema.shape_eq listed, isUnion]
  simp only [Form.map, Shape.nullIsValue, Form.nullIsValue, alternativesTakeNull_eq_any, List.any_map]
  rfl

theorem form_of_union_eq_nil_iff (listed : schema.nodes[id]? = some node)
    (isUnion : node.form = .union alternatives) (value : Value) :
    (node.form.map (schema.judge mode)).judge .every mode value = [] ↔
      ∃ other ∈ alternatives, schema.Accepts mode other (some value) := by
  have some? : alternatives ≠ [] := by
    have proper := schema.node_proper listed
    rw [isUnion] at proper
    exact proper
  have reported : ((alternatives.map (schema.judge mode)).map (· (some value))) ≠ [] := by
    intro empty
    exact some? (List.map_eq_nil_iff.mp (List.map_eq_nil_iff.mp empty))
  rw [isUnion]
  simp only [Form.map, Form.judge]
  rw [Judgement.union_eq_nil_iff mode value reported, List.map_map, List.mem_map]
  exact exists_congr fun other => and_congr_right fun _ => (schema.accepts_iff mode (some value) other).symm

/-- A union accepts a value that is not null exactly when an alternative does. -/
theorem accepts_union_of_ne_null (listed : schema.nodes[id]? = some node)
    (isUnion : node.form = .union alternatives) {value : Value} (present : value ≠ .null) :
    schema.Accepts mode id (some value) ↔
      ∃ other ∈ alternatives, schema.Accepts mode other (some value) := by
  rw [accepts_iff, schema.judge_eq mode listed, Judgement.gated_of_ne_null _ _ _ _ present,
    schema.form_of_union_eq_nil_iff mode listed isUnion]

/-- What a union makes of null. -/
theorem accepts_union_null (listed : schema.nodes[id]? = some node)
    (isUnion : node.form = .union alternatives) :
    schema.Accepts mode id (some .null) ↔
      node.nullable = true ∨
        if schema.nullIsValue id then
          ∃ other ∈ alternatives, schema.Accepts mode other (some .null)
        else node.required = false := by
  rw [schema.accepts_null_iff mode listed, schema.form_of_union_eq_nil_iff mode listed isUnion]

/-- An alternative that does not raise the third flag of its union accepts null
exactly when it is not required. -/
theorem accepts_null_of_not_nullIsValue (listed : schema.nodes[id]? = some node)
    (isUnion : node.form = .union alternatives) (lowered : schema.nullIsValue id = false)
    {other : NodeId} {alternative : Node} (member : other ∈ alternatives)
    (found : schema.nodes[other]? = some alternative) :
    schema.Accepts mode other (some .null) ↔ alternative.required = false := by
  rw [schema.nullIsValue_union listed isUnion] at lowered
  have flags := List.any_eq_false.mp lowered other member
  rw [Bool.not_eq_true, Bool.or_eq_false_iff, schema.shape_eq found] at flags
  have nullable : alternative.nullable = false := flags.1
  simp only [schema.accepts_null_iff mode found, nullable, flags.2, Bool.false_eq_true, false_or,
    if_false]

/-- The alternatives of a union are nodes of its schema. -/
theorem exists_alternative (listed : schema.nodes[id]? = some node)
    (isUnion : node.form = .union alternatives) {other : NodeId} (member : other ∈ alternatives) :
    ∃ alternative, schema.nodes[other]? = some alternative := by
  have child : other ∈ node.form.children := by
    rw [isUnion]
    exact member
  have early := Nat.lt_trans (schema.child_lt listed other child) (id_lt_size listed)
  exact ⟨schema.nodes[other], Array.getElem?_eq_getElem early⟩

/-- Where no alternative raises the third flag of its union, null is accepted by
none of them if all are required. -/
theorem no_alternative_accepts_null (listed : schema.nodes[id]? = some node)
    (isUnion : node.form = .union alternatives) (lowered : schema.nullIsValue id = false)
    (allRequired : ∀ other ∈ alternatives, ∀ alternative,
      schema.nodes[other]? = some alternative → alternative.required = true) :
    ¬ ∃ other ∈ alternatives, schema.Accepts mode other (some .null) := by
  rintro ⟨other, member, accepted⟩
  rcases schema.exists_alternative listed isUnion member with ⟨alternative, found⟩
  have optional := (schema.accepts_null_of_not_nullIsValue mode listed isUnion lowered member
    found).mp accepted
  have required := allRequired other member alternative found
  rw [required] at optional
  cases optional

/-- A union accepts what one of its alternatives accepts, and null besides if it is
nullable, or if it is not required and leaves nothing about null to its
alternatives.  Nothing is said of null at a required union that leaves nothing to
alternatives of which one is optional. -/
theorem accepts_union_iff (listed : schema.nodes[id]? = some node)
    (isUnion : node.form = .union alternatives) (value : Value)
    (determined : value = .null → node.nullable = false → schema.nullIsValue id = false →
      node.required = true → ∀ other ∈ alternatives, ∀ alternative,
        schema.nodes[other]? = some alternative → alternative.required = true) :
    schema.Accepts mode id (some value) ↔
      (value = .null ∧ (node.nullable = true ∨
        (node.required = false ∧ schema.nullIsValue id = false))) ∨
      ∃ other ∈ alternatives, schema.Accepts mode other (some value) := by
  by_cases present : value = .null
  case neg =>
    simp only [schema.accepts_union_of_ne_null mode listed isUnion present, present, false_and,
      false_or]
  subst present
  rw [schema.accepts_union_null mode listed isUnion]
  cases nullable : node.nullable with
  | true => simp only [true_or, true_and]
  | false =>
      cases raised : schema.nullIsValue id with
      | true =>
          -- The alternatives are asked, and the flags of the union do not matter.
          simp only [Bool.false_eq_true, Bool.true_eq_false, if_true, and_false, false_or]
      | false =>
          -- Null is absent: the requirement of the union decides, and where it refuses
          -- null, so does every alternative.
          cases required : node.required with
          | false => simp only [Bool.false_eq_true, if_false, or_true, true_and, true_or]
          | true =>
              have refused := schema.no_alternative_accepts_null mode listed isUnion raised
                (determined rfl nullable raised required)
              simp only [Bool.false_eq_true, Bool.true_eq_false, if_false, false_and, or_self,
                and_false, refused]

/-- A pair of unions.  The first is not required, and has an alternative that
describes the absence of a value; the second is required, as its alternatives are. -/
def pairOfUnions : Schema :=
  ⟨#[⟨.leaf (.string .unbounded), true, false, none, none⟩,
      ⟨.leaf .undefined, false, false, none, none⟩,
      ⟨.union [0, 1], false, false, none, none⟩,
      ⟨.leaf (.integer .unbounded), true, false, none, none⟩,
      ⟨.union [0, 3], true, false, none, none⟩,
      ⟨.tuple [2, 4], true, false, none, none⟩],
    5, by decide, by decide⟩

/-- The law at the second union, where it decides about null. -/
theorem accepts_union_of_required :
    pairOfUnions.nodes[4]? = some pairOfUnions.nodes[4] ∧
    pairOfUnions.nodes[4].form = .union [0, 3] ∧
    (∀ other ∈ [0, 3], ∀ alternative,
      pairOfUnions.nodes[other]? = some alternative → alternative.required = true) ∧
    (pairOfUnions.Accepts .all 4 (some .null) ↔
      (Value.null = .null ∧ (pairOfUnions.nodes[4].nullable = true ∨
        (pairOfUnions.nodes[4].required = false ∧ pairOfUnions.nullIsValue 4 = false))) ∨
      ∃ other ∈ [0, 3], pairOfUnions.Accepts .all other (some .null)) := by
  have listed : pairOfUnions.nodes[4]? = some pairOfUnions.nodes[4] := rfl
  have isUnion : pairOfUnions.nodes[4].form = .union [0, 3] := rfl
  have allRequired : ∀ other ∈ [0, 3], ∀ alternative,
      pairOfUnions.nodes[other]? = some alternative → alternative.required = true := by
    intro other member alternative found
    rcases List.mem_cons.mp member with rfl | last
    · cases found
      rfl
    · cases List.mem_singleton.mp last
      cases found
      rfl
  exact ⟨listed, isUnion, allRequired,
    pairOfUnions.accepts_union_iff .all listed isUnion .null fun _ _ _ _ => allRequired⟩

/-- Unions that are not required do not always accept null.  The first union of the
pair leaves null to its alternatives, and both refuse it. -/
theorem optional_union_refuses_null :
    ¬ (pairOfUnions.Accepts .synthesized 2 (some .null) ↔
      (Value.null = .null ∧ (pairOfUnions.nodes[2].nullable = true ∨
          pairOfUnions.nodes[2].required = false)) ∨
        ∃ other ∈ [0, 1], pairOfUnions.Accepts .synthesized other (some .null)) := by
  intro claimed
  have refused : ¬ pairOfUnions.Accepts .synthesized 2 (some .null) := by decide
  exact refused (claimed.mpr (Or.inl ⟨rfl, Or.inr rfl⟩))

end Schema
end Conformance
