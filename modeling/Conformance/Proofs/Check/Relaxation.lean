import Conformance.Proofs.Check.Acceptance

namespace Conformance

/-!
# Relaxing a schema

A schema is relaxed by giving up requirements of single nodes: a node need no longer be
there, it may be null, or the bounds of a length are moved apart.  What the schema accepted
before is accepted afterwards, at every node.

For a node by itself this is plain, and it passes from children to parents.  The exception is
null at a union.  Whether a union looks at null at all depends on the flags of its
alternatives, so making an alternative nullable can turn a union that passes null over into one
that asks its alternatives about it.  Then one of them accepts null, for the flag that made the
difference says so of the node that carries it, and every union on the way up asks that node.
-/

/-! ## Relaxed nodes -/

/-- Bounds that lie within others. -/
structure LengthBounds.Within (inner outer : LengthBounds) : Prop where
  min_le : outer.min ≤ inner.min
  le_max : inner.max ≤ outer.max

theorem LengthBounds.Within.refl (bounds : LengthBounds) : bounds.Within bounds :=
  ⟨Nat.le_refl _, Nat.le_refl _⟩

/-- A leaf with the bounds of its length moved apart. -/
inductive Leaf.Relaxed : Leaf → Leaf → Prop where
  | same (scalar : Leaf) : Relaxed scalar scalar
  | string {strict loose : LengthBounds} (within : strict.Within loose) :
      Relaxed (.string strict) (.string loose)
  | buffer {strict loose : LengthBounds} (within : strict.Within loose) :
      Relaxed (.buffer strict) (.buffer loose)

/-- A form over the same children with the bounds of its length moved apart. -/
inductive Form.Relaxed {Child : Type} : Form Child → Form Child → Prop where
  | leaf {strict loose : Leaf} (relaxed : strict.Relaxed loose) : Relaxed (.leaf strict) (.leaf loose)
  | object (fields : List (String × Child)) : Relaxed (.object fields) (.object fields)
  | array (item : Child) {strict loose : LengthBounds} (within : strict.Within loose) :
      Relaxed (.array item strict) (.array item loose)
  | tuple (items : List Child) : Relaxed (.tuple items) (.tuple items)
  | record (value : Child) {strict loose : LengthBounds} (within : strict.Within loose) :
      Relaxed (.record value strict) (.record value loose)
  | union (alternatives : List Child) : Relaxed (.union alternatives) (.union alternatives)

theorem Form.Relaxed.refl {Child : Type} (form : Form Child) : form.Relaxed form := by
  cases form with
  | leaf scalar => exact .leaf (.same scalar)
  | object fields => exact .object fields
  | array item length => exact .array item (.refl length)
  | tuple items => exact .tuple items
  | record value keys => exact .record value (.refl keys)
  | union alternatives => exact .union alternatives

/-- A node with less required of its value.  Its names stay what they are. -/
structure Node.Relaxed (strict loose : Node) : Prop where
  form : strict.form.Relaxed loose.form
  optional : strict.required = false → loose.required = false
  nullable : strict.nullable = true → loose.nullable = true
  name_eq : loose.name = strict.name
  rename_eq : loose.rename = strict.rename

/-- An arena of the same shape with some nodes relaxed. -/
structure Schema.Relaxed (strict loose : Schema) : Prop where
  size_eq : loose.nodes.size = strict.nodes.size
  nodes : ∀ (id : NodeId) (node other : Node), strict.nodes[id]? = some node →
    loose.nodes[id]? = some other → node.Relaxed other

/-! ## Judgements that find nothing where others do -/

theorem LengthBounds.Within.admits {strict loose : LengthBounds} (within : strict.Within loose)
    {counting : Counting} {count : Nat} (admitted : strict.admits counting count = true) :
    loose.admits counting count = true := by
  have lower := within.min_le
  have upper := within.le_max
  cases counting with
  | every =>
      simp only [admits_every, contains, Bool.and_eq_true, decide_eq_true_eq] at admitted ⊢
      omega
  | binding =>
      simp only [admits_binding, isUnbounded_iff, contains, Bool.or_eq_true, Bool.and_eq_true,
        decide_eq_true_eq] at admitted ⊢
      omega

namespace Judgement

/-- A judgement that finds nothing in a value in which another finds nothing. -/
def Spares (strict loose : Judgement) : Prop :=
  ∀ value : Option Value, strict value = [] → loose value = []

section

variable {Child : Type} {strict loose : Child → Judgement}

theorem each_spares {strict loose : Judgement} (spares : Spares strict loose)
    {values : List (Segment × Value)} (nothing : strict.each values = []) : loose.each values = [] := by
  rw [each_eq_nil_iff] at nothing ⊢
  exact fun entry member => spares (some entry.2) (nothing entry member)

theorem fields_spares {children : List (String × Child)}
    (spares : ∀ field ∈ children, Spares (strict field.2) (loose field.2))
    {entries : List (String × Value)}
    (nothing : fields (children.map fun (name, child) => (name, strict child)) entries = []) :
    fields (children.map fun (name, child) => (name, loose child)) entries = [] := by
  rw [fields_eq_nil_iff, List.forall_mem_map] at nothing ⊢
  exact fun field member => spares field member _ (nothing field member)

theorem positions_spares {children : List Child}
    (spares : ∀ child ∈ children, Spares (strict child) (loose child))
    {values : List (Segment × Value)} (nothing : positions (children.map strict) values = []) :
    positions (children.map loose) values = [] := by
  rw [positions_eq_nil_iff, List.zip_map_left, List.forall_mem_map] at nothing ⊢
  exact fun pair member => spares pair.1 (List.of_mem_zip member).1 _ (nothing pair member)

/-- A union needs one alternative that finds nothing, whatever its mode makes it say. -/
theorem union_spares {children : List Child} (some? : children ≠ [])
    (spares : ∀ child ∈ children, Spares (strict child) (loose child))
    {mode other : UnionMode} {value : Value}
    (nothing : union mode value ((children.map strict).map (· (some value))) = []) :
    union other value ((children.map loose).map (· (some value))) = [] := by
  have nonempty : ∀ judged : Child → Judgement,
      (children.map judged).map (· (some value)) ≠ [] := by
    intro judged empty
    exact some? (List.map_eq_nil_iff.mp (List.map_eq_nil_iff.mp empty))
  rw [union_eq_nil_iff _ value (nonempty _), List.map_map, List.mem_map] at nothing ⊢
  rcases nothing with ⟨child, member, silent⟩
  exact ⟨child, member, spares child member (some value) silent⟩

end

/-- Texts are compared with bounds that bind, whichever counts are compared. -/
theorem leaf_string_eq_nil_iff (counting : Counting) (bounds : LengthBounds) (value : Value) :
    leaf counting (.string bounds) value = [] ↔
      ∃ text, value = .text text ∧ bounds.admits .binding text.length = true := by
  cases value with
  | text text =>
      simp only [leaf, Leaf.violation?, LeafCheck.string?, Value.text.injEq, exists_eq_left',
        LengthBounds.admits_binding]
      cases unbounded : bounds.isUnbounded with
      | true => simp
      | false =>
          cases contained : bounds.contains text.length with
          | true => simp [Violation.refuteUnless]
          | false => simp [Violation.refuteUnless, Violation.wrongCount, Leaf.reported?,
              Leaf.countsWith, Leaf.template?, Template.constraint, unbounded]
  | _ => simp [leaf, Leaf.violation?, LeafCheck.string?, Violation.wrongType, Leaf.reported?,
      Leaf.template?, Template.wrongType]

theorem leaf_buffer_eq_nil_iff (counting : Counting) (bounds : LengthBounds) (value : Value) :
    leaf counting (.buffer bounds) value = [] ↔
      ∃ items, value = .list items ∧ items.all LeafCheck.isByte = true ∧
        bounds.admits counting items.length = true := by
  cases value with
  | list items =>
      simp only [leaf, Leaf.violation?, LeafCheck.buffer?, Value.list.injEq, exists_eq_left']
      cases bytes : items.all LeafCheck.isByte with
      | false => simp [Violation.wrongType, Leaf.reported?, Leaf.template?, Template.wrongType]
      | true =>
          cases contained : bounds.contains items.length with
          | true => cases counting <;> simp [Violation.refuteUnless, contained]
          | false =>
              cases counting <;> cases unbounded : bounds.isUnbounded <;>
                simp [Violation.refuteUnless, Violation.wrongCount, Leaf.reported?,
                  Leaf.countsWith, Leaf.template?, Template.constraint, contained, unbounded]
  | _ => simp [leaf, Leaf.violation?, LeafCheck.buffer?, Violation.wrongType, Leaf.reported?,
      Leaf.template?, Template.wrongType]

theorem leaf_spares {strict loose : Leaf} (relaxed : strict.Relaxed loose) {counting : Counting}
    {value : Value} (nothing : leaf counting strict value = []) : leaf counting loose value = [] := by
  cases relaxed with
  | same scalar => exact nothing
  | string within =>
      rw [leaf_string_eq_nil_iff] at nothing ⊢
      rcases nothing with ⟨text, isText, admitted⟩
      exact ⟨text, isText, within.admits admitted⟩
  | buffer within =>
      rw [leaf_buffer_eq_nil_iff] at nothing ⊢
      rcases nothing with ⟨items, isList, bytes, admitted⟩
      exact ⟨items, isList, bytes, within.admits admitted⟩

end Judgement

/-- A relaxed form finds nothing where the form finds nothing, if that is so of its children.
The modes of the two may differ. -/
theorem Form.Relaxed.judge_spares {Child : Type} {strict loose : Form Child} (relaxed : strict.Relaxed loose)
    (proper : strict.Proper) {first second : Child → Judgement}
    (children : ∀ child ∈ strict.children, Judgement.Spares (first child) (second child))
    {counting : Counting} {mode other : UnionMode} {value : Value}
    (nothing : (strict.map first).judge counting mode value = []) :
    (loose.map second).judge counting other value = [] := by
  cases relaxed with
  | leaf relaxed => exact Judgement.leaf_spares relaxed nothing
  | object fields =>
      cases value with
      | record entries =>
          exact Judgement.fields_spares
            (fun field member => children field.2 (List.mem_map_of_mem member)) nothing
      | _ => cases nothing
  | array item within =>
      cases value with
      | list items =>
          simp only [map, judge] at nothing ⊢
          split at nothing
          case isTrue admitted =>
            rw [if_pos (within.admits admitted)]
            exact Judgement.each_spares (children item List.mem_cons_self) nothing
          case isFalse => cases nothing
      | _ => cases nothing
  | tuple items =>
      cases value with
      | list values =>
          simp only [map, judge, List.length_map] at nothing ⊢
          split at nothing
          case isTrue fits =>
            rw [if_pos fits]
            exact Judgement.positions_spares children nothing
          case isFalse => cases nothing
      | _ => cases nothing
  | record child within =>
      cases value with
      | record entries =>
          simp only [map, judge] at nothing ⊢
          split at nothing
          case isTrue admitted =>
            rw [if_pos (within.admits admitted)]
            exact Judgement.each_spares (children child List.mem_cons_self) nothing
          case isFalse => cases nothing
      | _ => cases nothing
  | union alternatives => exact Judgement.union_spares proper children nothing

namespace Form.Relaxed

variable {Child : Type} {strict loose : Form Child}

theorem inspectsNull_iff (relaxed : strict.Relaxed loose) :
    (∃ scalar : Leaf, strict = .leaf scalar ∧ scalar.inspectsNull = true) ↔
      ∃ scalar : Leaf, loose = .leaf scalar ∧ scalar.inspectsNull = true := by
  cases relaxed with
  | leaf relaxed => cases relaxed <;> simp [Leaf.inspectsNull]
  | _ => simp

theorem union_iff (relaxed : strict.Relaxed loose) (alternatives : List Child) :
    strict = .union alternatives ↔ loose = .union alternatives := by
  cases relaxed <;> simp

end Form.Relaxed

theorem Shape.judge_anything (counting : Counting) (mode : UnionMode) (value : Option Value) :
    Shape.anything.judge counting mode value = [] := by
  cases value with
  | none => rfl
  | some value => cases value <;> rfl

/-! ## Null at relaxed nodes -/

namespace Schema

section

variable (schema : Schema) {id : NodeId} {node : Node}

/-- A node has to see null if it is a leaf that describes null, or a union of which an
alternative accepts null or has to see it. -/
theorem nullIsValue_eq_true_iff (listed : schema.nodes[id]? = some node) :
    schema.nullIsValue id = true ↔
      (∃ scalar : Leaf, node.form = .leaf scalar ∧ scalar.inspectsNull = true) ∨
      ∃ alternatives : List NodeId, node.form = .union alternatives ∧
        ∃ child ∈ alternatives,
          (schema.shape child).header.nullable = true ∨ schema.nullIsValue child = true := by
  cases isForm : node.form with
  | union alternatives =>
      rw [schema.nullIsValue_union listed isForm, List.any_eq_true]
      simp only [Bool.or_eq_true, reduceCtorEq, false_and, exists_false, false_or,
        Form.union.injEq, exists_eq_left']
  | _ =>
      rw [nullIsValue, schema.shape_eq listed, isForm]
      simp [Form.map, Shape.nullIsValue, Form.nullIsValue]

theorem accepts_null_of_nullable (mode : UnionMode)
    (nullable : (schema.shape id).header.nullable = true) : schema.Accepts mode id (some .null) := by
  rw [accepts_iff, judge]
  cases tree : schema.shape id with
  | node header form =>
      rw [tree] at nullable
      rw [Shape.judge_node, Judgement.gated_null_eq_nil_iff]
      exact .inl nullable

end

variable {strict loose : Schema} {id : NodeId}

namespace Relaxed

theorem exists_node (relaxed : strict.Relaxed loose) {node : Node}
    (listed : strict.nodes[id]? = some node) :
    ∃ other, loose.nodes[id]? = some other ∧ node.Relaxed other := by
  have inside : id < loose.nodes.size := relaxed.size_eq ▸ id_lt_size listed
  have found : loose.nodes[id]? = some loose.nodes[id] := Array.getElem?_eq_getElem inside
  exact ⟨_, found, relaxed.nodes id node _ listed found⟩

/-- A number without a node in the one arena has none in the other. -/
theorem shape_eq_of_missing (relaxed : strict.Relaxed loose) (missing : strict.nodes[id]? = none) :
    loose.shape id = strict.shape id := by
  have missingToo : loose.nodes[id]? = none := by
    rw [Array.getElem?_eq_none_iff] at missing ⊢
    rwa [relaxed.size_eq]
  rw [strict.shape_eq_anything missing, loose.shape_eq_anything missingToo]

/-- Children are listed before their parents, in both arenas.  So a property of numbers holds of
all of them if it holds of those without a node, and passes from the children of a node to the
node and its relaxation. -/
theorem induction (relaxed : strict.Relaxed loose) {motive : NodeId → Prop}
    (missing : ∀ id, strict.nodes[id]? = none → motive id)
    (listed : ∀ (id : NodeId) (node other : Node), strict.nodes[id]? = some node →
      loose.nodes[id]? = some other → node.Relaxed other →
      (∀ child ∈ node.form.children, motive child) → motive id) :
    ∀ id : NodeId, motive id := by
  intro id
  induction id using Nat.strongRecOn with
  | _ id inductionHypothesis =>
      cases found : strict.nodes[id]? with
      | none => exact missing id found
      | some node =>
          rcases relaxed.exists_node found with ⟨other, foundToo, relaxedNode⟩
          exact listed id node other found foundToo relaxedNode fun child member =>
            inductionHypothesis child (strict.child_lt found child member)

theorem nullable (relaxed : strict.Relaxed loose) (id : NodeId)
    (nullable : (strict.shape id).header.nullable = true) :
    (loose.shape id).header.nullable = true := by
  cases listed : strict.nodes[id]? with
  | none => rwa [relaxed.shape_eq_of_missing listed]
  | some node =>
      rcases relaxed.exists_node listed with ⟨other, found, relaxedNode⟩
      rw [strict.shape_eq listed] at nullable
      rw [loose.shape_eq found]
      exact relaxedNode.nullable nullable

/-- A relaxed node has to see null if the node had to. -/
theorem nullIsValue (relaxed : strict.Relaxed loose) : ∀ id : NodeId,
    strict.nullIsValue id = true → loose.nullIsValue id = true := by
  refine relaxed.induction ?missing ?listed
  case missing =>
    intro id missing raised
    rwa [Schema.nullIsValue, relaxed.shape_eq_of_missing missing]
  case listed =>
    intro id node other listed found relaxedNode inductionHypothesis raised
    rw [loose.nullIsValue_eq_true_iff found]
    rcases (strict.nullIsValue_eq_true_iff listed).mp raised with
      describes | ⟨alternatives, isUnion, child, member, takes⟩
    · exact .inl (relaxedNode.form.inspectsNull_iff.mp describes)
    · exact .inr ⟨alternatives, (relaxedNode.form.union_iff _).mp isUnion, child, member,
        takes.imp (relaxed.nullable child) (inductionHypothesis child (isUnion ▸ member))⟩

/-- A union that has to see null only since it was relaxed accepts null: the flag that made the
difference belongs to a node that accepts it, and the unions above ask that node. -/
theorem accepts_null_of_raised (relaxed : strict.Relaxed loose) (mode : UnionMode) :
    ∀ id : NodeId, strict.nullIsValue id ≠ true → loose.nullIsValue id = true →
      loose.Accepts mode id (some .null) := by
  refine relaxed.induction ?missing ?listed
  case missing =>
    intro id missing lowered raised
    rw [Schema.nullIsValue, relaxed.shape_eq_of_missing missing] at raised
    exact absurd raised lowered
  case listed =>
    intro id node other listed found relaxedNode inductionHypothesis lowered raised
    rcases (loose.nullIsValue_eq_true_iff found).mp raised with
      describes | ⟨alternatives, isUnion, child, member, takes⟩
    · have described := relaxedNode.form.inspectsNull_iff.mpr describes
      exact absurd ((strict.nullIsValue_eq_true_iff listed).mpr (.inl described)) lowered
    · have wasUnion := (relaxedNode.form.union_iff _).mpr isUnion
      have childLowered : strict.nullIsValue child ≠ true := fun childRaised =>
        lowered ((strict.nullIsValue_eq_true_iff listed).mpr
          (.inr ⟨alternatives, wasUnion, child, member, .inr childRaised⟩))
      have accepted : loose.Accepts mode child (some .null) := by
        rcases takes with nullable | childRaised
        · exact loose.accepts_null_of_nullable mode nullable
        · exact inductionHypothesis child (wasUnion ▸ member) childLowered childRaised
      rw [loose.accepts_union_null mode found isUnion, if_pos raised]
      exact .inr ⟨child, member, accepted⟩

/-! ## Relaxed schemas -/

/-- A relaxed node accepts null if the node did, provided that its form does. -/
theorem accepts_null (relaxed : strict.Relaxed loose) (mode other : UnionMode) {node looseNode : Node}
    (listed : strict.nodes[id]? = some node) (found : loose.nodes[id]? = some looseNode)
    (behind : (node.form.map (strict.judge mode)).judge .every mode .null = [] →
      (looseNode.form.map (loose.judge other)).judge .every other .null = [])
    (accepted : strict.Accepts mode id (some .null)) : loose.Accepts other id (some .null) := by
  have relaxedNode := relaxed.nodes id node looseNode listed found
  -- Null passes the two gates in different ways only if the union was raised by the relaxation.
  by_cases raised : loose.nullIsValue id = true
  · by_cases wasRaised : strict.nullIsValue id = true
    · rw [strict.accepts_null_iff mode listed, if_pos wasRaised] at accepted
      rw [loose.accepts_null_iff other found, if_pos raised]
      exact accepted.imp relaxedNode.nullable behind
    · exact relaxed.accepts_null_of_raised other id wasRaised raised
  · have wasLowered : strict.nullIsValue id ≠ true := fun was => raised (relaxed.nullIsValue id was)
    rw [strict.accepts_null_iff mode listed, if_neg wasLowered] at accepted
    rw [loose.accepts_null_iff other found, if_neg raised]
    exact accepted.imp relaxedNode.nullable relaxedNode.optional

/-- A relaxed node finds nothing where the node finds nothing. -/
theorem judge_spares (relaxed : strict.Relaxed loose) (mode other : UnionMode) : ∀ id : NodeId,
    Judgement.Spares (strict.judge mode id) (loose.judge other id) := by
  refine relaxed.induction ?missing ?listed
  case missing =>
    intro id missing value nothing
    rw [judge, relaxed.shape_eq_of_missing missing, strict.shape_eq_anything missing]
    exact Shape.judge_anything .every other value
  case listed =>
    intro id node looseNode listed found relaxedNode inductionHypothesis value nothing
    have behind : ∀ value : Value,
        (node.form.map (strict.judge mode)).judge .every mode value = [] →
        (looseNode.form.map (loose.judge other)).judge .every other value = [] := fun value =>
      relaxedNode.form.judge_spares (strict.node_proper listed) inductionHypothesis
    -- The three sorts of values differ in the gate that they have to pass.
    cases value with
    | none =>
        rw [strict.judge_eq mode listed, Judgement.gated_none_eq_nil_iff] at nothing
        rw [loose.judge_eq other found, Judgement.gated_none_eq_nil_iff]
        exact relaxedNode.optional nothing
    | some value =>
        by_cases present : value = .null
        case neg =>
          rw [strict.judge_eq mode listed, Judgement.gated_of_ne_null _ _ _ _ present] at nothing
          rw [loose.judge_eq other found, Judgement.gated_of_ne_null _ _ _ _ present]
          exact behind value nothing
        case pos =>
          subst present
          rw [← accepts_iff] at nothing ⊢
          exact relaxed.accepts_null mode other listed found (behind .null) nothing

end Relaxed

/-- Relaxing a schema never rejects what it accepted: at every node, a value that is there or
absent, null included, is accepted after the relaxation if it was accepted before, whatever the
modes of the two checks.  Where the roots are the same node, so it is with checks of whole values
in any context. -/
theorem relaxed_accepts (relaxed : strict.Relaxed loose) (mode other : UnionMode) :
    (∀ (id : NodeId) (value : Option Value),
      strict.Accepts mode id value → loose.Accepts other id value) ∧
    (loose.root = strict.root → ∀ (options otherOptions : CheckOptions) (value : Option Value),
      strict.interpret mode options value = [] → loose.interpret other otherOptions value = []) := by
  have spares := relaxed.judge_spares mode other
  constructor
  · intro id value accepted
    rw [accepts_iff] at accepted ⊢
    exact spares id value accepted
  · intro sameRoot options otherOptions value accepted
    rw [interpret_eq_nil_iff] at accepted ⊢
    rw [sameRoot]
    exact spares strict.root value accepted

/-- A list of remarks, each a short text or a count, or missing. -/
def remarks : Schema :=
  ⟨#[⟨.leaf (.string ⟨1, 3⟩), true, false, none, none⟩,
      ⟨.leaf (.integer .unbounded), true, false, none, none⟩,
      ⟨.union [0, 1], false, false, none, none⟩,
      ⟨.array 2 ⟨1, 2⟩, true, false, none, none⟩],
    3, by decide, by decide⟩

/-- The list with longer texts and more remarks.  Counts may be null, so remarks have to see null. -/
def relaxedRemarks : Schema :=
  ⟨#[⟨.leaf (.string ⟨0, 8⟩), true, false, none, none⟩,
      ⟨.leaf (.integer .unbounded), true, true, none, none⟩,
      ⟨.union [0, 1], false, false, none, none⟩,
      ⟨.array 2 ⟨0, 4⟩, false, false, none, none⟩],
    3, by decide, by decide⟩

/-- Null in the place of a remark is passed over by the one list, and looked at by the other. -/
theorem relaxed_accepts_remarks :
    remarks.Relaxed relaxedRemarks ∧ relaxedRemarks.root = remarks.root ∧
    remarks.nullIsValue 2 = false ∧ relaxedRemarks.nullIsValue 2 = true ∧
    remarks.interpret .all ⟨"remarks", true⟩ (some (.list [.text "ab", .null])) = [] ∧
    relaxedRemarks.interpret .synthesized {} (some (.list [.text "ab", .null])) = [] := by
  have relaxed : remarks.Relaxed relaxedRemarks := by
    refine ⟨rfl, fun (number : Nat) node other listed found => ?_⟩
    have inside : number < 4 := id_lt_size listed
    obtain rfl | rfl | rfl | rfl : number = 0 ∨ number = 1 ∨ number = 2 ∨ number = 3 := by omega
    all_goals
      cases listed
      cases found
    · exact ⟨.leaf (.string ⟨by decide, by decide⟩), id, id, rfl, rfl⟩
    · exact ⟨.refl _, id, fun _ => rfl, rfl, rfl⟩
    · exact ⟨.refl _, id, id, rfl, rfl⟩
    · exact ⟨.array 2 ⟨by decide, by decide⟩, fun _ => rfl, id, rfl, rfl⟩
  have accepted : remarks.interpret .all ⟨"remarks", true⟩ (some (.list [.text "ab", .null])) = [] := by
    decide
  exact ⟨relaxed, rfl, by decide, by decide, accepted,
    (relaxed_accepts relaxed .all .synthesized).2 rfl _ _ _ accepted⟩

end Schema
end Conformance
