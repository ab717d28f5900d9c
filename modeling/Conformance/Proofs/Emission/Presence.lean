import Conformance.Proofs.Emission.Positions
import Conformance.Proofs.Emission.Tags

namespace Conformance

/-!
# Absence and null in nominal types

A node accepts the absence of a value, or null, by one of its flags or by describing
null itself.  The type that is written for the node looks at the flags, and the leaves
that describe null have types with room for it.  So far the two agree, wherever the type
is written.

They disagree about unions that leave null to their alternatives.  A union that is
required and not nullable accepts null as soon as one of its alternatives is nullable,
but its type is the bare name of an enum, and no variant of the enum stands for null.
-/

namespace Shape

/-- A union whose own flags say nothing about null, and which leaves null to an alternative. -/
def DefersNull : Shape → Prop
  | .node header form =>
      header.required = true ∧ header.nullable = false ∧
        ∃ alternatives, form = .union alternatives ∧ alternativesTakeNull alternatives = true

/-- A node that is required and not nullable accepts neither absence nor null, unless it
describes null or leaves it to an alternative. -/
theorem inspectsNull_of_accepts {header : Header} {form : Form Shape}
    (required : header.required = true) (nullable : header.nullable = false)
    (settled : ¬ (node header form).DefersNull) {counting : Counting} {mode : UnionMode}
    {value : Option Value} (absent : value = none ∨ value = some .null)
    (accepted : (node header form).judge counting mode value = []) :
    ∃ scalar : Leaf, form = .leaf scalar ∧ scalar.inspectsNull = true := by
  rw [judge_node, required, nullable] at accepted
  rcases absent with rfl | rfl
  · cases accepted
  · have raised : Form.nullIsValue form = true := by
      cases nullIsValue : Form.nullIsValue form with
      | true => rfl
      | false =>
          rw [nullIsValue] at accepted
          cases accepted
    cases form with
    | leaf scalar => exact ⟨scalar, rfl, raised⟩
    | union alternatives => exact absurd ⟨required, nullable, alternatives, rfl, raised⟩ settled
    | _ => cases raised

end Shape

namespace Nominal

/-- A type with room for the absence of a value. -/
def AdmitsAbsence (type : String) : Prop :=
  type = "()" ∨ type = "serde_json::Value" ∨ ∃ inner, type = "Option<" ++ inner ++ ">"

/-- The flags of a node make room in its type. -/
theorem withPresence_admits {header : Header} (type : String)
    (flagged : header.required = false ∨ header.nullable = true) :
    AdmitsAbsence (withPresence header type) := by
  refine .inr (.inr ⟨type, ?_⟩)
  rw [withPresence, if_pos]
  rcases flagged with optional | nullable
  · rw [optional]
    rfl
  · rw [nullable, Bool.or_true]

/-- The leaves that describe null have types with room for it. -/
theorem leafType_admits {location : Location} {scalar : Leaf} {type : String}
    (inspects : scalar.inspectsNull = true) (written : leafType location scalar = .ok type) :
    AdmitsAbsence type := by
  cases scalar with
  | null => exact .inl (Except.ok.inj written).symm
  | undefined => exact .inl (Except.ok.inj written).symm
  | unknown => exact .inr (.inl (Except.ok.inj written).symm)
  | _ => cases inspects

namespace Position

variable {rootName : Option String}

/-- An exact string that is a field is a plain string, or one that may be missing if the
field is nullable. -/
theorem Writes.exact {header : Header} {expected : String} {trail : Location}
    {registry : Registry} {type : String}
    (writes : Writes rootName ⟨.node header (.leaf (.exact expected)), trail, registry, true⟩ type) :
    header.required = true ∧
      type = if header.nullable then "Option<String>" else "String" := by
  rcases writes with ⟨after, answers⟩
  have fieldAnswers : (fieldTypeOf rootName (.node header (.leaf (.exact expected))) trail).Answers
      registry type after := answers
  rw [fieldTypeOf, fieldType] at fieldAnswers
  cases required : header.required with
  | false =>
      rw [required] at fieldAnswers
      exact absurd fieldAnswers Emitting.not_answers_throw
  | true =>
      rw [required] at fieldAnswers
      cases nullable : header.nullable with
      | true =>
          rw [nullable] at fieldAnswers
          exact ⟨rfl, (Emitting.answers_pure.mp fieldAnswers).1⟩
      | false =>
          rw [nullable] at fieldAnswers
          exact ⟨rfl, (Emitting.answers_pure.mp fieldAnswers).1⟩

/-- At any position, what is written has room for absence if the node accepts absence or
null without deferring to an alternative. -/
theorem Writes.admits {position : Position} {type : String}
    (writes : position.Writes rootName type) (settled : ¬ position.shape.DefersNull)
    {counting : Counting} {mode : UnionMode} {value : Option Value}
    (absent : value = none ∨ value = some .null)
    (accepted : position.shape.judge counting mode value = []) : AdmitsAbsence type := by
  rcases position with ⟨⟨header, form⟩, trail, registry, isField⟩
  by_cases flagged : header.required = false ∨ header.nullable = true
  case pos =>
    by_cases exact : ∃ expected, form = .leaf (.exact expected)
    case pos =>
      rcases exact with ⟨expected, rfl⟩
      cases isField with
      | false =>
          rcases writes with ⟨_, answers⟩
          rcases typeOf_answers.mp answers with ⟨_, written, _⟩
          cases (bare_leaf.mp written).1
      | true =>
          rcases writes.exact with ⟨required, rfl⟩
          have nullable := flagged.resolve_left (by simp [required])
          exact .inr (.inr ⟨"String", by rw [nullable]; rfl⟩)
    case neg =>
      rcases writes.bare (fun expected same => exact ⟨expected, same⟩) with ⟨inner, _, _, rfl⟩
      exact withPresence_admits inner flagged
  case neg =>
    -- Without flags only a leaf that describes null accepts it, and an exact string does not.
    rw [not_or, Bool.not_eq_false, Bool.not_eq_true] at flagged
    rcases Shape.inspectsNull_of_accepts flagged.1 flagged.2 settled absent accepted with
      ⟨scalar, rfl, inspects⟩
    have inexact : ∀ expected, Form.leaf scalar ≠ (.leaf (.exact expected) : Form Shape) := by
      rintro expected same
      cases same
      cases inspects
    rcases writes.bare inexact with ⟨inner, _, answers, rfl⟩
    have plain : withPresence header inner = inner := by
      rw [withPresence, flagged.1, flagged.2]
      rfl
    rw [plain]
    exact leafType_admits inspects (bare_leaf.mp answers).1

/-- A union that defers null is written by its bare name. -/
theorem Writes.name_of_defersNull {position : Position} {type : String}
    (writes : position.Writes rootName type) (defers : position.shape.DefersNull) :
    declaredName rootName position.shape.header = some type := by
  rcases position with ⟨⟨header, form⟩, trail, registry, isField⟩
  rcases defers with ⟨required, nullable, alternatives, rfl, _⟩
  rcases writes.bare (by simp) with ⟨name, _, answers, rfl⟩
  rw [withPresence, required, nullable]
  exact (bare_union.mp answers).1

end Position
end Nominal

namespace Schema

open Nominal

/-- An emission that answers has written a type at every position it came to.  Where the
node of the position accepts absence or null, the type has room for it, unless the node is
a union that defers null to an alternative and is written by its bare name. -/
theorem written_types_admit_absence (schema : Schema) {rootName : Option String} {id : NodeId}
    {registryMode : RegistryMode} {type : String} {after : Registry}
    (emitted : (emit rootName (schema.shape id)).Answers (.empty registryMode) type after)
    {position : Position}
    (reached : Position.Reaches rootName (.top (schema.shape id) (.empty registryMode)) position) :
    ∃ node written, position.shape = schema.shape node ∧ position.Writes rootName written ∧
      ∀ (mode : UnionMode) (value : Option Value), value = none ∨ value = some .null →
        schema.Accepts mode node value →
        AdmitsAbsence written ∨
          position.shape.DefersNull ∧
            declaredName rootName position.shape.header = some written := by
  rcases reached.node with ⟨node, tree⟩
  rcases reached.writes ⟨after, emitted⟩ with ⟨written, writes⟩
  refine ⟨node, written, tree, writes, ?_⟩
  intro mode value absent accepted
  by_cases settled : position.shape.DefersNull
  · exact .inr ⟨settled, writes.name_of_defersNull settled⟩
  · have judged := (schema.accepts_iff mode value node).mp accepted
    rw [judge, ← tree] at judged
    exact .inl (writes.admits settled absent judged)

/-- An event that may or may not have a date. -/
def appointment : Schema :=
  ⟨#[⟨.leaf .date, true, true, none, none⟩,
      ⟨.object [("due", 0)], true, false, some "Appointment", none⟩],
    1, by decide, by decide⟩

/-- The date of an appointment may be null, and its field has room for that. -/
theorem written_types_admit_absence_appointment :
    ((emit none (appointment.shape 1)).run (.empty .strict)).1 = .ok "Appointment" ∧
    appointment.Accepts .all 0 (some .null) ∧
    ∃ written, Position.Writes none
        ⟨appointment.shape 0, [.field "due"], .empty .strict, true⟩ written ∧
      AdmitsAbsence written := by
  have emitted : ((emit none (appointment.shape 1)).run (.empty .strict)).1 = .ok "Appointment" := by
    decide +kernel
  have accepted : appointment.Accepts .all 0 (some .null) := by decide +kernel
  have answers := Prod.ext emitted
    (Eq.refl ((emit none (appointment.shape 1)).run (.empty .strict)).2)
  have root : appointment.nodes[1]? = some appointment.nodes[1] := rfl
  have date : appointment.nodes[0]? = some appointment.nodes[0] := rfl
  have tree : appointment.shape 1 = .node ⟨true, false, some "Appointment", none, true⟩
      (.object ([] ++ [("due", appointment.shape 0)])) := appointment.shape_eq root
  have below : Position.Below none (.top (appointment.shape 1) (.empty .strict))
      ⟨appointment.shape 0, [.field "due"], .empty .strict, true⟩ := by
    rw [Position.top, tree]
    exact .field rfl rfl (structFields_nil.mpr ⟨rfl, rfl⟩)
  rcases written_types_admit_absence appointment answers (.single below) with
    ⟨node, written, same, writes, admits⟩
  refine ⟨emitted, accepted, written, writes, ?_⟩
  have atNode : appointment.Accepts .all node (some .null) := by
    rw [Accepts, ← same]
    exact accepted
  have settled : ¬ (appointment.shape 0).DefersNull := by
    rw [appointment.shape_eq date]
    rintro ⟨_, nullable, _⟩
    cases nullable
  exact (admits .all _ (.inr rfl) atNode).resolve_right fun defers => settled defers.1

/-- A union that is neither optional nor nullable accepts null for the sake of its first
alternative, but null has no room in the type that is written for it. -/
theorem events_take_null :
    ((emit none (events.shape 5)).run (.empty .strict)).1 = .ok "Event" ∧
    events.Accepts .all 5 (some .null) ∧ events.Accepts .synthesized 5 (some .null) ∧
    ¬ AdmitsAbsence "Event" := by
  refine ⟨by decide +kernel, by decide +kernel, by decide +kernel, ?_⟩
  rintro (unit | anything | ⟨inner, optional⟩)
  · exact absurd unit (by decide)
  · exact absurd anything (by decide)
  · have letters := congrArg String.toList optional
    rw [String.toList_append, String.toList_append] at letters
    cases letters

end Schema
end Conformance
