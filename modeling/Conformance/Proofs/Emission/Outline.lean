import Conformance.Proofs.Emission.Plan
import Conformance.Proofs.Emission.Positions
import Conformance.Proofs.Emission.Tags
import Conformance.Proofs.Schema.Tree

namespace Conformance
namespace Nominal

/-!
# The outline of an emission

The emitter of nominal types goes down a tree, registers declarations on the way and
answers with references.  All of that can be told from the tree: what refers to a node,
the text of every declaration, and the plan by which the declarations are registered.  The
emitter carries out this plan and answers with that reference, whatever the registry.

A node without a type has nothing that refers to it.  The empty text stands in its place,
and never gets anywhere, since the plan refuses such a node.
-/

/-! ## Texts -/

/-- The type of a leaf, if it has one. -/
def leafText (scalar : Leaf) : String :=
  match leafType [] scalar with
  | .ok type => type
  | .error _ => ""

/-- The type of a list of items. -/
def vectorOf (item : String) : String := "Vec<" ++ item ++ ">"

/-- The type of a record of values. -/
def mapOf (value : String) : String := "std::collections::HashMap<String, " ++ value ++ ">"

mutual

/-- What refers to a node. -/
def reference (rootName : Option String) : Shape → String
  | .node header form => withPresence header (bareReference rootName header form)

/-- What refers to a node apart from its presence.  Objects and unions are referred to by
their names. -/
def bareReference (rootName : Option String) (header : Header) : Form Shape → String
  | .leaf scalar => leafText scalar
  | .object _ | .union _ => (declaredName rootName header).getD ""
  | .array item _ => vectorOf (reference rootName item)
  | .tuple items => tupleType (references rootName items)
  | .record value _ => mapOf (reference rootName value)

/-- What refers to each of some nodes. -/
def references (rootName : Option String) : List Shape → List String
  | [] => []
  | shape :: rest => reference rootName shape :: references rootName rest

end

/-- The type of a field of a struct.  An exact string is a plain one there. -/
def fieldReference (rootName : Option String) : Shape → String
  | .node header (.leaf (.exact _)) => if header.nullable then "Option<String>" else "String"
  | .node header form => withPresence header (bareReference rootName header form)

/-- The lines of the fields of a struct, in their order, without the field that is the
tag. -/
def structLines (rootName tag : Option String) (fields : List (String × Shape)) : String :=
  String.join ((fieldsWithout tag fields).map fun (name, shape) =>
    fieldLines name shape.header (fieldReference rootName shape))

/-- The declaration of an object as a struct, without the field that is the tag. -/
def structDeclaration (rootName : Option String) (name : String) (tag : Option String)
    (fields : List (String × Shape)) : String :=
  structText name (structLines rootName tag fields)

/-! ## Plans -/

/-- A leaf declares nothing. -/
def leafPlan (scalar : Leaf) (trail : Location) : Plan :=
  match leafType trail.reverse scalar with
  | .ok _ => .nothing
  | .error error => .refuse error

/-- Two fields with one identifier are refused. -/
def clashPlan (tag : Option String) (fields : List (String × Shape)) (trail : Location) : Plan :=
  match clash? Naming.field [] ((fieldsWithout tag fields).map Prod.fst) with
  | some (identifier, first, second) =>
      .refuse (.repeatedIdentifier .field identifier first second trail.reverse)
  | none => .nothing

/-- A struct is registered after its fields, unless it is known. -/
def structPlan (rootName : Option String) (name : String) (tag : Option String)
    (fields : List (String × Shape)) (trail : Location) (parts : Plan) : Plan :=
  .unlessKnown name
    (.inOrder (.inOrder (clashPlan tag fields trail) parts)
      (.register name (structDeclaration rootName name tag fields)))

/-- A field of a struct needs what its type needs.  An exact string needs nothing, but has
to be there. -/
def asField (header : Header) (form : Form Shape) (trail : Location) (plan : Plan) : Plan :=
  match form with
  | .leaf (.exact _) =>
      if header.required then .nothing else .refuse (.optionalExact trail.reverse)
  | _ => plan

mutual

/-- How everything that a type refers to is registered. -/
def typePlan (rootName : Option String) : Shape → Location → Plan
  | .node header form, trail => barePlan rootName header form trail

/-- How everything is registered that a form refers to. -/
def barePlan (rootName : Option String) (header : Header) : Form Shape → Location → Plan
  | .leaf scalar, trail => leafPlan scalar trail
  | .object fields, trail =>
      match declaredName rootName header with
      | none => .refuse (.missingName "object" trail.reverse)
      | some name =>
          structPlan rootName name none fields trail (fieldsPlan rootName none fields trail)
  | .array item _, trail => typePlan rootName item (.items :: trail)
  | .tuple items, trail => positionsPlan rootName items 0 trail
  | .record value _, trail => typePlan rootName value (.values :: trail)
  | .union alternatives, trail =>
      match declaredName rootName header with
      | none => .refuse (.missingName "union" trail.reverse)
      | some name =>
          .unlessKnown name
            (match discriminant? alternatives with
              | none => .refuse (.untaggedUnion trail.reverse)
              | some (tag, literals) =>
                  .inOrder (variantsPlan rootName name tag alternatives literals 0 [] trail)
                    (.register name (EnumDeclaration.ofUnion name tag alternatives literals).text))

/-- How everything is registered that the fields of a struct refer to. -/
def fieldsPlan (rootName tag : Option String) : List (String × Shape) → Location → Plan
  | [], _ => .nothing
  | (name, .node header form) :: rest, trail =>
      if some name == tag then fieldsPlan rootName tag rest trail
      else
        .inOrder
          (asField header form (.field name :: trail)
            (barePlan rootName header form (.field name :: trail)))
          (fieldsPlan rootName tag rest trail)

/-- How everything is registered that the positions of a tuple refer to. -/
def positionsPlan (rootName : Option String) : List Shape → Nat → Location → Plan
  | [], _, _ => .nothing
  | shape :: rest, index, trail =>
      .inOrder (typePlan rootName shape (.position index :: trail))
        (positionsPlan rootName rest (index + 1) trail)

/-- How the structs of the variants of an enum are registered. -/
def variantsPlan (rootName : Option String) (enumName tag : String) :
    List Shape → List String → Nat → List (String × String) → Location → Plan
  | shape :: rest, literal :: literals, index, seen, trail =>
      match seen.lookup (variantName shape.header literal) with
      | some first =>
          .refuse (.repeatedIdentifier .variant (variantName shape.header literal) first literal
            trail.reverse)
      | none =>
          if structName shape.header literal = enumName then
            .refuse (.memberNamedAfterUnion (structName shape.header literal)
              (List.reverse (.alternative index :: trail)))
          else
            .inOrder
              (memberPlan rootName (structName shape.header literal) tag shape
                (.alternative index :: trail))
              (variantsPlan rootName enumName tag rest literals (index + 1)
                ((variantName shape.header literal, literal) :: seen) trail)
  | _, _, _, _, _ => .nothing

/-- How the struct of an alternative is registered. -/
def memberPlan (rootName : Option String) (structName tag : String) : Shape → Location → Plan
  | .node _ (.object fields), trail =>
      structPlan rootName structName (some tag) fields trail
        (fieldsPlan rootName (some tag) fields trail)
  | _, trail => .refuse (.untaggedUnion trail.tail.reverse)

end

/-- How everything is registered that a field of a struct refers to. -/
def fieldPlan (rootName : Option String) : Shape → Location → Plan
  | .node header form, trail => asField header form trail (barePlan rootName header form trail)

/-! ## The emitter carries out its plan -/

section

variable {rootName : Option String} {trail : Location}

/-- The emitter does with a node what the outline says, wherever the node stands. -/
structure Outlined (rootName : Option String) (shape : Shape) : Prop where
  type : ∀ trail, typeOf rootName shape trail =
    (typePlan rootName shape trail).answering (reference rootName shape)
  field : ∀ trail, fieldTypeOf rootName shape trail =
    (fieldPlan rootName shape trail).answering (fieldReference rootName shape)
  member : ∀ structName tag trail, Nominal.member rootName structName tag shape trail =
    (memberPlan rootName structName tag shape trail).perform

theorem leafType_eq (scalar : Leaf) (location : Location) :
    (MonadExcept.ofExcept (leafType location.reverse scalar) : Emitting String) =
      (leafPlan scalar location).answering (leafText scalar) := by
  cases scalar <;> rfl

theorem refuseClash_eq (tag : Option String) (fields : List (String × Shape)) (trail : Location) :
    refuseClash tag fields trail = (clashPlan tag fields trail).perform := by
  rw [refuseClash, clashPlan]
  cases clash? Naming.field [] ((fieldsWithout tag fields).map Prod.fst) <;> rfl

theorem structLines_tag {tag : Option String} {name : String} {shape : Shape}
    {rest : List (String × Shape)} (isTag : some name = tag) :
    structLines rootName tag ((name, shape) :: rest) = structLines rootName tag rest := by
  simp [structLines, fieldsWithout, isTag]

theorem structLines_cons {tag : Option String} {name : String} {shape : Shape}
    {rest : List (String × Shape)} (notTag : some name ≠ tag) :
    structLines rootName tag ((name, shape) :: rest) =
      fieldLines name shape.header (fieldReference rootName shape) ++
        structLines rootName tag rest := by
  simp [structLines, fieldsWithout, notTag, String.join_cons]

/-- The fields of a struct, first to last. -/
theorem structFields_outlined {tag : Option String} {fields : List (String × Shape)}
    (outlined : ∀ shape ∈ fields.map Prod.snd, Outlined rootName shape) :
    structFields rootName tag fields trail =
      (fieldsPlan rootName tag fields trail).answering (structLines rootName tag fields) := by
  induction fields with
  | nil => rfl
  | cons field rest inductionHypothesis =>
      rcases field with ⟨name, ⟨header, form⟩⟩
      rw [List.map_cons, List.forall_mem_cons] at outlined
      have others := inductionHypothesis outlined.2
      rw [structFields_eq, fieldsPlan]
      by_cases isTag : some name = tag
      · rw [if_pos (beq_iff_eq.mpr isTag), if_pos (beq_iff_eq.mpr isTag), structLines_tag isTag]
        exact others
      · rw [if_neg (mt beq_iff_eq.mp isTag), if_neg (mt beq_iff_eq.mp isTag),
          structLines_cons isTag, outlined.1.field, others]
        simp only [Plan.answering_bind, Plan.inOrder_answering]
        rfl

/-- The positions of a tuple, first to last. -/
theorem positions_outlined {shapes : List Shape} {index : Nat}
    (outlined : ∀ shape ∈ shapes, Outlined rootName shape) :
    positions rootName shapes index trail =
      (positionsPlan rootName shapes index trail).answering (references rootName shapes) := by
  induction shapes generalizing index with
  | nil => rfl
  | cons shape rest inductionHypothesis =>
      rw [List.forall_mem_cons] at outlined
      rw [positions, positionsPlan, outlined.1.type, inductionHypothesis outlined.2]
      simp only [Plan.answering_bind, Plan.inOrder_answering]
      rfl

/-- The variants of an enum, first to last. -/
theorem variants_outlined {enumName tag : String} {alternatives : List Shape}
    {literals : List String} {index : Nat} {seen : List (String × String)}
    (outlined : ∀ shape ∈ alternatives, Outlined rootName shape) :
    variants rootName enumName tag alternatives literals index seen trail =
      (variantsPlan rootName enumName tag alternatives literals index seen trail).answering
        (EnumDeclaration.ofUnion enumName tag alternatives literals).lines := by
  induction alternatives generalizing literals index seen with
  | nil => cases literals <;> rfl
  | cons shape rest inductionHypothesis =>
      cases literals with
      | nil => rfl
      | cons literal literals =>
          rw [List.forall_mem_cons] at outlined
          rw [variants, variantsPlan]
          cases seen.lookup (variantName shape.header literal) with
          | some first => rfl
          | none =>
              by_cases same : structName shape.header literal = enumName
              · have thrown : shape.header.name.getD (variantName shape.header literal) = enumName :=
                  same
                simp only [if_pos same, if_pos thrown]
                rfl
              · have differs : ¬ shape.header.name.getD (variantName shape.header literal) = enumName :=
                  same
                have linesOf : (EnumDeclaration.ofUnion enumName tag (shape :: rest)
                    (literal :: literals)).lines =
                    variantLines literal (variantName shape.header literal)
                      (structName shape.header literal) ++
                      (EnumDeclaration.ofUnion enumName tag rest literals).lines :=
                  String.join_cons
                simp only [if_neg same, if_neg differs, outlined.1.member,
                  inductionHypothesis outlined.2, linesOf, Plan.answering_bind,
                  Plan.inOrder_answering]
                rfl

/-- A struct is registered after its fields. -/
theorem struct_outlined {name : String} {tag : Option String} {fields : List (String × Shape)}
    (outlined : ∀ shape ∈ fields.map Prod.snd, Outlined rootName shape) :
    unlessResolved name (declareStruct rootName name tag fields trail) =
      (structPlan rootName name tag fields trail (fieldsPlan rootName tag fields trail)).perform := by
  rw [declareStruct, structFields_outlined outlined, refuseClash_eq]
  simp only [Plan.answering_bind, structPlan, Plan.perform, bind_assoc]
  rfl

/-- An enum is registered after the structs of its variants. -/
theorem enum_outlined {name : String} {alternatives : List Shape}
    (outlined : ∀ shape ∈ alternatives, Outlined rootName shape) :
    declareEnum rootName name alternatives trail =
      (match discriminant? alternatives with
        | none => Plan.refuse (.untaggedUnion trail.reverse)
        | some (tag, literals) =>
            .inOrder (variantsPlan rootName name tag alternatives literals 0 [] trail)
              (.register name
                (EnumDeclaration.ofUnion name tag alternatives literals).text)).perform := by
  rw [declareEnum]
  cases discriminant? alternatives with
  | none => rfl
  | some tagged =>
      rcases tagged with ⟨tag, literals⟩
      simp only [variants_outlined outlined, Plan.answering_bind, Plan.perform]
      rfl

/-- A form, if the emitter does with its children what the outline says. -/
theorem bare_outlined {header : Header} {form : Form Shape}
    (outlined : ∀ shape ∈ form.children, Outlined rootName shape) :
    bare rootName header form trail =
      (barePlan rootName header form trail).answering (bareReference rootName header form) := by
  cases form with
  | leaf scalar => rw [bare, barePlan, bareReference, leafType_eq]
  | object fields =>
      rw [bare, barePlan, bareReference]
      cases declaredName rootName header with
      | none => rfl
      | some name =>
          change (do unlessResolved name (declareStruct rootName name none fields trail); return name) = _
          rw [struct_outlined outlined]
          rfl
  | array item length =>
      have itemOutlined := outlined item List.mem_cons_self
      rw [bare, itemOutlined.type, Plan.answering_bind]
      rfl
  | tuple items =>
      have itemsOutlined : ∀ shape ∈ items, Outlined rootName shape := outlined
      rw [bare, positions_outlined itemsOutlined, Plan.answering_bind]
      rfl
  | record value keys =>
      have valueOutlined := outlined value List.mem_cons_self
      rw [bare, valueOutlined.type, Plan.answering_bind]
      rfl
  | union alternatives =>
      rw [bare, barePlan, bareReference]
      cases declaredName rootName header with
      | none => rfl
      | some name =>
          change (do unlessResolved name (declareEnum rootName name alternatives trail); return name) = _
          have alternativesOutlined : ∀ shape ∈ alternatives, Outlined rootName shape := outlined
          rw [enum_outlined alternativesOutlined]
          rfl

/-- The emitter does with every node what the outline says. -/
theorem shape_outlined (rootName : Option String) (shape : Shape) : Outlined rootName shape := by
  induction shape using Shape.induction with
  | node header form outlined =>
      have typeOutlined : ∀ trail, typeOf rootName (.node header form) trail =
          (typePlan rootName (.node header form) trail).answering
            (reference rootName (.node header form)) := by
        intro trail
        rw [typeOf, bare_outlined outlined, Plan.answering_bind]
        rfl
      refine ⟨typeOutlined, ?field, ?member⟩
      case field =>
        intro trail
        by_cases exact : ∃ expected, form = .leaf (.exact expected)
        case pos =>
          rcases exact with ⟨expected, rfl⟩
          rcases header with ⟨required, nullable, name, rename, isEntry⟩
          cases required <;> cases nullable <;> rfl
        case neg =>
          have inexact : ∀ expected, form ≠ .leaf (.exact expected) :=
            fun expected same => exact ⟨expected, same⟩
          have samePlan : fieldPlan rootName (.node header form) trail =
              typePlan rootName (.node header form) trail := by
            rw [fieldPlan, typePlan]
            unfold asField
            split
            case h_1 expected => exact absurd rfl (inexact expected)
            case h_2 => rfl
          have sameReference : fieldReference rootName (.node header form) =
              reference rootName (.node header form) := by
            rw [fieldReference, reference]
            exact inexact
          rw [Position.fieldTypeOf_eq_typeOf inexact, samePlan, sameReference, typeOutlined]
      case member =>
        intro structName tag trail
        cases form with
        | object fields => exact struct_outlined outlined
        | _ => rfl

end

/-- An emission carries out the plan of its node and answers with what refers to it. -/
theorem emit_eq (rootName : Option String) (shape : Shape) :
    emit rootName shape = (typePlan rootName shape []).answering (reference rootName shape) :=
  (shape_outlined rootName shape).type []

end Nominal
end Conformance
