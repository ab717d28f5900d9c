import Conformance.Emission.Nominal
import Conformance.Proofs.Numbered.Walk

namespace Conformance
namespace Nominal

/-!
# Declarations by number

The emission of nominal types is the only walk that compares numbers: a node is the root of a schema
if it has the number of the root.  In the tree the root has a mark instead.  Emission also looks
further down than other walks do.  To tell the alternatives of a union apart it looks at their
fields, and the struct of an alternative is declared where the union is.  So the types of nodes two
steps below are asked for too, and these stand in front as well.
-/

section

variable (schema : Schema) (rootName : Option String)

/-- The declared name of a node.  The root of a schema can be given another. -/
def declaredNameAt (id : NodeId) : Option String :=
  (if id = schema.root then rootName else none) <|> (schema.node id).name

/-- The exact string that a field of an object requires. -/
def literalAt? (tag : String) (id : NodeId) : Option String :=
  match (schema.node id).form with
  | .object fields =>
      match fields.lookup tag with
      | some child =>
          match (schema.node child).form with
          | .leaf (.exact expected) =>
              if (schema.node child).required && !(schema.node child).nullable then some expected
              else none
          | _ => none
      | none => none
  | _ => none

/-- The first field of the first alternative that tells all alternatives apart, and the literals
of the alternatives. -/
def discriminantAt? (alternatives : List NodeId) : Option (String × List String) :=
  match alternatives.head?.map fun id => (schema.node id).form with
  | some (.object fields) =>
      fields.findSome? fun (tag, _) =>
        ((alternatives.mapM (literalAt? schema tag)).filter isDistinct).map fun literals =>
          (tag, literals)
  | _ => none

variable (type : NodeId → Location → Emitting String)

/-- The type of a field of a struct.  An exact string is a plain one there. -/
def fieldTypeAt (id : NodeId) (trail : Location) : Emitting String :=
  match (schema.node id).form with
  | .leaf (.exact _) =>
      if !(schema.node id).required then throw (.optionalExact trail.reverse)
      else if (schema.node id).nullable then return "Option<String>"
      else return "String"
  | _ => type id trail

/-- The lines of the fields of a struct, without the field that is the tag. -/
def structFieldsAt (tag : Option String) : List (String × NodeId) → Location → Emitting String
  | [], _ => return ""
  | (name, child) :: rest, trail => do
      if some name == tag then structFieldsAt tag rest trail
      else
        let type ← fieldTypeAt schema type child (.field name :: trail)
        let others ← structFieldsAt tag rest trail
        return fieldLines name ((schema.node child).header false) type ++ others

/-- Declares a struct, without the field that is the tag. -/
def declareStructAt (name : String) (tag : Option String) (fields : List (String × NodeId))
    (trail : Location) : Emitting Unit :=
  unlessResolved name do
    refuseClash tag fields trail
    let lines ← structFieldsAt schema type tag fields trail
    Emitting.declare name (structText name lines)

/-- The types of the positions of a tuple, the first of them numbered. -/
def positionsAt : List NodeId → Nat → Location → Emitting (List String)
  | [], _, _ => return []
  | child :: rest, index, trail => do
      let first ← type child (.position index :: trail)
      return first :: (← positionsAt rest (index + 1) trail)

/-- Declares the struct of an alternative. -/
def memberAt (structName tag : String) (id : NodeId) (trail : Location) : Emitting Unit :=
  match (schema.node id).form with
  | .object fields => declareStructAt schema type structName (some tag) fields trail
  | _ => throw (.untaggedUnion trail.tail.reverse)

/-- The lines of the variants of an enum, with the literals of their alternatives. -/
def variantsAt (enumName tag : String) :
    List NodeId → List String → Nat → List (String × String) → Location → Emitting String
  | child :: rest, literal :: literals, index, seen, trail => do
      let variant := variantName ((schema.node child).header false) literal
      match seen.lookup variant with
      | some first => throw (.repeatedIdentifier .variant variant first literal trail.reverse)
      | none =>
          let structName := (schema.node child).name.getD variant
          let place : Location := .alternative index :: trail
          if structName = enumName then throw (.memberNamedAfterUnion structName place.reverse)
          else
            memberAt schema type structName tag child place
            let others ←
              variantsAt enumName tag rest literals (index + 1) ((variant, literal) :: seen) trail
            return variantLines literal variant structName ++ others
  | _, _, _, _, _ => return ""

/-- The type of a node apart from its presence. -/
def bareAt (id : NodeId) (trail : Location) : Emitting String :=
  match (schema.node id).form with
  | .leaf scalar => MonadExcept.ofExcept (leafType trail.reverse scalar)
  | .object fields => do
      match declaredNameAt schema rootName id with
      | none => throw (.missingName "object" trail.reverse)
      | some name =>
          declareStructAt schema type name none fields trail
          return name
  | .array item _ => do return "Vec<" ++ (← type item (.items :: trail)) ++ ">"
  | .tuple items => do return tupleType (← positionsAt type items 0 trail)
  | .record value _ => do
      return "std::collections::HashMap<String, " ++ (← type value (.values :: trail)) ++ ">"
  | .union alternatives => do
      match declaredNameAt schema rootName id with
      | none => throw (.missingName "union" trail.reverse)
      | some name =>
          unlessResolved name do
            match discriminantAt? schema alternatives with
            | none => throw (.untaggedUnion trail.reverse)
            | some (tag, literals) =>
                let variants ← variantsAt schema type name tag alternatives literals 0 [] trail
                Emitting.declare name (enumText name tag variants)
          return name

/-- The type of the node of a number. -/
def typeStep (id : NodeId) (type : NodeId → Location → Emitting String) :
    Location → Emitting String := fun trail => do
  return withPresence ((schema.node id).header false) (← bareAt schema rootName type id trail)

end

/-! ## What is looked up in the tree -/

section

variable (schema : Schema) (rootName : Option String)

theorem declaredNameAt_eq (id : NodeId) :
    declaredNameAt schema rootName id = declaredName rootName (schema.shape id).header := by
  rw [declaredNameAt, declaredName, schema.header_shape, Node.header]
  by_cases isRoot : id = schema.root
  · simp only [isRoot, if_true, beq_self_eq_true]
  · simp only [if_neg isRoot, beq_eq_false_iff_ne.mpr isRoot, if_neg Bool.false_ne_true]

theorem lookup_map (tag : String) (fields : List (String × NodeId)) :
    (fields.map fun (name, child) => (name, schema.shape child)).lookup tag =
      (fields.lookup tag).map schema.shape := by
  induction fields with
  | nil => rfl
  | cons field rest inductionHypothesis =>
      rw [List.map_cons, List.lookup_cons, List.lookup_cons, inductionHypothesis]
      cases tag == field.1 <;> rfl

theorem literalAt?_eq (tag : String) (id : NodeId) :
    literalAt? schema tag id = literal? tag (schema.shape id) := by
  rw [literalAt?, literal?, schema.form_shape]
  cases (schema.node id).form with
  | object fields =>
      simp only [Form.map, lookup_map]
      cases fields.lookup tag with
      | none => rfl
      | some child =>
          simp only [Option.map_some, schema.shape_node child]
          cases (schema.node child).form with
          | leaf scalar => cases scalar <;> rfl
          | _ => rfl
  | _ => rfl

theorem discriminantAt?_eq (alternatives : List NodeId) :
    discriminantAt? schema alternatives = discriminant? (alternatives.map schema.shape) := by
  have literals (tag : String) : alternatives.mapM (literalAt? schema tag) =
      (alternatives.map schema.shape).mapM (literal? tag) := by
    rw [List.mapM_map]
    exact congrArg (alternatives.mapM ·) (funext (literalAt?_eq schema tag))
  cases alternatives with
  | nil => rfl
  | cons first rest =>
      simp only [discriminantAt?, discriminant?, literals?, literals, List.map_cons, List.head?_cons,
        Option.map_some, schema.form_shape]
      cases (schema.node first).form with
      | object fields =>
          simp only [Form.map, List.findSome?_map]
          rfl
      | _ => rfl

end

/-! ## What is done at the children -/

section

variable {schema : Schema} {rootName : Option String} {type : NodeId → Location → Emitting String}

/-- The type that is asked for at a number is that of its tree. -/
def Agrees (schema : Schema) (rootName : Option String) (type : NodeId → Location → Emitting String)
    (id : NodeId) : Prop := ∀ trail, type id trail = typeOf rootName (schema.shape id) trail

theorem fieldTypeAt_eq {id : NodeId} (agrees : Agrees schema rootName type id) (trail : Location) :
    fieldTypeAt schema type id trail =
      fieldType (schema.shape id).header (schema.shape id).form trail
        (bare rootName (schema.shape id).header (schema.shape id).form trail) := by
  rw [fieldTypeAt, agrees trail, schema.shape_node]
  cases (schema.node id).form with
  | leaf scalar => cases scalar <;> rfl
  | _ => rfl

theorem structFieldsAt_eq {fields : List (String × NodeId)}
    (agrees : ∀ child ∈ fields.map Prod.snd, Agrees schema rootName type child)
    (tag : Option String) (trail : Location) :
    structFieldsAt schema type tag fields trail =
      structFields rootName tag (fields.map fun (name, child) => (name, schema.shape child)) trail := by
  induction fields with
  | nil => rfl
  | cons field rest inductionHypothesis =>
      rcases field with ⟨name, child⟩
      rw [List.map_cons, List.forall_mem_cons] at agrees
      have here := fieldTypeAt_eq agrees.1 (.field name :: trail)
      rw [schema.shape_node] at here
      simp only [structFieldsAt, List.map_cons, schema.shape_node child, structFields, here,
        inductionHypothesis agrees.2]
      rfl

theorem declareStructAt_eq {fields : List (String × NodeId)}
    (agrees : ∀ child ∈ fields.map Prod.snd, Agrees schema rootName type child)
    (name : String) (tag : Option String) (trail : Location) :
    declareStructAt schema type name tag fields trail =
      unlessResolved name (do
        refuseClash tag (fields.map fun (name, child) => (name, schema.shape child)) trail
        let lines ← structFields rootName tag
          (fields.map fun (name, child) => (name, schema.shape child)) trail
        Emitting.declare name (structText name lines)) := by
  have names : (fieldsWithout tag fields).map Prod.fst =
      (fieldsWithout tag (fields.map fun (name, child) => (name, schema.shape child))).map
        Prod.fst := by
    simp only [fieldsWithout, List.filter_map, List.map_map]
    rfl
  simp only [declareStructAt, structFieldsAt_eq agrees, refuseClash, names]

theorem positionsAt_eq {children : List NodeId}
    (agrees : ∀ child ∈ children, Agrees schema rootName type child) (trail : Location) :
    ∀ index, positionsAt type children index trail =
      positions rootName (children.map schema.shape) index trail := by
  induction children with
  | nil => exact fun _ => rfl
  | cons child rest inductionHypothesis =>
      intro index
      rw [List.forall_mem_cons] at agrees
      simp only [positionsAt, List.map_cons, positions, agrees.1 _, inductionHypothesis agrees.2]

theorem memberAt_eq {id : NodeId}
    (agrees : ∀ child ∈ (schema.node id).form.children, Agrees schema rootName type child)
    (structName tag : String) (trail : Location) :
    memberAt schema type structName tag id trail =
      member rootName structName tag (schema.shape id) trail := by
  rw [memberAt, schema.shape_node]
  revert agrees
  cases (schema.node id).form with
  | object fields =>
      intro agrees
      simp only [declareStructAt_eq agrees, Form.map, member]
  | _ => exact fun _ => rfl

theorem variantsAt_eq {alternatives : List NodeId}
    (agrees : ∀ alternative ∈ alternatives, ∀ child ∈ (schema.node alternative).form.children,
      Agrees schema rootName type child) (enumName tag : String) (trail : Location) :
    ∀ literals index seen,
      variantsAt schema type enumName tag alternatives literals index seen trail =
        variants rootName enumName tag (alternatives.map schema.shape) literals index seen trail := by
  induction alternatives with
  | nil => exact fun _ _ _ => rfl
  | cons alternative rest inductionHypothesis =>
      intro literals index seen
      rw [List.forall_mem_cons] at agrees
      cases literals with
      | nil => rfl
      | cons literal literals =>
          simp only [variantsAt, List.map_cons, variants, memberAt_eq agrees.1,
            inductionHypothesis agrees.2, schema.header_shape, Node.header, variantName] <;> rfl

theorem bareAt_eq {id : NodeId} (agrees : ∀ child < id, Agrees schema rootName type child)
    (trail : Location) :
    bareAt schema rootName type id trail =
      bare rootName (schema.shape id).header (schema.shape id).form trail := by
  have children : ∀ child ∈ (schema.node id).form.children, Agrees schema rootName type child :=
    fun child member => agrees child (schema.child_lt_node member)
  have grandchildren : ∀ child ∈ (schema.node id).form.children,
      ∀ below ∈ (schema.node child).form.children, Agrees schema rootName type below :=
    fun child member below inside => agrees below
      (Nat.lt_trans (schema.child_lt_node inside) (schema.child_lt_node member))
  rw [bareAt, declaredNameAt_eq, schema.form_shape]
  revert children grandchildren
  cases (schema.node id).form with
  | leaf scalar => exact fun _ _ => rfl
  | object fields =>
      intro children _
      simp only [declareStructAt_eq children, Form.map, bare] <;> rfl
  | array item length =>
      intro children _
      simp only [children item List.mem_cons_self _, Form.map, bare]
  | tuple items =>
      intro children _
      have each : ∀ child ∈ items, Agrees schema rootName type child := children
      simp only [positionsAt_eq each, Form.map, bare]
  | record value keys =>
      intro children _
      simp only [children value List.mem_cons_self _, Form.map, bare]
  | union alternatives =>
      intro _ grandchildren
      have each : ∀ alternative ∈ alternatives,
          ∀ child ∈ (schema.node alternative).form.children,
            Agrees schema rootName type child := grandchildren
      simp only [discriminantAt?_eq, variantsAt_eq each, Form.map, bare] <;> rfl

end

end Nominal

namespace Schema

variable (schema : Schema) (rootName : Option String)

/-- The type of a node, by number. -/
def typeAt : NodeId → Location → Emitting String :=
  follow (fun _ => return "") (Nominal.typeStep schema rootName)

theorem typeAt_eq (id : NodeId) (trail : Location) :
    schema.typeAt rootName id trail = Nominal.typeOf rootName (schema.shape id) trail := by
  have each : schema.typeAt rootName id = Nominal.typeOf rootName (schema.shape id) := by
    apply schema.follow_eq (Nominal.typeOf rootName)
    intro id type inFront
    have agrees : ∀ child < id, Nominal.Agrees schema rootName type child :=
      fun child before => congrFun (inFront child before)
    funext trail
    simp only [Nominal.typeStep, Nominal.bareAt_eq agrees]
    rw [schema.shape_node id, Nominal.typeOf]
    rfl
  exact congrFun each trail

/-- The declarations of a schema, by number. -/
def generateNominalAt : Emitting String := do
  let reference ← schema.typeAt rootName schema.root []
  match rootName with
  | some name =>
      if !(← get).contains name then Emitting.declare name (Nominal.aliasText name reference)
  | none =>
      if (← get).definitions.isEmpty then
        throw (.missingName (schema.node schema.root).form.kindName [])
  return (← get).render

theorem generateNominalAt_eq :
    schema.generateNominalAt rootName = Nominal.generate rootName schema := by
  simp only [generateNominalAt, Nominal.generate, Nominal.emit, typeAt_eq, rootShape, node_root] <;>
    rfl

end Schema
end Conformance
