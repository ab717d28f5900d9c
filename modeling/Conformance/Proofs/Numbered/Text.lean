import Conformance.Emission.Authoring
import Conformance.Emission.Structural
import Conformance.Proofs.Numbered.Walk

namespace Conformance

/-!
# Texts by number

Authoring text and types of TypeScript are put together from the texts of the children of a node,
which are asked for by number here and in the tree otherwise.  Neither kind of text says which node
is the root, except for the name that types are declared under.
-/

/-! ## Authoring text -/

namespace Authoring

section

variable (text : NodeId → Nat → String) (level : Nat)

/-- The lines of the fields of an object. -/
def renderFieldsAt : List (String × NodeId) → String
  | [] => ""
  | (name, child) :: rest =>
      indent level ++ key name ++ ": " ++ text child level ++ ",\n" ++ renderFieldsAt rest

/-- The text of a node without its presence and names. -/
def renderFormAt : Form NodeId → String
  | .leaf scalar => leafCall scalar
  | .object [] => "object(\x7b\x7d)"
  | .object (field :: fields) =>
      "object(\x7b\n" ++ renderFieldsAt text (level + 1) (field :: fields) ++ indent level ++ "\x7d)"
  | .array item length => call "array" [text item level] (countOptions "min" "max" length)
  | .tuple items => "tuple([" ++ ", ".intercalate (items.map fun item => text item level) ++ "])"
  | .record value keys => call "record" [text value level] (countOptions "min" "max" keys)
  | .union alternatives =>
      "union([" ++ ", ".intercalate (alternatives.map fun child => text child level) ++ "])"

end

/-- The text of the node of a number. -/
def renderStep (schema : Schema) (id : NodeId) (text : NodeId → Nat → String) : Nat → String :=
  fun level =>
    let node := schema.node id
    decorate (node.header false) (Node.defaultRequired node.form) (renderFormAt text level node.form)

section

variable (schema : Schema) {text : NodeId → Nat → String}

theorem renderAll_eq {children : List NodeId} (level : Nat)
    (same : ∀ child ∈ children, text child level = render level (schema.shape child)) :
    (children.map fun child => text child level) = renderAll level (children.map schema.shape) := by
  induction children with
  | nil => rfl
  | cons child rest inductionHypothesis =>
      rw [List.forall_mem_cons] at same
      rw [List.map_cons, List.map_cons, renderAll, same.1, inductionHypothesis same.2]

theorem renderFieldsAt_eq {fields : List (String × NodeId)} (level : Nat)
    (same : ∀ child ∈ fields.map Prod.snd, text child level = render level (schema.shape child)) :
    renderFieldsAt text level fields =
      renderFields level (fields.map fun (name, child) => (name, schema.shape child)) := by
  induction fields with
  | nil => rfl
  | cons field rest inductionHypothesis =>
      rw [List.map_cons, List.forall_mem_cons] at same
      rw [renderFieldsAt, List.map_cons, renderFields, same.1, inductionHypothesis same.2]

theorem renderFormAt_eq {form : Form NodeId}
    (same : ∀ child ∈ form.children, ∀ level, text child level = render level (schema.shape child))
    (level : Nat) : renderFormAt text level form = renderForm level (form.map schema.shape) := by
  cases form with
  | leaf scalar => rfl
  | object fields =>
      cases fields with
      | nil => rfl
      | cons field fields =>
          have lines := renderFieldsAt_eq schema (level + 1) fun child member =>
            same child member (level + 1)
          rw [renderFormAt, lines]
          rfl
  | array item length => simp only [renderFormAt, same item List.mem_cons_self, Form.map, renderForm]
  | tuple items =>
      have texts : (items.map fun item => text item level) = renderAll level (items.map schema.shape) :=
        renderAll_eq schema level fun child member => same child member level
      simp only [renderFormAt, texts, Form.map, renderForm]
  | record value keys => simp only [renderFormAt, same value List.mem_cons_self, Form.map, renderForm]
  | union alternatives =>
      have texts : (alternatives.map fun child => text child level) =
          renderAll level (alternatives.map schema.shape) :=
        renderAll_eq schema level fun child member => same child member level
      simp only [renderFormAt, texts, Form.map, renderForm]

end

end Authoring

/-! ## Types of TypeScript -/

namespace Structural

section

variable (type : NodeId → Nat → String) (level : Nat)

/-- The lines of the properties of an object. -/
def propertiesAt : List (String × NodeId) → String
  | [] => ""
  | (name, child) :: rest =>
      indent level ++ key name ++ ": " ++ type child level ++ ";\n" ++ propertiesAt rest

/-- The expression of a node without the alternatives of its presence. -/
def bareAt : Form NodeId → String
  | .leaf scalar => leafType scalar
  | .object [] => "\x7b\x7d"
  | .object (field :: fields) =>
      "\x7b\n" ++ propertiesAt type (level + 1) (field :: fields) ++ indent level ++ "\x7d"
  | .array item length => listType (type item level) length
  | .tuple items => "[" ++ ", ".intercalate (items.map fun item => type item level) ++ "]"
  | .record value _ => "Record<string, " ++ type value level ++ ">"
  | .union alternatives => " | ".intercalate (alternatives.map fun child => type child level)

end

/-- The expression of the node of a number. -/
def expressionStep (schema : Schema) (id : NodeId) (type : NodeId → Nat → String) : Nat → String :=
  fun level => withPresence ((schema.node id).header false) (bareAt type level (schema.node id).form)

section

variable (schema : Schema) {type : NodeId → Nat → String}

theorem expressions_eq {children : List NodeId} (level : Nat)
    (same : ∀ child ∈ children, type child level = expression level (schema.shape child)) :
    (children.map fun child => type child level) = expressions level (children.map schema.shape) := by
  induction children with
  | nil => rfl
  | cons child rest inductionHypothesis =>
      rw [List.forall_mem_cons] at same
      rw [List.map_cons, List.map_cons, expressions, same.1, inductionHypothesis same.2]

theorem propertiesAt_eq {fields : List (String × NodeId)} (level : Nat)
    (same : ∀ child ∈ fields.map Prod.snd, type child level = expression level (schema.shape child)) :
    propertiesAt type level fields =
      properties level (fields.map fun (name, child) => (name, schema.shape child)) := by
  induction fields with
  | nil => rfl
  | cons field rest inductionHypothesis =>
      rw [List.map_cons, List.forall_mem_cons] at same
      rw [propertiesAt, List.map_cons, properties, same.1, inductionHypothesis same.2]

theorem bareAt_eq {form : Form NodeId}
    (same : ∀ child ∈ form.children, ∀ level, type child level = expression level (schema.shape child))
    (level : Nat) : bareAt type level form = bare level (form.map schema.shape) := by
  cases form with
  | leaf scalar => rfl
  | object fields =>
      cases fields with
      | nil => rfl
      | cons field fields =>
          have lines := propertiesAt_eq schema (level + 1) fun child member =>
            same child member (level + 1)
          exact congrArg (fun lines => "\x7b\n" ++ lines ++ indent level ++ "\x7d") lines
  | array item length =>
      exact congrArg (fun type => listType type length) (same item List.mem_cons_self level)
  | tuple items =>
      have types : (items.map fun item => type item level) = expressions level (items.map schema.shape) :=
        expressions_eq schema level fun child member => same child member level
      exact congrArg (fun types => "[" ++ ", ".intercalate types ++ "]") types
  | record value keys =>
      exact congrArg (fun type => "Record<string, " ++ type ++ ">") (same value List.mem_cons_self level)
  | union alternatives =>
      have types : (alternatives.map fun child => type child level) =
          expressions level (alternatives.map schema.shape) :=
        expressions_eq schema level fun child member => same child member level
      exact congrArg (fun types => " | ".intercalate types) types

end

end Structural

namespace Schema

variable (schema : Schema)

/-- The authoring text of a node, by number. -/
def renderAt : NodeId → Nat → String := follow (fun _ => "") (Authoring.renderStep schema)

theorem renderAt_eq (id : NodeId) (level : Nat) :
    schema.renderAt id level = Authoring.render level (schema.shape id) := by
  have each : schema.renderAt id = fun level => Authoring.render level (schema.shape id) := by
    apply schema.follow_eq fun shape level => Authoring.render level shape
    intro id text inFront
    have same : ∀ child ∈ (schema.node id).form.children, ∀ level,
        text child level = Authoring.render level (schema.shape child) := fun child member =>
      congrFun (inFront child (schema.child_lt_node member))
    funext level
    simp only [Authoring.renderStep, Authoring.renderFormAt_eq schema same, shape_node,
      Authoring.render, Node.defaultRequired_map]
    rfl
  exact congrFun each level

/-- The expression of a node, by number. -/
def expressionAt : NodeId → Nat → String := follow (fun _ => "") (Structural.expressionStep schema)

theorem expressionAt_eq (id : NodeId) (level : Nat) :
    schema.expressionAt id level = Structural.expression level (schema.shape id) := by
  have each : schema.expressionAt id = fun level => Structural.expression level (schema.shape id) := by
    apply schema.follow_eq fun shape level => Structural.expression level shape
    intro id type inFront
    have same : ∀ child ∈ (schema.node id).form.children, ∀ level,
        type child level = Structural.expression level (schema.shape child) := fun child member =>
      congrFun (inFront child (schema.child_lt_node member))
    funext level
    simp only [Structural.expressionStep, Structural.bareAt_eq schema same, shape_node,
      Structural.expression]
    rfl
  exact congrFun each level

/-- The types of TypeScript of a schema, by number. -/
def generateStructuralAt (rootName : Option String) : Emitting String := do
  match rootName <|> (schema.node schema.root).name with
  | none => return schema.expressionAt schema.root 0
  | some name =>
      if !(← Emitting.resolves name) then
        Emitting.declare name (Structural.declaration name (schema.expressionAt schema.root 0))
      return (← get).render

theorem generateStructuralAt_eq (rootName : Option String) :
    schema.generateStructuralAt rootName = Structural.generate rootName schema := by
  have named : schema.rootShape.header.name = (schema.node schema.root).name := by
    rw [rootShape, header_shape]
    rfl
  simp only [generateStructuralAt, Structural.generate, expressionAt_eq, named]
  rfl

end Schema
end Conformance
