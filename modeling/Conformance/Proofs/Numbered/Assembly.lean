import Conformance.Program.Assembly
import Conformance.Proofs.Numbered.Check

namespace Conformance

/-!
# Assembly by number

The block of a node is assembled here from its number.  Slots, tables and positions do not come into
the comparison with assembly from the tree: at every node both do the same one after another, given
that they do at the children, and so they hand on the same state.
-/

namespace Assembler

/-- What is assembled for a number, at a start and from a slot. -/
abbrev Laying : Type := Nat → Nat → Assembler (List Op)

section

variable (mode : UnionMode) (budget : Nat) (lay : NodeId → Laying)

/-- The fields of an object. -/
def fieldsAt : List (String × NodeId) → Nat → Nat → Assembler (List Op)
  | [], _, _ => return []
  | (key, child) :: rest, start, source => do
      let target ← Assembler.slot
      let name ← string key
      reserve budget start
      let block ← lay child (start + 1) target
      let others ← fieldsAt rest (start + 1 + block.length) source
      return .field source target name :: block ++ others

/-- The positions of a tuple, the first of them numbered. -/
def positionsAt : List NodeId → Nat → Nat → Nat → Assembler (List Op)
  | [], _, _, _ => return []
  | child :: rest, position, start, source => do
      let target ← Assembler.slot
      reserve budget start
      let block ← lay child (start + 1) target
      let others ← positionsAt rest (position + 1) (start + 1 + block.length) source
      return .element source target position :: block ++ others

/-- The blocks of the alternatives of a union. -/
def alternativesAt : List NodeId → Nat → Nat → Assembler (List (List Op))
  | [], _, _ => return []
  | child :: rest, start, slot => do
      reserve budget start
      let block ← lay child (start + 1) slot
      reserve budget (start + 1 + block.length)
      let others ← alternativesAt rest (start + 2 + block.length) slot
      return block :: others

/-- The operations of a node behind its gate. -/
def bodyAt : Form NodeId → Nat → Nat → Assembler (List Op)
  | .leaf scalar, start, slot => leaf budget start slot scalar
  | .object children, start, slot => do
      let notObject ← template .notObject
      reserve budget start
      let block ← fieldsAt budget lay children (start + 1) slot
      return .object slot notObject (start + 1 + block.length) :: block
  | .array item length, start, slot => do
      let notArray ← template .notArray
      let length ← count length "items"
      reserve budget start
      let cursor ← cursor
      reserve budget (start + 1)
      let target ← Assembler.slot
      reserve budget (start + 2)
      let block ← lay item (start + 3) target
      let done := start + 4 + block.length
      reserve budget (start + 3 + block.length)
      return .array slot notArray length done :: .items slot cursor ::
        .next slot cursor target done :: block ++ [.jump (start + 2)]
  | .tuple children, start, slot => do
      let notArray ← template .notArray
      let wrongLength ← template (.tupleArity children.length)
      reserve budget start
      let block ← positionsAt budget lay children 0 (start + 1) slot
      return .tuple slot notArray children.length wrongLength (start + 1 + block.length) :: block
  | .record value keys, start, slot => do
      let notObject ← template .notObject
      let keys ← count keys "keys"
      reserve budget start
      let cursor ← cursor
      reserve budget (start + 1)
      let target ← Assembler.slot
      reserve budget (start + 2)
      let block ← lay value (start + 3) target
      let done := start + 4 + block.length
      reserve budget (start + 3 + block.length)
      return .record slot notObject keys done :: .entries slot cursor ::
        .next slot cursor target done :: block ++ [.jump (start + 2)]
  | .union children, start, slot => do
      let mismatch ← template (.unionMismatch children.length)
      reserve budget start
      let blocks ← alternativesAt budget lay children (start + 1) slot
      let closing := start + 1 + sizeAlternatives blocks
      reserve budget closing
      return .openUnion (mode == .synthesized) ::
        layAlternatives (closing + 1) (start + 1) blocks ++ [.closeUnion slot mismatch]

/-- The block of the node of a number. -/
def nodeStep (schema : Schema) (id : NodeId) (lay : NodeId → Laying) : Laying := fun start slot => do
  let node := schema.node id
  let missing ← template .required
  reserve budget start
  let block ← bodyAt mode budget lay node.form (start + 1) slot
  return .gate slot node.required node.nullable (schema.nullIsValueAt id) missing
    (start + 1 + block.length) :: block

end

/-! ## What is done at the children -/

section

variable {mode : UnionMode} {budget : Nat} {lay : NodeId → Laying} (schema : Schema)

theorem fieldsAt_eq {children : List (String × NodeId)}
    (same : ∀ child ∈ children.map Prod.snd, lay child = node mode budget (schema.shape child))
    (source : Nat) : ∀ start,
    fieldsAt budget lay children start source =
      fields mode budget (children.map fun (key, child) => (key, schema.shape child)) start source := by
  induction children with
  | nil => exact fun _ => rfl
  | cons field rest inductionHypothesis =>
      intro start
      rw [List.map_cons, List.forall_mem_cons] at same
      simp only [fieldsAt, List.map_cons, fields, same.1, inductionHypothesis same.2]

theorem positionsAt_eq {children : List NodeId}
    (same : ∀ child ∈ children, lay child = node mode budget (schema.shape child))
    (source : Nat) : ∀ position start,
    positionsAt budget lay children position start source =
      positions mode budget (children.map schema.shape) position start source := by
  induction children with
  | nil => exact fun _ _ => rfl
  | cons child rest inductionHypothesis =>
      intro position start
      rw [List.forall_mem_cons] at same
      simp only [positionsAt, List.map_cons, positions, same.1, inductionHypothesis same.2]

theorem alternativesAt_eq {children : List NodeId}
    (same : ∀ child ∈ children, lay child = node mode budget (schema.shape child))
    (slot : Nat) : ∀ start,
    alternativesAt budget lay children start slot =
      alternatives mode budget (children.map schema.shape) start slot := by
  induction children with
  | nil => exact fun _ => rfl
  | cons child rest inductionHypothesis =>
      intro start
      rw [List.forall_mem_cons] at same
      simp only [alternativesAt, List.map_cons, alternatives, same.1, inductionHypothesis same.2]

theorem bodyAt_eq {form : Form NodeId}
    (same : ∀ child ∈ form.children, lay child = node mode budget (schema.shape child))
    (start slot : Nat) :
    bodyAt mode budget lay form start slot = body mode budget (form.map schema.shape) start slot := by
  cases form with
  | leaf scalar => rfl
  | object children =>
      have each := fieldsAt_eq schema same
      simp only [bodyAt, Form.map, body, each]
  | array item length => simp only [bodyAt, Form.map, body, same item List.mem_cons_self]
  | tuple children =>
      have each : ∀ child ∈ children, lay child = node mode budget (schema.shape child) := same
      simp only [bodyAt, Form.map, body, positionsAt_eq schema each, List.length_map]
  | record value keys => simp only [bodyAt, Form.map, body, same value List.mem_cons_self]
  | union children =>
      have each : ∀ child ∈ children, lay child = node mode budget (schema.shape child) := same
      simp only [bodyAt, Form.map, body, alternativesAt_eq schema each, List.length_map]

end

end Assembler

namespace Schema

variable (schema : Schema) (mode : UnionMode) (budget : Nat)

/-- The block of a node, by number. -/
def layAt : NodeId → Assembler.Laying :=
  follow (fun _ _ => return []) (Assembler.nodeStep mode budget schema)

theorem layAt_eq (id : NodeId) :
    schema.layAt mode budget id = Assembler.node mode budget (schema.shape id) := by
  apply schema.follow_eq (Assembler.node mode budget)
  intro id lay inFront
  have same : ∀ child ∈ (schema.node id).form.children,
      lay child = Assembler.node mode budget (schema.shape child) := fun child member =>
    inFront child (schema.child_lt_node member)
  funext start slot
  rw [shape_node]
  simp only [Assembler.nodeStep, Assembler.node, schema.nullIsValueAt_form, Assembler.bodyAt_eq schema same]
  rfl

/-- The program of a schema, by number. -/
def assembleAt : Except TooLarge Program := do
  let (ops, tables) ← (schema.layAt mode budget schema.root 0 0).run .initial
  return ⟨ops.toArray, tables.templates, tables.strings, tables.patterns,
    tables.slots, tables.cursors⟩

theorem assembleAt_eq : schema.assembleAt mode budget = schema.assemble mode budget := by
  rw [assembleAt, layAt_eq]
  rfl

end Schema
end Conformance
