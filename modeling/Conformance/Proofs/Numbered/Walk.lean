import Conformance.Proofs.Schema.Tree

namespace Conformance
namespace Schema

/-!
# Walks by number

The walks that run go over the tree of a schema.  A walk can also be written on the arena: it is
given a number, looks up the node there and goes on with the numbers of its children.  Such a walk
can see how nodes are numbered and which of them are shared.

A walk by number is given here by one step, what to do at a number once it is known what to do at
the numbers in front of it.  Whatever the step is, it is enough to compare it with the walk over the
tree at one node.  If the step answers what the tree at the node does, provided that this holds at
the numbers in front, then so does the whole walk.  What a step looks up of a node is also in its
tree, apart from the number itself.
-/

variable (schema : Schema)

/-- The node of a number.  A number without a node, which nothing refers to, is taken for a node
that accepts everything. -/
def node (id : NodeId) : Node := schema.nodes[id]?.getD ⟨.leaf .unknown, false, true, none, none⟩

/-- The tree of a number is that of its node with the trees of the children. -/
theorem shape_node (id : NodeId) :
    schema.shape id =
      .node ((schema.node id).header (id == schema.root)) ((schema.node id).form.map schema.shape) := by
  cases listed : schema.nodes[id]? with
  | some node =>
      rw [schema.shape_eq listed, Schema.node, listed]
      rfl
  | none =>
      have notRoot : (id == schema.root) = false := by
        rw [beq_eq_false_iff_ne]
        rintro rfl
        exact absurd schema.root_lt (Nat.not_lt.mpr (Array.getElem?_eq_none_iff.mp listed))
      rw [schema.shape_eq_anything listed, Schema.node, listed, notRoot]
      rfl

theorem header_shape (id : NodeId) :
    (schema.shape id).header = (schema.node id).header (id == schema.root) := by
  rw [shape_node]
  rfl

theorem form_shape (id : NodeId) : (schema.shape id).form = (schema.node id).form.map schema.shape := by
  rw [shape_node]
  rfl

theorem node_root : schema.node schema.root = schema.rootNode := by
  rw [node, Array.getElem?_eq_getElem schema.root_lt]
  rfl

/-- The children of a node stand in front of it. -/
theorem child_lt_node {id child : NodeId} (member : child ∈ (schema.node id).form.children) :
    child < id := by
  cases listed : schema.nodes[id]? with
  | some node =>
      rw [Schema.node, listed] at member
      exact schema.child_lt listed child member
  | none =>
      rw [Schema.node, listed] at member
      cases member

/-- The walk that a step makes up.  At a number that does not stand in front it has nothing but the
answer that is given for that. -/
def follow {Answer : Type} (otherwise : Answer) (step : NodeId → (NodeId → Answer) → Answer)
    (id : NodeId) : Answer :=
  step id fun child => if _inFront : child < id then follow otherwise step child else otherwise
termination_by id

/-- A walk by number answers what the walk over the tree does, if its step does where the numbers
in front are answered so. -/
theorem follow_eq {Answer : Type} {otherwise : Answer}
    {step : NodeId → (NodeId → Answer) → Answer} (answer : Shape → Answer)
    (simulates : ∀ (id : NodeId) (visit : NodeId → Answer),
      (∀ child < id, visit child = answer (schema.shape child)) →
        step id visit = answer (schema.shape id)) (id : NodeId) :
    follow otherwise step id = answer (schema.shape id) := by
  induction id using Nat.strongRecOn with
  | _ id inductionHypothesis =>
      rw [follow]
      refine simulates id _ fun child inFront => ?_
      rw [dif_pos inFront, inductionHypothesis child inFront]

end Schema
end Conformance
