import Conformance.Emission.Export
import Conformance.Proofs.Numbered.Assembly
import Conformance.Proofs.Numbered.Nominal
import Conformance.Proofs.Numbered.Text

namespace Conformance

/-!
# Arenas unfolded

An arena says more than the tree that it stands for: how its nodes are numbered, which of
them are shared, and which are not used at all.  `Schema.Unfolds` is the tree alone.  It
follows the numbers of the arena from a node to its children, and keeps of every node what
the node says and nothing about where it stands.

Every node of a finished schema unfolds to one tree.  The tree that the walks which run use is
this one with a mark on its top node, which tells the root from every other node.  Below the
root no node is marked, because the root is no child of itself.

Walks by number are written on the arena and could see more.  Each of them does at a node what its
counterpart does at the tree of the node, so nothing is left of the numbers in what it answers.  So
a schema checks, assembles and exports as its tree says, by number too, and two arenas that unfold
to one tree cannot be told apart.
-/

namespace Shape

/-- The tree with the mark of the root on its top node. -/
def asEntry : Shape → Shape
  | .node header form => .node { header with isEntry := true } form

end Shape

namespace Schema

/-- The tree that a node unfolds to.  None of its nodes is marked as the root. -/
inductive Unfolds (schema : Schema) : NodeId → Shape → Prop where
  | node {id : NodeId} {node : Node} (subtree : NodeId → Shape)
      (listed : schema.nodes[id]? = some node)
      (children : ∀ child ∈ node.form.children, Unfolds schema child (subtree child)) :
      Unfolds schema id (.node (node.header false) (node.form.map subtree))

variable {schema : Schema} {id : NodeId} {tree other : Shape}

/-- A node unfolds to one tree only. -/
theorem Unfolds.unique (unfolds : schema.Unfolds id tree) (again : schema.Unfolds id other) :
    tree = other := by
  induction unfolds generalizing other with
  | node subtree listed children inductionHypothesis =>
      cases again with
      | node otherSubtree otherListed otherChildren =>
          cases listed.symm.trans otherListed
          rw [Form.map_congr _ fun child member =>
            inductionHypothesis child member (otherChildren child member)]

/-- Every node of a finished schema unfolds to a tree. -/
theorem exists_unfolds (schema : Schema) : ∀ {id : NodeId}, id < schema.nodes.size →
    ∃ tree, schema.Unfolds id tree := by
  intro id
  induction id using Nat.strongRecOn with
  | _ id inductionHypothesis =>
      intro inside
      have listed : schema.nodes[id]? = some schema.nodes[id] := Array.getElem?_eq_getElem inside
      have childTree : ∀ child, ∃ subtree,
          child ∈ schema.nodes[id].form.children → schema.Unfolds child subtree := by
        intro child
        by_cases member : child ∈ schema.nodes[id].form.children
        · have earlier := schema.child_lt listed child member
          rcases inductionHypothesis child earlier (Nat.lt_trans earlier inside) with ⟨subtree, unfolds⟩
          exact ⟨subtree, fun _ => unfolds⟩
        · exact ⟨.anything, fun listedChild => absurd listedChild member⟩
      rcases Classical.skolem.mp childTree with ⟨subtree, unfolds⟩
      exact ⟨_, .node subtree listed unfolds⟩

/-! ## The tree that walks use -/

/-- In front of the root, the tree that walks use is the one that the arena unfolds to. -/
theorem Unfolds.shape_eq (unfolds : schema.Unfolds id tree) (before : id < schema.root) :
    schema.shape id = tree := by
  induction unfolds with
  | node subtree listed children inductionHypothesis =>
      rw [schema.shape_eq listed, beq_eq_false_iff_ne.mpr (Nat.ne_of_lt before)]
      rw [Form.map_congr _ fun child member =>
        inductionHypothesis child member (Nat.lt_trans (schema.child_lt listed child member) before)]

/-- At the root it has the mark of the root besides. -/
theorem Unfolds.rootShape_eq (unfolds : schema.Unfolds schema.root tree) :
    schema.rootShape = tree.asEntry := by
  cases unfolds with
  | node subtree listed children =>
      rw [rootShape, schema.shape_eq listed, beq_self_eq_true]
      rw [Form.map_congr _ fun child member =>
        (children child member).shape_eq (schema.child_lt listed child member)]
      rfl

/-- The kind of the root is that of its tree. -/
theorem Unfolds.kindName_eq (unfolds : schema.Unfolds schema.root tree) :
    schema.rootNode.form.kindName = tree.form.kindName := by
  cases unfolds with
  | node subtree listed children =>
      have here : schema.nodes[schema.root]? = some schema.rootNode :=
        Array.getElem?_eq_getElem schema.root_lt
      rw [Option.some.inj (here.symm.trans listed), Shape.form]
      cases Node.form _ <;> rfl

/-! ## What is exported by number -/

/-- The types of a schema in a language, by number. -/
def generateAt (language : Language) (rootName : Option String) (schema : Schema) :
    Emitting String :=
  match language with
  | .typeScript => schema.generateStructuralAt rootName
  | .rust => schema.generateNominalAt rootName

/-- The text of a schema, by number. -/
def exportTextAt (schema : Schema) (options : ExportOptions) : Except EmissionError String := do
  let language ← options.target
  if options.types then
    ((schema.generateAt language options.rootName).run (.empty options.mode)).1
  else return schema.renderAt schema.root 0

theorem generateAt_eq (language : Language) (rootName : Option String) (schema : Schema) :
    schema.generateAt language rootName = schema.generate language rootName := by
  cases language with
  | typeScript => exact schema.generateStructuralAt_eq rootName
  | rust => exact schema.generateNominalAt_eq rootName

theorem exportTextAt_eq (schema : Schema) (options : ExportOptions) :
    schema.exportTextAt options = schema.exportText options := by
  simp only [exportTextAt, exportText, generateAt_eq, renderAt_eq, rootShape]

/-! ## What cannot be told apart -/

section

variable {left right : Schema}

/-- The types that are emitted for a schema, and what they add to a registry, are those of
its tree. -/
theorem Unfolds.generate_eq (unfolds : left.Unfolds left.root tree)
    (unfoldsToo : right.Unfolds right.root tree) (language : Language) (rootName : Option String) :
    left.generate language rootName = right.generate language rootName := by
  have sameTree : left.rootShape = right.rootShape :=
    unfolds.rootShape_eq.trans unfoldsToo.rootShape_eq.symm
  have sameKind : left.rootNode.form.kindName = right.rootNode.form.kindName :=
    unfolds.kindName_eq.trans unfoldsToo.kindName_eq.symm
  cases language with
  | typeScript => simp only [generate, Structural.generate, sameTree]
  | rust => simp only [generate, Nominal.generate, sameTree, sameKind]

/-- How an arena is laid out cannot be observed.  What runs does the same as what is done by number,
and of two schemas that unfold to one tree all that is done by number is the same: they find the same
failures in every value, assemble to the same program or are refused at the same budgets, and export
the same texts or fail with the same errors; and whatever a registry holds, generating from the one
or from the other leaves the same registry. -/
theorem layout_unobservable (unfolds : left.Unfolds left.root tree)
    (unfoldsToo : right.Unfolds right.root tree) :
    (∀ (mode : UnionMode) (options : CheckOptions) (value : Option Value),
      left.interpret mode options value = left.interpretAt mode options value ∧
        left.interpretAt mode options value = right.interpretAt mode options value) ∧
    (∀ (mode : UnionMode) (budget : Nat),
      left.assemble mode budget = left.assembleAt mode budget ∧
        left.assembleAt mode budget = right.assembleAt mode budget) ∧
    (∀ options : ExportOptions,
      left.exportText options = left.exportTextAt options ∧
        left.exportTextAt options = right.exportTextAt options) ∧
    ∀ (language : Language) (rootName : Option String) (registry : Registry),
      (left.generate language rootName).run registry =
          (left.generateAt language rootName).run registry ∧
        (left.generateAt language rootName).run registry =
          (right.generateAt language rootName).run registry := by
  have sameTree : left.rootShape = right.rootShape :=
    unfolds.rootShape_eq.trans unfoldsToo.rootShape_eq.symm
  have sameTypes := unfolds.generate_eq unfoldsToo
  refine ⟨?interpret, ?assemble, ?exportText, ?generate⟩
  case interpret =>
    intro mode options value
    refine ⟨(left.interpretAt_eq mode options value).symm, ?_⟩
    rw [interpretAt_eq, interpretAt_eq, interpret, interpret, sameTree]
  case assemble =>
    intro mode budget
    refine ⟨(left.assembleAt_eq mode budget).symm, ?_⟩
    rw [assembleAt_eq, assembleAt_eq, assemble, assemble, sameTree]
  case exportText =>
    intro options
    refine ⟨(left.exportTextAt_eq options).symm, ?_⟩
    rw [exportTextAt_eq, exportTextAt_eq]
    simp only [exportText, sameTypes, sameTree]
  case generate =>
    intro language rootName registry
    rw [generateAt_eq, generateAt_eq, sameTypes]
    exact ⟨rfl, rfl⟩

end

/-- A pair of counts whose node is shared. -/
def sharedPair : Schema :=
  ⟨#[⟨.leaf (.integer .unbounded), true, false, none, none⟩,
      ⟨.tuple [0, 0], true, false, none, none⟩],
    1, by decide, by decide⟩

/-- The same pair with a node for each count, behind a node that is not used. -/
def spreadPair : Schema :=
  ⟨#[⟨.leaf .boolean, false, true, some "Flag", none⟩,
      ⟨.leaf (.integer .unbounded), true, false, none, none⟩,
      ⟨.leaf (.integer .unbounded), true, false, none, none⟩,
      ⟨.tuple [2, 1], true, false, none, none⟩,
      ⟨.tuple [3, 3], true, false, none, none⟩],
    3, by decide, by decide⟩

/-- Whether the counts of a pair are shared makes no difference to anything. -/
theorem layout_unobservable_pair :
    ∃ tree, sharedPair.Unfolds sharedPair.root tree ∧ spreadPair.Unfolds spreadPair.root tree ∧
      (sharedPair == spreadPair) = false ∧
      (∀ (mode : UnionMode) (budget : Nat),
        sharedPair.assembleAt mode budget = spreadPair.assembleAt mode budget) ∧
      ∀ options : ExportOptions, sharedPair.exportTextAt options = spreadPair.exportTextAt options := by
  let count : Shape := .node ⟨true, false, none, none, false⟩ (.leaf (.integer .unbounded))
  have shared : sharedPair.Unfolds sharedPair.root
      (.node ⟨true, false, none, none, false⟩ (.tuple [count, count])) := by
    refine @Unfolds.node _ _ sharedPair.rootNode (fun _ => count) rfl ?_
    intro child member
    have zero : child = 0 := by
      simpa [rootNode, sharedPair, Form.children] using member
    rw [zero]
    exact @Unfolds.node _ _ ⟨.leaf (.integer .unbounded), true, false, none, none⟩ (fun _ => count)
      rfl (List.forall_mem_nil _)
  have spread : spreadPair.Unfolds spreadPair.root
      (.node ⟨true, false, none, none, false⟩ (.tuple [count, count])) := by
    refine @Unfolds.node _ _ spreadPair.rootNode (fun _ => count) rfl ?_
    intro child member
    have listed : spreadPair.nodes[child]? =
        some ⟨.leaf (.integer .unbounded), true, false, none, none⟩ := by
      have twoOrOne : child = 2 ∨ child = 1 := by
        simpa [rootNode, spreadPair, Form.children] using member
      rcases twoOrOne with rfl | rfl <;> rfl
    exact @Unfolds.node _ _ ⟨.leaf (.integer .unbounded), true, false, none, none⟩ (fun _ => count)
      listed (List.forall_mem_nil _)
  rcases layout_unobservable shared spread with ⟨_, assembles, exports, _⟩
  exact ⟨_, shared, spread, by decide, fun mode budget => (assembles mode budget).2,
    fun options => (exports options).2⟩

end Schema
end Conformance
