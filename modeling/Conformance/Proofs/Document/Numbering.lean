import Conformance.Proofs.Document.RoundTrip
import Conformance.Proofs.Schema.Offence
import Conformance.Proofs.Schema.Unfolding

namespace Conformance

/-!
# What a document stands for

A document stands for a tree, with a default for every bound that it does not write.  In an arena
its nodes are numbered in postorder, every node after all that is below it, and a node refers to
its children by the numbers that they were given.  `Numbered` says this of a forest of documents
and the nodes that were made of them, without the order in which anything was added.

A number that is one off would still be the number of some node.  So what is shown of numbered
nodes is where each of them comes from: the node at a place of the postorder was made of the
document at that place, and its children were made of the children of that document.
-/

theorem Form.map_map {Child Middle Target : Type} (change : Child → Middle) (again : Middle → Target)
    (form : Form Child) : (form.map change).map again = form.map (again ∘ change) := by
  cases form <;> simp [Form.map]

namespace Description

variable {Child Target : Type} {description : Description Child} {form : Form Child}

/-- The form that a description asks for.  A missing bound has its default.  There is no form if
the pattern is malformed. -/
def form? : Description Child → Option (Form Child)
  | .string min max => some (.leaf (.string ⟨min.getD 0, max.getD maxSafeLength⟩))
  | .integer min max =>
      some (.leaf (.integer ⟨min.getD minSafeInteger, max.getD maxSafeInteger⟩))
  | .float min max =>
      some (.leaf (.real ⟨min.getD (.ofInt minSafeInteger), max.getD (.ofInt maxSafeInteger)⟩))
  | .boolean => some (.leaf .boolean)
  | .null => some (.leaf .null)
  | .undefined => some (.leaf .undefined)
  | .date => some (.leaf .date)
  | .dateTime format => some (.leaf (.timestamp format))
  | .exact value => some (.leaf (.exact value))
  | .regex source => (Pattern.ofSource? source).map fun pattern => .leaf (.pattern pattern)
  | .unknown => some (.leaf .unknown)
  | .buffer min max => some (.leaf (.buffer ⟨min.getD 0, max.getD maxSafeLength⟩))
  | .object fields => some (.object fields)
  | .array item min max => some (.array item ⟨min.getD 0, max.getD maxSafeLength⟩)
  | .tuple items => some (.tuple items)
  | .record value min max => some (.record value ⟨min.getD 0, max.getD maxSafeLength⟩)
  | .union alternatives => some (.union alternatives)

theorem form?_regex_eq_some_iff {source : String} :
    (regex source : Description Child).form? = some form ↔
      ∃ pattern, Pattern.ofSource? source = some pattern ∧ form = .leaf (.pattern pattern) := by
  simp only [form?, Option.map_eq_some_iff, eq_comm (a := form)]

theorem children_of_form? (reads : description.form? = some form) :
    form.children = description.children := by
  cases description with
  | regex source =>
      rcases form?_regex_eq_some_iff.mp reads with ⟨pattern, _, rfl⟩
      rfl
  | _ =>
      cases reads
      rfl

theorem fieldNames_of_form? (reads : description.form? = some form) :
    form.fieldNames = description.fieldNames := by
  cases description with
  | regex source =>
      rcases form?_regex_eq_some_iff.mp reads with ⟨pattern, _, rfl⟩
      rfl
  | _ =>
      cases reads
      rfl

/-- Nodes are required unless they describe the absence of a value. -/
theorem defaultRequired_of_form? (reads : description.form? = some form) :
    Node.defaultRequired form = decide (description.kind ≠ .undefined) := by
  cases description with
  | regex source =>
      rcases form?_regex_eq_some_iff.mp reads with ⟨pattern, _, rfl⟩
      rfl
  | _ =>
      cases reads
      rfl

end Description

namespace Document

/-! ## Postorder -/

mutual

/-- A document after all documents below it, in the order of a walk. -/
def postorder : Document → List Document
  | .node marks description => postorderBelow description ++ [.node marks description]

/-- The documents below a node. -/
def postorderBelow : Description Document → List Document
  | .object fields => postorderFields fields
  | .array items _ _ => postorder items
  | .tuple items => postorderItems items
  | .record values _ _ => postorder values
  | .union anyOf => postorderItems anyOf
  | _ => []

/-- The documents in the fields of an object. -/
def postorderFields : List (String × Document) → List Document
  | [] => []
  | (_, child) :: rest => postorder child ++ postorderFields rest

/-- The documents in a list. -/
def postorderItems : List Document → List Document
  | [] => []
  | child :: rest => postorder child ++ postorderItems rest

end

theorem postorderItems_eq (items : List Document) : postorderItems items = items.flatMap postorder := by
  induction items with
  | nil => rfl
  | cons child rest inductionHypothesis =>
      rw [postorderItems, inductionHypothesis, List.flatMap_cons]

theorem postorderFields_eq (fields : List (String × Document)) :
    postorderFields fields = (fields.map Prod.snd).flatMap postorder := by
  induction fields with
  | nil => rfl
  | cons field rest inductionHypothesis =>
      rw [postorderFields, inductionHypothesis, List.map_cons, List.flatMap_cons]

theorem postorder_node (marks : Marks) (description : Description Document) :
    postorder (.node marks description) =
      description.children.flatMap postorder ++ [.node marks description] := by
  rw [postorder]
  congr 1
  cases description with
  | object fields => exact postorderFields_eq fields
  | array child | record child => exact (List.append_nil _).symm
  | tuple items | union items => exact postorderItems_eq items
  | _ => rfl

/-- What holds of every node of a document holds of every document in the postorder. -/
theorem Everywhere.of_mem_postorder {holds : Description Document → Prop} {document sub : Document}
    (everywhere : document.Everywhere holds) (listed : sub ∈ document.postorder) :
    holds sub.description := by
  induction everywhere with
  | node marks here below inductionHypothesis =>
      rw [postorder_node, List.mem_append, List.mem_flatMap, List.mem_singleton] at listed
      rcases listed with ⟨child, member, deeper⟩ | rfl
      · exact inductionHypothesis child member deeper
      · exact here

/-- A property of documents that passes from the children of a node to the node holds of all
documents. -/
theorem induction {motive : Document → Prop}
    (node : ∀ marks description, (∀ child ∈ description.children, motive child) →
      motive (.node marks description)) : ∀ document, motive document := by
  intro document
  have single {child : Document} (holds : motive child) : ∀ other ∈ [child], motive other :=
    List.forall_mem_singleton.mpr holds
  refine @Document.rec motive
    (fun description => ∀ child ∈ description.children, motive child)
    (fun fields => ∀ child ∈ fields.map Prod.snd, motive child)
    (fun items => ∀ child ∈ items, motive child)
    (fun field => motive field.2)
    node ?string ?integer ?float ?boolean ?null ?undefined ?date ?dateTime ?exact ?regex ?unknown
    ?buffer ?object ?array ?tuple ?record ?union ?noFields ?fields ?noItems ?items ?field document
  case object => exact fun fields children => children
  case array | record => exact fun child _ _ holds => single holds
  case tuple | union => exact fun items children => children
  case fields => exact fun field rest first others => List.forall_mem_cons.mpr ⟨first, others⟩
  case items => exact fun child rest first others => List.forall_mem_cons.mpr ⟨first, others⟩
  case field => exact fun name child holds => holds
  all_goals
    intros
    contradiction

/-! ## The tree of a document -/

/-- The tree that a document describes. -/
inductive Describes : Document → Shape → Prop where
  | node {marks : Marks} {description : Description Document} {form : Form Document}
      (subtree : Document → Shape) (reads : description.form? = some form)
      (children : ∀ child ∈ description.children, Describes child (subtree child)) :
      Describes (.node marks description)
        (.node ⟨!marks.optional && decide (description.kind ≠ .undefined), marks.nullable, marks.name,
          marks.rename, false⟩ (form.map subtree))

/-- A document describes one tree only. -/
theorem Describes.unique {document : Document} {tree other : Shape}
    (describes : document.Describes tree) (again : document.Describes other) : tree = other := by
  induction describes generalizing other with
  | node subtree reads children inductionHypothesis =>
      cases again with
      | node otherSubtree otherReads otherChildren =>
          cases reads.symm.trans otherReads
          rw [Form.map_congr _ fun child member => ?same]
          rw [Description.children_of_form? reads] at member
          exact inductionHypothesis child member (otherChildren child member)

/-! ## The nodes of a document -/

end Document

/-- The node of a form with given marks. -/
def Marks.node (marks : Marks) (form : Form NodeId) : Node :=
  ⟨form, Node.defaultRequired form && !marks.optional, marks.nullable, marks.name, marks.rename⟩

namespace Document

/-- Documents with the numbers that stand for them, and the nodes that were made of them and of
all below them.  The nodes are numbered in their order. -/
inductive Numbered : Nat → List (Document × NodeId) → List Node → Prop where
  | nil {first : Nat} : Numbered first [] []
  | cons {first : Nat} {marks : Marks} {description : Description Document}
      {rest : List (Document × NodeId)} {below behind : List Node} (form : Form (Document × NodeId))
      (reads : description.form? = some (form.map Prod.fst))
      (children : Numbered first form.children below)
      (others : Numbered (first + below.length + 1) rest behind) :
      Numbered first ((.node marks description, first + below.length) :: rest)
        (below ++ marks.node (form.map Prod.snd) :: behind)

/-- What is determined by a relation is a value of a function. -/
private theorem exists_function {Source Target : Type} [Nonempty Target]
    (relates : Source → Target → Prop)
    (unique : ∀ source first second, relates source first → relates source second → first = second) :
    ∃ value : Source → Target, ∀ source target, relates source target → value source = target := by
  refine ⟨fun source => Classical.epsilon (relates source), ?_⟩
  intro source target related
  exact unique source _ target (Classical.epsilon_spec ⟨target, related⟩) related

/-- Behind an item, a list goes on as what comes behind. -/
private theorem getElem?_behind {Item : Type} {front behind : List Item} {item : Item} {size : Nat}
    (before : size = front.length) (offset : Nat) :
    (front ++ item :: behind)[size + 1 + offset]? = behind[offset]? := by
  rw [before, Nat.add_assoc, List.getElem?_append_right (Nat.le_add_right _ _),
    Nat.add_sub_cancel_left, Nat.add_comm 1, List.getElem?_cons_succ]

/-- The documents of a forest with all below them, in postorder. -/
def forest (numbered : List (Document × NodeId)) : List Document :=
  numbered.flatMap fun pair => pair.1.postorder

section

variable {first : Nat} {id : NodeId} {marks : Marks} {description : Description Document}
variable {form : Form (Document × NodeId)} {numbered : List (Document × NodeId)} {nodes : List Node}

theorem forest_cons (reads : description.form? = some (form.map Prod.fst)) :
    forest ((.node marks description, id) :: numbered) =
      forest form.children ++ .node marks description :: forest numbered := by
  have children : description.children = form.children.map Prod.fst := by
    rw [← Description.children_of_form? reads, Form.children_map]
  rw [forest, List.flatMap_cons, postorder_node, children, List.flatMap_map, List.append_assoc]
  rfl

/-- Two forests whose numbers follow each other are numbered as one. -/
theorem Numbered.append {others : List (Document × NodeId)} {behind : List Node}
    (made : Numbered first numbered nodes) (later : Numbered (first + nodes.length) others behind) :
    Numbered first (numbered ++ others) (nodes ++ behind) := by
  induction made with
  | nil => exact later
  | @cons first marks description rest below rear form reads children _ _ restAppend =>
      rw [List.cons_append, List.append_assoc, List.cons_append]
      refine .cons form reads children (restAppend ?_)
      rw [List.length_append, List.length_cons] at later
      have number : first + (below.length + (rear.length + 1)) =
          first + below.length + 1 + rear.length := by omega
      rwa [number] at later

/-- There is one node for every document. -/
theorem Numbered.length_eq (made : Numbered first numbered nodes) :
    nodes.length = (forest numbered).length := by
  induction made with
  | nil => rfl
  | cons form reads children others childrenLength othersLength =>
      rw [forest_cons reads, List.length_append, List.length_append, childrenLength, List.length_cons,
        List.length_cons, othersLength]

/-- Every node is a child of one node, or one of the documents themselves has its number. -/
theorem Numbered.children_perm (made : Numbered first numbered nodes) :
    (nodes.flatMap (·.form.children) ++ numbered.map Prod.snd).Perm
      (List.range' first nodes.length) := by
  induction made with
  | nil => exact .nil
  | @cons first marks description rest below behind form reads children others childrenPerm othersPerm =>
      have split : List.range' first (below ++ marks.node (form.map Prod.snd) :: behind).length =
          List.range' first below.length ++
            (first + below.length) :: List.range' (first + below.length + 1) behind.length := by
        rw [List.length_append, List.length_cons, ← List.range'_succ, List.range'_append_1]
      have own : (marks.node (form.map Prod.snd)).form.children = form.children.map Prod.snd :=
        Form.children_map _ _
      rw [split, List.flatMap_append, List.flatMap_cons, List.map_cons, own]
      refine .trans ?_ (childrenPerm.append (othersPerm.cons (first + below.length)))
      simp only [List.append_assoc, List.perm_append_left_iff]
      exact List.perm_middle

/-- A document of a forest stands where its number says. -/
theorem Numbered.place (made : Numbered first numbered nodes) :
    ∀ pair ∈ numbered, ∃ place < nodes.length, pair.2 = first + place ∧
      (forest numbered)[place]? = some pair.1 := by
  induction made with
  | nil => exact List.forall_mem_nil _
  | @cons first marks description rest below behind form reads children others _ behindPlace =>
      rw [forest_cons reads, List.forall_mem_cons, List.length_append, List.length_cons]
      refine ⟨⟨below.length, by omega, rfl, ?_⟩, ?_⟩
      · rw [children.length_eq, List.getElem?_append_right (Nat.le_refl _), Nat.sub_self]
        rfl
      · intro pair member
        rcases behindPlace pair member with ⟨place, bound, number, stands⟩
        refine ⟨below.length + 1 + place, by omega, number.trans (by simp only [Nat.add_assoc]), ?_⟩
        rw [getElem?_behind children.length_eq]
        exact stands

/-- The node at a place was made of the document at that place, and its children are the nodes
that were made of the children of the document. -/
theorem Numbered.made_of (made : Numbered first numbered nodes) {place : Nat} {sub : Document}
    (stands : (forest numbered)[place]? = some sub) :
    ∃ form : Form (Document × NodeId), sub.description.form? = some (form.map Prod.fst) ∧
      nodes[place]? = some (sub.marks.node (form.map Prod.snd)) ∧
      ∀ child ∈ form.children, ∃ earlier < place, child.2 = first + earlier ∧
        (forest numbered)[earlier]? = some child.1 := by
  induction made generalizing place with
  | nil => cases stands
  | @cons first marks description rest below behind form reads children others childrenMade othersMade =>
      rw [forest_cons reads] at stands ⊢
      have size := children.length_eq
      rcases Nat.lt_trichotomy place below.length with inside | here | later
      case inl =>
        rw [List.getElem?_append_left (by omega)] at stands
        rcases childrenMade stands with ⟨own, ownReads, listed, ownChildren⟩
        refine ⟨own, ownReads, ?_, ?_⟩
        · rw [List.getElem?_append_left inside]
          exact listed
        · intro child member
          rcases ownChildren child member with ⟨earlier, before, number, found⟩
          refine ⟨earlier, before, number, ?_⟩
          rw [List.getElem?_append_left (by omega)]
          exact found
      case inr.inl =>
        rw [here, size, List.getElem?_append_right (Nat.le_refl _), Nat.sub_self,
          List.getElem?_cons_zero] at stands
        cases stands
        refine ⟨form, reads, ?_, ?_⟩
        · rw [here, List.getElem?_append_right (Nat.le_refl _), Nat.sub_self]
          rfl
        · intro child member
          rcases children.place child member with ⟨earlier, before, number, found⟩
          refine ⟨earlier, by omega, number, ?_⟩
          rw [List.getElem?_append_left (by omega)]
          exact found
      case inr.inr =>
        obtain ⟨offset, rfl⟩ : ∃ offset, place = below.length + 1 + offset :=
          ⟨place - below.length - 1, by omega⟩
        rw [getElem?_behind size] at stands
        rcases othersMade stands with ⟨own, ownReads, listed, ownChildren⟩
        refine ⟨own, ownReads, ?_, ?_⟩
        · rw [getElem?_behind rfl]
          exact listed
        · intro child member
          rcases ownChildren child member with ⟨earlier, before, number, found⟩
          refine ⟨below.length + 1 + earlier, by omega,
            number.trans (by simp only [Nat.add_assoc]), ?_⟩
          rw [getElem?_behind size]
          exact found

/-- A node unfolds to the tree of a document, if it was made of the document and the children of
the node unfold to the trees of its children. -/
theorem exists_tree {schema : Schema} (reads : description.form? = some (form.map Prod.fst))
    (listed : schema.nodes[id]? = some (marks.node (form.map Prod.snd)))
    (trees : ∀ child ∈ form.children, ∃ tree,
      child.1.Describes tree ∧ schema.Unfolds child.2 tree) :
    ∃ tree, Describes (.node marks description) tree ∧ schema.Unfolds id tree := by
  have : Nonempty Shape := ⟨.anything⟩
  -- A child is given its tree as a document on one side and by its number on the other.
  rcases exists_function Describes fun _ _ _ => Describes.unique with
    ⟨described, described_eq⟩
  rcases exists_function schema.Unfolds fun _ _ _ => Schema.Unfolds.unique with
    ⟨unfolded, unfolded_eq⟩
  have describes : ∀ child ∈ description.children, Describes child (described child) := by
    intro child listedChild
    rw [← Description.children_of_form? reads, Form.children_map] at listedChild
    rcases List.mem_map.mp listedChild with ⟨pair, member, rfl⟩
    rcases trees pair member with ⟨tree, describes, _⟩
    rw [described_eq _ _ describes]
    exact describes
  have unfolds : ∀ child ∈ (form.map Prod.snd).children, schema.Unfolds child (unfolded child) := by
    intro child listedChild
    rw [Form.children_map] at listedChild
    rcases List.mem_map.mp listedChild with ⟨pair, member, rfl⟩
    rcases trees pair member with ⟨tree, _, unfolds⟩
    rw [unfolded_eq _ _ unfolds]
    exact unfolds
  have sameForm : (form.map Prod.fst).map described = (form.map Prod.snd).map unfolded := by
    rw [Form.map_map, Form.map_map]
    refine Form.map_congr form fun pair member => ?_
    rcases trees pair member with ⟨tree, describes, unfolds⟩
    exact (described_eq _ _ describes).trans (unfolded_eq _ _ unfolds).symm
  have required : Node.defaultRequired (form.map Prod.snd) =
      decide (description.kind ≠ .undefined) := by
    rw [← Description.defaultRequired_of_form? reads, Node.defaultRequired_map,
      Node.defaultRequired_map]
  refine ⟨_, .node described reads describes, ?_⟩
  rw [sameForm, Bool.and_comm, ← required]
  exact .node unfolded listed unfolds

/-- The node at a place unfolds to the tree of the document at that place. -/
theorem Numbered.unfolds (made : Numbered 0 numbered nodes) {schema : Schema}
    (same : schema.nodes.toList = nodes) :
    ∀ {place : Nat} {sub : Document}, (forest numbered)[place]? = some sub →
      ∃ tree, sub.Describes tree ∧ schema.Unfolds place tree := by
  intro place
  induction place using Nat.strongRecOn with
  | _ place inductionHypothesis =>
      intro sub stands
      rcases made.made_of stands with ⟨form, reads, listed, children⟩
      rcases sub with ⟨marks, description⟩
      refine exists_tree reads ?_ fun child member => ?_
      · rw [← Array.getElem?_toList, same]
        exact listed
      · rcases children child member with ⟨earlier, before, number, found⟩
        rw [number, Nat.zero_add]
        exact inductionHypothesis earlier before found

end

end Document
end Conformance
