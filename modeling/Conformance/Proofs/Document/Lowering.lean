import Conformance.Proofs.Document.Numbering
import Conformance.Proofs.Schema.Finish

namespace Conformance

/-!
# Lowering is faithful

Lowering adds nodes while it descends, so a child could be given the number of another node
without anything failing later: every number is that of some node.  What rules this out is said
of the steps of lowering, from one field or item to the whole document.  A step either adds nodes
that are numbered from the size of the arena on, and answers with the numbers of the documents
that it was given, or it fails with the first malformed pattern among those documents and all
below them.

With its nodes numbered like that, a document is finished without an error about references,
and an error about anything else is an error of the document at the same place in postorder.
-/

namespace Document

/-- A pattern that is malformed. -/
inductive Malformed (document : Document) : SchemaError → Prop where
  | pattern {source : String} (isPattern : document.description = .regex source)
      (malformed : Pattern.ofSource? source = none) : Malformed document (.invalidPattern source)

/-- Bounds or alternatives that are wrong in the document at a place. -/
def Offends (place : Nat) (document : Document) (error : SchemaError) : Prop :=
  ∃ form, document.description.form? = some form ∧ form.Offends place error

/-- What comes of a step that goes through documents in their order: nodes that were added for
the documents that the step answers for, or the first malformed pattern. -/
inductive Outcome {Target : Type} (arena : Arena) (order : List Document)
    (answers : Target → List (Document × NodeId) → Prop) :
    Except SchemaError (Target × Arena) → Prop where
  | added {target : Target} {numbered : List (Document × NodeId)} {nodes : List Node} {after : Arena}
      (answered : answers target numbered) (made : Numbered arena.nodes.size numbered nodes)
      (listed : after.nodes.toList = arena.nodes.toList ++ nodes)
      (wellFormed : ∀ sub ∈ order, ∀ error, ¬ sub.Malformed error) :
      Outcome arena order answers (.ok (target, after))
  | refused {error : SchemaError} (first : FirstOffence (fun _ => Malformed) order error) :
      Outcome arena order answers (.error error)

section

variable {Target Further : Type} {arena : Arena} {order behind : List Document}
variable {answers : Target → List (Document × NodeId) → Prop}
variable {answersToo : Further → List (Document × NodeId) → Prop}
variable {step : StateT Arena (Except SchemaError) Target}

/-- One step after another. -/
theorem Outcome.bind {next : Target → StateT Arena (Except SchemaError) Further}
    (outcome : Outcome arena order answers (step.run arena))
    (later : ∀ target numbered, answers target numbered → ∀ after,
      Outcome after behind (fun further others => answersToo further (numbered ++ others))
        ((next target).run after)) :
    Outcome arena (order ++ behind) answersToo ((step >>= next).run arena) := by
  rw [StateT.run_bind]
  generalize step.run arena = result at outcome
  cases outcome with
  | refused first => exact .refused (firstOffence_append.mpr (.inl first))
  | @added target numbered nodes after answered made listed wellFormed =>
      have outcome := later target numbered answered after
      change Outcome arena (order ++ behind) answersToo ((next target).run after)
      generalize (next target).run after = result at outcome
      cases outcome with
      | refused first => exact .refused (firstOffence_append.mpr (.inr ⟨wellFormed, first⟩))
      | @added further others rest last answeredToo madeToo listedToo wellFormedToo =>
          have size : after.nodes.size = arena.nodes.size + nodes.length := by
            rw [← Array.length_toList, listed, List.length_append, Array.length_toList]
          rw [size] at madeToo
          refine .added answeredToo (made.append madeToo) ?_
            (List.forall_mem_append.mpr ⟨wellFormed, wellFormedToo⟩)
          rw [listedToo, listed, List.append_assoc]

/-- A step that looks at well formed documents besides. -/
theorem Outcome.before {result : Except SchemaError (Target × Arena)}
    (outcome : Outcome arena order answers result)
    (wellFormed : ∀ sub ∈ behind, ∀ error, ¬ sub.Malformed error) :
    Outcome arena (order ++ behind) answers result := by
  cases outcome with
  | refused first => exact .refused (firstOffence_append.mpr (.inl first))
  | added answered made listed wellFormedToo =>
      exact .added answered made listed (List.forall_mem_append.mpr ⟨wellFormedToo, wellFormed⟩)

/-- A step without documents. -/
theorem Outcome.pure {target : Target} (answered : answers target []) :
    Outcome arena [] answers ((Pure.pure target : StateT Arena (Except SchemaError) Target).run arena) :=
  .added answered .nil (List.append_nil _).symm (List.forall_mem_nil _)

/-- What is made of an answer. -/
theorem Outcome.map {change : Target → Further}
    (outcome : Outcome arena order answers (step.run arena))
    (changed : ∀ target numbered, answers target numbered → answersToo (change target) numbered) :
    Outcome arena order answersToo ((step >>= fun target => Pure.pure (change target)).run arena) := by
  rw [← List.append_nil order]
  refine outcome.bind fun target numbered answered after => .pure ?_
  rw [List.append_nil]
  exact changed target numbered answered

end

/-- Lowering a document adds its nodes, and answers the number of the outermost. -/
def Lowers (document : Document) : Prop :=
  ∀ arena, Outcome arena document.postorder (fun id numbered => numbered = [(document, id)])
    ((lower document).run arena)

theorem lowerItems_outcome {items : List Document} (each : ∀ child ∈ items, child.Lowers)
    (arena : Arena) :
    Outcome arena (items.flatMap postorder)
      (fun ids numbered => numbered.map Prod.fst = items ∧ numbered.map Prod.snd = ids)
      ((lowerItems items).run arena) := by
  induction items generalizing arena with
  | nil => exact .pure ⟨rfl, rfl⟩
  | cons child rest inductionHypothesis =>
      rw [List.forall_mem_cons] at each
      rw [List.flatMap_cons, lowerItems]
      refine (each.1 arena).bind fun id numbered same after => ?_
      refine (inductionHypothesis each.2 after).map fun ids others answered => ?_
      rw [same, ← answered.1, ← answered.2]
      exact ⟨rfl, rfl⟩

theorem lowerFields_outcome {fields : List (String × Document)}
    (each : ∀ child ∈ fields.map Prod.snd, child.Lowers) (arena : Arena) :
    Outcome arena ((fields.map Prod.snd).flatMap postorder)
      (fun lowered numbered => ∃ paired : List (String × (Document × NodeId)),
        paired.map (fun field => (field.1, field.2.1)) = fields ∧
        paired.map (fun field => (field.1, field.2.2)) = lowered ∧ paired.map Prod.snd = numbered)
      ((lowerFields fields).run arena) := by
  induction fields generalizing arena with
  | nil => exact .pure ⟨[], rfl, rfl, rfl⟩
  | cons field rest inductionHypothesis =>
      rcases field with ⟨name, child⟩
      rw [List.map_cons, List.forall_mem_cons] at each
      rw [List.map_cons, List.flatMap_cons, lowerFields]
      refine (each.1 arena).bind fun id numbered same after => ?_
      refine (inductionHypothesis each.2 after).map fun lowered others answered => ?_
      rcases answered with ⟨paired, rfl, rfl, rfl⟩
      rw [same]
      exact ⟨(name, (child, id)) :: paired, rfl, rfl, rfl⟩

theorem malformed_iff {marks : Marks} {source : String} {error : SchemaError} :
    Malformed (.node marks (.regex source)) error ↔
      Pattern.ofSource? source = none ∧ error = .invalidPattern source := by
  constructor
  · rintro ⟨isPattern, malformed⟩
    cases isPattern
    exact ⟨malformed, rfl⟩
  · rintro ⟨malformed, rfl⟩
    exact .pattern rfl malformed

theorem Malformed.unique {document : Document} {error another : SchemaError}
    (malformed : document.Malformed error) (again : document.Malformed another) :
    error = another := by
  rcases malformed with ⟨isPattern, _⟩
  rcases again with ⟨isPatternToo, _⟩
  cases isPattern.symm.trans isPatternToo
  rfl

/-- The children of a node are lowered before the node, which is refused only for its pattern. -/
theorem lowerDescription_outcome (marks : Marks) {description : Description Document}
    (each : ∀ child ∈ description.children, child.Lowers) (arena : Arena) :
    Outcome arena (description.children.flatMap postorder ++ [.node marks description])
      (fun lowered numbered => ∃ form : Form (Document × NodeId),
        description.form? = some (form.map Prod.fst) ∧ form.map Prod.snd = lowered ∧
          form.children = numbered)
      ((lowerDescription description).run arena) := by
  have only (child : Document) (lowers : child.Lowers) :
      Outcome arena ([child].flatMap postorder) (fun id numbered => numbered = [(child, id)])
        ((lower child).run arena) := by
    rw [List.flatMap_singleton]
    exact lowers arena
  by_cases isPattern : ∃ source, description = .regex source
  case pos =>
    rcases isPattern with ⟨source, rfl⟩
    rw [lowerDescription]
    cases reads : Pattern.ofSource? source with
    | none => exact .refused (firstOffence_cons.mpr (.inl (malformed_iff.mpr ⟨reads, rfl⟩)))
    | some pattern =>
        have wellFormed : ∀ error, ¬ (node marks (.regex source)).Malformed error := by
          intro error malformed
          cases reads.symm.trans (malformed_iff.mp malformed).1
        refine (Outcome.pure ⟨.leaf (.pattern pattern), ?_, rfl, rfl⟩).before
          (List.forall_mem_singleton.mpr wellFormed)
        exact Description.form?_regex_eq_some_iff.mpr ⟨pattern, reads, rfl⟩
  case neg =>
    have noPattern : ∀ sub ∈ [node marks description], ∀ error, ¬ sub.Malformed error := by
      refine List.forall_mem_singleton.mpr fun error malformed => ?_
      rcases malformed with ⟨same, _⟩
      exact isPattern ⟨_, same⟩
    cases description with
    | regex source => exact absurd ⟨source, rfl⟩ isPattern
    | object fields =>
        refine ((lowerFields_outcome each arena).map fun lowered numbered answered => ?_).before noPattern
        rcases answered with ⟨paired, rfl, rfl, rfl⟩
        exact ⟨.object paired, rfl, rfl, rfl⟩
    | array child min max =>
        refine ((only child (each child List.mem_cons_self)).map fun id numbered same => ?_).before
          noPattern
        rw [same]
        exact ⟨.array (child, id) _, rfl, rfl, rfl⟩
    | record child min max =>
        refine ((only child (each child List.mem_cons_self)).map fun id numbered same => ?_).before
          noPattern
        rw [same]
        exact ⟨.record (child, id) _, rfl, rfl, rfl⟩
    | tuple items =>
        refine ((lowerItems_outcome each arena).map fun ids numbered answered => ?_).before noPattern
        rcases answered with ⟨rfl, rfl⟩
        exact ⟨.tuple numbered, rfl, rfl, rfl⟩
    | union items =>
        refine ((lowerItems_outcome each arena).map fun ids numbered answered => ?_).before noPattern
        rcases answered with ⟨rfl, rfl⟩
        exact ⟨.union numbered, rfl, rfl, rfl⟩
    | float min max =>
        have reads : (Description.float min max : Description Document).form? =
            some (.leaf (.real (.ofOptions min max))) := by
          rw [Description.form?, RealRange.ofOptions, RealRange.unbounded]
        exact (Outcome.pure ⟨.leaf (.real (.ofOptions min max)), reads, rfl, rfl⟩).before noPattern
    | _ => exact (Outcome.pure ⟨.leaf _, rfl, rfl, rfl⟩).before noPattern

/-- Every document is lowered to nodes of its own, or refused for its first malformed pattern. -/
theorem lowers (document : Document) : document.Lowers := by
  induction document using Document.induction with
  | node marks description inductionHypothesis =>
      intro arena
      have outcome := lowerDescription_outcome marks inductionHypothesis arena
      rw [postorder_node, lower, StateT.run_bind]
      generalize (lowerDescription description).run arena = result at outcome
      cases outcome with
      | refused first => exact .refused first
      | @added lowered numbered nodes after answered made listed wellFormed =>
          rcases answered with ⟨form, reads, rfl, rfl⟩
          have size : after.nodes.size = arena.nodes.size + nodes.length := by
            rw [← Array.length_toList, listed, List.length_append, Array.length_toList]
          change Outcome arena _ _
            (.ok (after.nodes.size, ⟨after.nodes.push (marks.node (form.map Prod.snd))⟩))
          have own : Numbered arena.nodes.size [(.node marks description, arena.nodes.size + nodes.length)]
              (nodes ++ [marks.node (form.map Prod.snd)]) := .cons form reads made .nil
          refine .added ?_ own ?_ wellFormed
          · rw [size]
          · rw [Array.toList_push, listed, List.append_assoc]

/-! ## Finishing what was lowered -/

section

variable {document : Document} {arena : Arena} {root : NodeId} {error : SchemaError}

/-- The nodes of one document end with its own node. -/
theorem Numbered.root_succ (made : Numbered 0 [(document, root)] arena.nodes.toList) :
    root + 1 = arena.nodes.size := by
  rw [← Array.length_toList]
  generalize arena.nodes.toList = nodes at made
  cases made with
  | cons form reads children others =>
      cases others
      rw [List.length_append, Nat.zero_add]
      rfl

/-- The nodes of a document offend where the document does. -/
theorem Numbered.offends_iff (made : Numbered 0 [(document, root)] arena.nodes.toList) :
    arena.Offends error ↔ FirstOffence (fun front => Offends front.length) document.postorder error := by
  have whole : forest [(document, root)] = document.postorder := List.flatMap_singleton _ _
  have size : arena.nodes.toList.length = document.postorder.length := by
    rw [made.length_eq, whole]
  refine firstOffence_congr size ?_ error
  intro front node rest frontToo sub restToo split splitToo beside error
  have stands : (forest [(document, root)])[frontToo.length]? = some sub := by
    rw [whole, splitToo, List.getElem?_append_right (Nat.le_refl _), Nat.sub_self]
    rfl
  rcases made.made_of stands with ⟨form, reads, listed, children⟩
  rw [split, ← beside, List.getElem?_append_right (Nat.le_refl _), Nat.sub_self,
    List.getElem?_cons_zero] at listed
  cases listed
  have placed : ∀ child ∈ (form.map Prod.snd).children, child < front.length := by
    intro child listedChild
    rw [Form.children_map] at listedChild
    rcases List.mem_map.mp listedChild with ⟨pair, member, rfl⟩
    rcases children pair member with ⟨earlier, before, number, _⟩
    rw [number, Nat.zero_add, beside]
    exact before
  have inside : front.length ≤ arena.nodes.size := by
    rw [← Array.length_toList, split, List.length_append]
    exact Nat.le_add_right _ _
  constructor
  · rintro (misplaced | ⟨_, offends⟩)
    · rcases misplaced with ⟨_, child, _, splitChildren, offended, _⟩
      have member : child ∈ (form.map Prod.snd).children := by
        rw [Marks.node] at splitChildren
        rw [splitChildren]
        exact List.mem_append_right _ List.mem_cons_self
      exact absurd offended (Node.not_misplaced inside (placed child member))
    · rw [beside] at offends
      exact ⟨_, reads, Form.offends_map.mpr (Form.offends_map.mp offends)⟩
  · rintro ⟨own, ownReads, offends⟩
    cases reads.symm.trans ownReads
    rw [← beside] at offends
    exact .own placed (Form.offends_map.mpr (Form.offends_map.mp offends))

/-- A document is refused for its first malformed pattern, or its nodes are finished. -/
theorem toSchema_cases (document : Document) :
    (∃ error, document.toSchema = .error error ∧
      FirstOffence (fun _ => Malformed) document.postorder error) ∨
    (∀ sub ∈ document.postorder, ∀ error, ¬ sub.Malformed error) ∧
      ∃ (arena : Arena) (root : NodeId), document.toSchema = arena.finish root ∧
        Numbered 0 [(document, root)] arena.nodes.toList := by
  have outcome := lowers document .empty
  rw [toSchema]
  generalize (lower document).run .empty = result at outcome
  cases outcome with
  | @refused error first => exact .inl ⟨error, rfl, first⟩
  | @added root numbered nodes arena same made listed wellFormed =>
      refine .inr ⟨wellFormed, arena, root, rfl, ?_⟩
      rw [listed, ← same]
      exact made

/-- The first malformed pattern is reported, or else the first document that offends. -/
theorem toSchema_eq_error_iff :
    document.toSchema = .error error ↔
      FirstOffence (fun _ => Malformed) document.postorder error ∨
        (∀ sub ∈ document.postorder, ∀ another, ¬ sub.Malformed another) ∧
          FirstOffence (fun front => Offends front.length) document.postorder error := by
  rcases document.toSchema_cases with
    ⟨reported, failed, first⟩ | ⟨wellFormed, arena, root, finished, made⟩
  · have some_malformed : ¬ ∀ sub ∈ document.postorder, ∀ another, ¬ sub.Malformed another := by
      rcases first with ⟨_, sub, _, split, malformed, _⟩
      intro wellFormed
      rw [split] at wellFormed
      exact wellFormed sub (List.mem_append_right _ List.mem_cons_self) reported malformed
    rw [failed, Except.error.injEq, or_iff_left fun later => some_malformed later.1]
    constructor
    · rintro rfl
      exact first
    · exact fun found => first.unique found fun _ _ _ _ => Malformed.unique
  · have none_malformed : ¬ FirstOffence (fun _ => Malformed) document.postorder error := by
      rintro ⟨_, sub, _, split, malformed, _⟩
      rw [split] at wellFormed
      exact wellFormed sub (List.mem_append_right _ List.mem_cons_self) error malformed
    have inside : root < arena.nodes.size := by
      rw [← made.root_succ]
      exact Nat.lt_succ_self root
    rw [finished, Arena.finish_eq_error_iff, Arena.nodesError?_eq_some_iff_offends,
      made.offends_iff, or_iff_right none_malformed,
      or_iff_right fun unknown => Nat.not_le.mpr inside unknown.1]
    exact ⟨fun offends => ⟨wellFormed, offends.2⟩, fun offends => ⟨inside, offends.2⟩⟩

/-- Of a document that names no field twice nothing is wrong but bounds and unions. -/
theorem Offends.cases {place : Nat} (offends : document.Offends place error)
    (distinct : document.description.fieldNames.Nodup) :
    (∃ bounds, error = .invertedLength place bounds) ∨ (∃ range, error = .invertedIntegers place range) ∨
      (∃ range, error = .invertedReals place range) ∨ error = .emptyUnion place := by
  rcases offends with ⟨form, reads, offends⟩
  cases offends with
  | length => exact .inl ⟨_, rfl⟩
  | integers => exact .inr (.inl ⟨_, rfl⟩)
  | reals => exact .inr (.inr (.inl ⟨_, rfl⟩))
  | alternatives => exact .inr (.inr (.inr rfl))
  | field repeated =>
      rw [Description.fieldNames_of_form? reads] at repeated
      rcases repeated with ⟨front, name, rest, split, ⟨listed, _⟩, _⟩
      rw [split, List.nodup_append] at distinct
      exact absurd rfl (distinct.2.2 name listed name List.mem_cons_self)

end

/-- Lowering is faithful.  The schema of a document has one node for every document in the
postorder, and the outermost is the root.  The node at a place unfolds to the tree of the document
at that place.  Together the children of all nodes are the numbers in front of the root, each of
them once.

A document has no schema exactly if a pattern is malformed, or else bounds or alternatives
are wrong somewhere, and what comes first in postorder is reported.  Where no object names a field
twice, no other errors occur. -/
theorem toSchema_faithful (document : Document) :
    (∀ schema, document.toSchema = .ok schema →
      schema.nodes.size = document.postorder.length ∧ schema.root + 1 = schema.nodes.size ∧
      (∀ (place : Nat) (sub : Document), document.postorder[place]? = some sub →
        ∃ tree, sub.Describes tree ∧ schema.Unfolds place tree) ∧
      (∃ tree, document.Describes tree ∧ schema.Unfolds schema.root tree) ∧
      (schema.nodes.toList.flatMap (·.form.children)).Perm (List.range schema.root)) ∧
    (∀ error, document.toSchema = .error error ↔
      FirstOffence (fun _ => Malformed) document.postorder error ∨
        (∀ sub ∈ document.postorder, ∀ another, ¬ sub.Malformed another) ∧
          FirstOffence (fun front => Offends front.length) document.postorder error) ∧
    ((document.Everywhere fun description => description.fieldNames.Nodup) →
      ∀ error, document.toSchema = .error error →
        (∃ source, error = .invalidPattern source) ∨
        (∃ place bounds, error = .invertedLength place bounds) ∨
        (∃ place range, error = .invertedIntegers place range) ∨
        (∃ place range, error = .invertedReals place range) ∨
        ∃ place, error = .emptyUnion place) := by
  refine ⟨?faithful, fun error => toSchema_eq_error_iff, ?kinds⟩
  case faithful =>
    intro schema lowered
    rcases document.toSchema_cases with ⟨error, failed, _⟩ | ⟨_, arena, root, finished, made⟩
    · cases failed.symm.trans lowered
    · rcases Arena.finish_eq_ok_iff.mp (finished.symm.trans lowered) with ⟨_, _, nodes, root_eq⟩
      have whole : forest [(document, root)] = document.postorder := List.flatMap_singleton _ _
      have unfolds {place : Nat} {sub : Document} (stands : document.postorder[place]? = some sub) :
          ∃ tree, sub.Describes tree ∧ schema.Unfolds place tree := by
        rw [← whole] at stands
        exact made.unfolds (congrArg Array.toList nodes) stands
      rw [nodes, root_eq]
      refine ⟨?size, made.root_succ, fun place sub => unfolds, ?root, ?parents⟩
      case size => rw [← Array.length_toList, made.length_eq, whole]
      case root =>
        rcases made.place _ List.mem_cons_self with ⟨place, _, number, stands⟩
        rw [whole] at stands
        have here : root = place := number.trans (Nat.zero_add place)
        rw [here]
        exact unfolds stands
      case parents =>
        have perm := made.children_perm
        rw [Array.length_toList, ← made.root_succ, ← List.range_eq_range', List.range_succ] at perm
        exact (List.perm_append_right_iff [root]).mp perm
  case kinds =>
    intro distinct error failed
    rcases toSchema_eq_error_iff.mp failed with
      ⟨_, sub, _, _, malformed, _⟩ | ⟨_, front, sub, rest, split, offends, _⟩
    · rcases malformed with ⟨_, _⟩
      exact .inl ⟨_, rfl⟩
    · have listed : sub ∈ document.postorder := by
        rw [split]
        exact List.mem_append_right _ List.mem_cons_self
      rcases offends.cases (distinct.of_mem_postorder listed) with
        ⟨bounds, rfl⟩ | ⟨range, rfl⟩ | ⟨range, rfl⟩ | rfl
      · exact .inr (.inl ⟨_, _, rfl⟩)
      · exact .inr (.inr (.inl ⟨_, _, rfl⟩))
      · exact .inr (.inr (.inr (.inl ⟨_, _, rfl⟩)))
      · exact .inr (.inr (.inr (.inr ⟨_, rfl⟩)))

/-- Some labels, and a remark that can be a number or missing. -/
def parcel (labels : Option Nat) : Document :=
  let plain : Marks := ⟨false, false, none, none⟩
  .node ⟨false, false, some "Parcel", none⟩ (.object
    [("labels", .node plain (.array (.node plain (.string (some 1) (some 8))) labels (some 3))),
      ("remark", .node ⟨true, true, none, none⟩
        (.union [.node plain (.integer none (some 9)), .node plain .undefined]))])

/-- A parcel has six nodes with the root at last, unless its labels are bounded the wrong way. -/
theorem toSchema_faithful_parcel :
    ((parcel none).Everywhere fun description => description.fieldNames.Nodup) ∧
      (∃ schema, (parcel none).toSchema = .ok schema ∧ schema.nodes.size = 6 ∧ schema.root = 5 ∧
        (∃ tree, (parcel none).Describes tree ∧ schema.Unfolds 5 tree) ∧
        (schema.nodes.toList.flatMap (·.form.children)).Perm [0, 1, 2, 3, 4]) ∧
      FirstOffence (fun front => Offends front.length) (parcel (some 4)).postorder
        (.invertedLength 1 ⟨4, 3⟩) := by
  refine ⟨?distinct, ?lowered, ?refused⟩
  case distinct =>
    refine .node _ (by decide) (List.forall_mem_cons.mpr ⟨?_, List.forall_mem_singleton.mpr ?_⟩)
    · exact .node _ (by decide) (List.forall_mem_singleton.mpr (.node _ (by decide) nofun))
    · refine .node _ (by decide) (List.forall_mem_cons.mpr ⟨.node _ (by decide) nofun, ?_⟩)
      exact List.forall_mem_singleton.mpr (.node _ (by decide) nofun)
  case lowered =>
    have lowered : ∃ schema, (parcel none).toSchema = .ok schema := ⟨_, rfl⟩
    rcases lowered with ⟨schema, lowered⟩
    rcases (toSchema_faithful (parcel none)).1 schema lowered with ⟨size, last, _, tree, perm⟩
    have six : schema.nodes.size = 6 := size
    have five : schema.root = 5 := Nat.succ.inj (last.trans six)
    rw [five] at tree perm
    exact ⟨schema, lowered, six, five, tree, perm⟩
  case refused =>
    have failed : (parcel (some 4)).toSchema = .error (.invertedLength 1 ⟨4, 3⟩) := by rfl
    rcases ((toSchema_faithful (parcel (some 4))).2.1 _).mp failed with malformed | ⟨_, offends⟩
    · rcases malformed with ⟨_, _, _, _, malformed, _⟩
      cases malformed
    · exact offends

end Document
end Conformance
