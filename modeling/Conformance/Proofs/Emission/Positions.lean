import Conformance.Proofs.Emission.Steps
import Conformance.Proofs.Schema.Tree
import Mathlib.Logic.Relation

namespace Conformance
namespace Nominal

/-!
# The positions of an emission

The emission of a type comes to nodes below it and writes their types as well: for the
items of a list, the positions of a tuple, the values of a map and the fields of every
struct that it declares, be it the struct of an object or of a member of an enum.  Which
structs it declares depends on the names that the registry has by then.  So a position
tells the registry that the emission finds when it comes to the node.

If a whole emission answers, then it has written a type at every position it came to.
-/

open Emitting

/-- A node that an emission comes to, with the steps that led there, the registry at that
time, and whether the node is a field of a struct. -/
structure Position where
  shape : Shape
  trail : Location
  registry : Registry
  isField : Bool

namespace Position

/-- Where the emission of a node begins. -/
def top (shape : Shape) (registry : Registry) : Position := ⟨shape, [], registry, false⟩

/-- The emission of the type at a position. -/
def emission (rootName : Option String) (position : Position) : Emitting String :=
  if position.isField then fieldTypeOf rootName position.shape position.trail
  else typeOf rootName position.shape position.trail

/-- A type is written at a position. -/
def Writes (rootName : Option String) (position : Position) (type : String) : Prop :=
  ∃ after, (position.emission rootName).Answers position.registry type after

/-- An emission at one position comes to another one directly below.  The parts in front of
the second one have been emitted before. -/
inductive Below (rootName : Option String) : Position → Position → Prop where
  | item {header : Header} {trail : Location} {registry : Registry} {isField : Bool}
      (item : Shape) (length : LengthBounds) :
      Below rootName ⟨.node header (.array item length), trail, registry, isField⟩
        ⟨item, .items :: trail, registry, false⟩
  | value {header : Header} {trail : Location} {registry : Registry} {isField : Bool}
      (value : Shape) (keys : LengthBounds) :
      Below rootName ⟨.node header (.record value keys), trail, registry, isField⟩
        ⟨value, .values :: trail, registry, false⟩
  | position {header : Header} {trail : Location} {registry : Registry}
      {isField : Bool} {first : List Shape} {shape : Shape}
      {rest : List Shape} {types : List String} {between : Registry}
      (before : (positions rootName first 0 trail).Answers registry types between) :
      Below rootName ⟨.node header (.tuple (first ++ shape :: rest)), trail, registry, isField⟩
        ⟨shape, .position first.length :: trail, between, false⟩
  | field {header : Header} {trail : Location} {registry : Registry}
      {isField : Bool} {name : String} {first : List (String × Shape)}
      {key : String} {shape : Shape} {rest : List (String × Shape)} {lines : String}
      {between : Registry}
      (named : declaredName rootName header = some name)
      (unresolved : registry.resolves name = false)
      (before : (structFields rootName none first trail).Answers registry lines between) :
      Below rootName
        ⟨.node header (.object (first ++ (key, shape) :: rest)), trail, registry, isField⟩
        ⟨shape, .field key :: trail, between, true⟩
  | memberField {header : Header} {trail : Location} {registry : Registry}
      {isField : Bool} {name tag : String} {first : List Shape}
      {member : Header} {rest : List Shape} {literals : List String} {literal : String}
      {others : List String} {firstFields : List (String × Shape)} {key : String} {shape : Shape}
      {restFields : List (String × Shape)} {variantLines fieldLines : String}
      {between last : Registry}
      (named : declaredName rootName header = some name)
      (unresolved : registry.resolves name = false)
      (tagged : discriminant?
          (first ++ .node member (.object (firstFields ++ (key, shape) :: restFields)) :: rest) =
        some (tag, literals ++ literal :: others))
      (beside : first.length = literals.length)
      (before : (variants rootName name tag first literals 0 [] trail).Answers
        registry variantLines between)
      (unresolvedMember : between.resolves (structName member literal) = false)
      (beforeField : (structFields rootName (some tag) firstFields
        (.alternative first.length :: trail)).Answers between fieldLines last)
      (notTag : key ≠ tag) :
      Below rootName
        ⟨.node header (.union
          (first ++ .node member (.object (firstFields ++ (key, shape) :: restFields)) :: rest)),
          trail, registry, isField⟩
        ⟨shape, .field key :: .alternative first.length :: trail, last, true⟩

/-- The positions that an emission comes to. -/
def Reaches (rootName : Option String) : Position → Position → Prop :=
  Relation.ReflTransGen (Below rootName)

end Position

/-! ## Parts of lists -/

section

variable {rootName : Option String} {trail : Location} {between after : Registry}

/-- Where the types of some positions are written, one is written for any of them, after
those in front of it. -/
theorem position_answers {first : List Shape} {shape : Shape} {rest : List Shape} :
    ∀ {index : Nat} {before : Registry} {types all : List String},
    (positions rootName first index trail).Answers before types between →
    (positions rootName (first ++ shape :: rest) index trail).Answers before all after →
    ∃ type next, (typeOf rootName shape (.position (index + first.length) :: trail)).Answers
      between type next := by
  induction first with
  | nil =>
      intro index before types all front whole
      rcases positions_nil.mp front with ⟨_, rfl⟩
      rcases positions_cons.mp whole with ⟨type, next, _, answers, _⟩
      exact ⟨type, next, answers⟩
  | cons head tail inductionHypothesis =>
      intro index before types all front whole
      rcases positions_cons.mp front with ⟨_, next, _, answers, remaining, _⟩
      rcases positions_cons.mp whole with ⟨_, _, _, again, others, _⟩
      rw [← (answers.unique again).2] at others
      have later := inductionHypothesis remaining others
      rwa [Nat.add_assoc, Nat.add_comm 1, ← List.length_cons (a := head)] at later

/-- Where the fields of a struct are written, a type is written for any of them that is
not the tag. -/
theorem field_answers {tag : Option String} {first : List (String × Shape)} {key : String}
    {shape : Shape} {rest : List (String × Shape)} (notTag : some key ≠ tag) :
    ∀ {before : Registry} {lines all : String},
    (structFields rootName tag first trail).Answers before lines between →
    (structFields rootName tag (first ++ (key, shape) :: rest) trail).Answers before all after →
    ∃ type next, (fieldTypeOf rootName shape (.field key :: trail)).Answers between type next := by
  induction first with
  | nil =>
      intro before lines all front whole
      rcases structFields_nil.mp front with ⟨_, rfl⟩
      rcases (structFields_cons notTag).mp whole with ⟨type, next, _, answers, _⟩
      exact ⟨type, next, answers⟩
  | cons head tail inductionHypothesis =>
      intro before lines all front whole
      rw [List.cons_append] at whole
      by_cases isTag : some head.1 = tag
      · rw [structFields_tag isTag] at front whole
        exact inductionHypothesis front whole
      · rcases (structFields_cons isTag).mp front with ⟨_, next, _, answers, remaining, _⟩
        rcases (structFields_cons isTag).mp whole with ⟨_, _, _, again, others, _⟩
        rw [← (answers.unique again).2] at others
        exact inductionHypothesis remaining others

/-- Where the variants of an enum are written, the struct of any of them is declared. -/
theorem member_answers {enumName tag : String} {first : List Shape} {shape : Shape}
    {rest : List Shape} {literal : String} {others : List String} :
    ∀ {literals : List String}, first.length = literals.length →
    ∀ {index : Nat} {seen : List (String × String)} {before : Registry} {lines all : String},
    (variants rootName enumName tag first literals index seen trail).Answers before lines between →
    (variants rootName enumName tag (first ++ shape :: rest) (literals ++ literal :: others) index
      seen trail).Answers before all after →
    ∃ next, (member rootName (structName shape.header literal) tag shape
      (.alternative (index + first.length) :: trail)).Answers between () next := by
  induction first with
  | nil =>
      intro literals beside index seen before lines all front whole
      rw [List.eq_nil_of_length_eq_zero beside.symm] at whole
      rcases variants_nil.mp front with ⟨_, rfl⟩
      rcases variants_cons.mp whole with ⟨_, _, next, _, declares, _⟩
      exact ⟨next, declares⟩
  | cons head tail inductionHypothesis =>
      intro literals beside index seen before lines all front whole
      cases literals with
      | nil => cases beside
      | cons known literals =>
          rw [List.cons_append, List.cons_append] at whole
          rcases variants_cons.mp front with ⟨_, _, next, _, declares, remaining, _⟩
          rcases variants_cons.mp whole with ⟨_, _, _, _, again, others, _⟩
          rw [← (declares.unique again).2] at others
          have later := inductionHypothesis (Nat.succ.inj beside) remaining others
          rwa [Nat.add_assoc, Nat.add_comm 1, ← List.length_cons (a := head)] at later

end

/-! ## What is written at a position -/

namespace Position

variable {rootName : Option String}

/-- Only exact strings are written in another way where they are fields. -/
theorem fieldTypeOf_eq_typeOf {header : Header} {form : Form Shape} {trail : Location}
    (inexact : ∀ expected, form ≠ .leaf (.exact expected)) :
    fieldTypeOf rootName (.node header form) trail = typeOf rootName (.node header form) trail := by
  rw [fieldTypeOf, typeOf]
  unfold fieldType
  split
  case h_1 expected => exact absurd rfl (inexact expected)
  case h_2 => rfl

/-- What is written at a position that is no exact string. -/
theorem Writes.bare {header : Header} {form : Form Shape} {trail : Location} {registry : Registry}
    {isField : Bool} (inexact : ∀ expected, form ≠ .leaf (.exact expected)) {type : String}
    (writes : Writes rootName ⟨.node header form, trail, registry, isField⟩ type) :
    ∃ inner after, (Nominal.bare rootName header form trail).Answers registry inner after ∧
      type = withPresence header inner := by
  rcases writes with ⟨after, answers⟩
  have same : emission rootName ⟨.node header form, trail, registry, isField⟩ =
      typeOf rootName (.node header form) trail := by
    cases isField with
    | false => rfl
    | true => exact fieldTypeOf_eq_typeOf inexact
  rw [same] at answers
  rcases typeOf_answers.mp answers with ⟨inner, written, equal⟩
  exact ⟨inner, after, written, equal⟩

/-- One step: if a type is written at a position, one is written at every position directly
below. -/
theorem Below.writes {position target : Position} (below : Below rootName position target)
    {type : String} (writes : position.Writes rootName type) :
    ∃ written, target.Writes rootName written := by
  cases below with
  | item item length =>
      rcases writes.bare (by simp) with ⟨_, after, answers, _⟩
      rcases bare_array.mp answers with ⟨written, itemAnswers, _⟩
      exact ⟨written, after, itemAnswers⟩
  | value value keys =>
      rcases writes.bare (by simp) with ⟨_, after, answers, _⟩
      rcases bare_record.mp answers with ⟨written, valueAnswers, _⟩
      exact ⟨written, after, valueAnswers⟩
  | position before =>
      rcases writes.bare (by simp) with ⟨_, after, answers, _⟩
      rcases bare_tuple.mp answers with ⟨_, whole, _⟩
      rcases position_answers before whole with ⟨written, next, here⟩
      rw [Nat.zero_add] at here
      exact ⟨written, next, here⟩
  | field named unresolved before =>
      rcases writes.bare (by simp) with ⟨_, after, answers, _⟩
      rcases bare_object.mp answers with ⟨sameName, declares⟩
      rw [← Option.some.inj (named.symm.trans sameName), unresolved, if_neg Bool.false_ne_true]
        at declares
      rcases declareStruct_answers.mp declares with ⟨_, _, _, _, whole, _⟩
      rcases field_answers (Option.some_ne_none _) before whole with ⟨written, next, here⟩
      exact ⟨written, next, here⟩
  | memberField named unresolved tagged beside before unresolvedMember beforeField notTag =>
      rcases writes.bare (by simp) with ⟨_, after, answers, _⟩
      rcases bare_union.mp answers with ⟨sameName, declares⟩
      rw [← Option.some.inj (named.symm.trans sameName), unresolved, if_neg Bool.false_ne_true]
        at declares
      rcases declareEnum_answers.mp declares with ⟨_, _, sameTag, _, _, _, whole, _⟩
      rw [tagged] at sameTag
      cases sameTag
      rcases member_answers beside before whole with ⟨_, declaresMember⟩
      rw [member_object, Nat.zero_add] at declaresMember
      simp only [Shape.header, unresolvedMember, Bool.false_eq_true, if_false] at declaresMember
      rcases declareStruct_answers.mp declaresMember with ⟨_, _, _, _, wholeFields, _⟩
      have differs : some _ ≠ some _ := fun same => notTag (Option.some.inj same)
      rcases field_answers differs beforeField wholeFields with ⟨written, next, here⟩
      exact ⟨written, next, here⟩

/-- A whole emission: if it answers, a type is written at every position it comes to. -/
theorem Reaches.writes {position target : Position} (reached : Reaches rootName position target)
    {type : String} (writes : position.Writes rootName type) :
    ∃ written, target.Writes rootName written := by
  induction reached with
  | refl => exact ⟨type, writes⟩
  | tail _ below inductionHypothesis =>
      rcases inductionHypothesis with ⟨written, here⟩
      exact below.writes here

/-- What passes from a node to its children holds where an emission comes to, if it holds
where it begins. -/
theorem Below.descends {motive : Shape → Prop}
    (descends : ∀ header form, motive (.node header form) → ∀ child ∈ form.children, motive child)
    {position target : Position} (below : Below rootName position target)
    (holds : motive position.shape) : motive target.shape := by
  cases below with
  | item item length => exact descends _ _ holds item List.mem_cons_self
  | value value keys => exact descends _ _ holds value List.mem_cons_self
  | position before =>
      exact descends _ _ holds _ (List.mem_append_right _ List.mem_cons_self)
  | field named unresolved before =>
      exact descends _ _ holds _
        (List.mem_map_of_mem (List.mem_append_right _ List.mem_cons_self))
  | memberField named unresolved tagged beside before unresolvedMember beforeField notTag =>
      have member := descends _ _ holds _ (List.mem_append_right _ List.mem_cons_self)
      exact descends _ _ member _
        (List.mem_map_of_mem (List.mem_append_right _ List.mem_cons_self))

/-- The emission of a node of a schema comes to nodes of the schema. -/
theorem Reaches.node (schema : Schema) {id : NodeId} {registry : Registry} {target : Position}
    (reached : Reaches rootName (top (schema.shape id) registry) target) :
    ∃ other, target.shape = schema.shape other := by
  induction reached with
  | refl => exact ⟨id, rfl⟩
  | tail _ below inductionHypothesis =>
      refine below.descends (motive := fun shape => ∃ other, shape = schema.shape other) ?_
        inductionHypothesis
      rintro header form ⟨other, equal⟩ child member
      exact schema.child_shape equal.symm child member

end Position
end Nominal
end Conformance
