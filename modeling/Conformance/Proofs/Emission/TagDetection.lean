import Conformance.Proofs.Emission.Offences
import Conformance.Proofs.Schema.Offence
import Mathlib.Data.List.Perm.Basic

namespace Conformance

/-!
# The search for a tag

The tag of a union is looked for among the fields of its first alternative, in their order, and a
field is taken if all alternatives require an exact string under its name, each another one.  The
search looks at the alternatives in two ways, but whether it finds a tag depends on neither: a field
that all alternatives have is a field of the first one, whichever comes first.

So the alternatives can change places.  The literals change places with them as long as the same tag
is found, and a union that is refused because it has no tag is refused in any order.  The refusal of
a union is told apart from that of another union below it by its place.
-/

/-! ## Refusals and their places -/

namespace Plan

/-- The errors that a plan refuses with. -/
def refusals : Plan → List EmissionError
  | .nothing | .register _ _ => []
  | .refuse error => [error]
  | .inOrder first second => first.refusals ++ second.refusals
  | .unlessKnown _ plan => plan.refusals

/-- A plan fails because it refuses, or at a name that stands for another text. -/
theorem mem_refusals_of_run {error : EmissionError} : ∀ {plan : Plan} {before : Registry},
    (plan.perform.run before).1 = .error error →
      error ∈ plan.refusals ∨ ∃ name, error = .conflictingDefinition name := by
  intro plan
  induction plan with
  | nothing => exact fun failed => nomatch failed
  | refuse refused =>
      intro before failed
      cases failed
      exact .inl (List.mem_singleton.mpr rfl)
  | inOrder first second firstHypothesis secondHypothesis =>
      intro before failed
      rw [perform, Emitting.run_bind] at failed
      rw [refusals, List.mem_append]
      rcases run : first.perform.run before with ⟨_ | _, between⟩
      · rw [run] at failed
        exact (firstHypothesis ((congrArg Prod.fst run).trans failed)).imp_left .inl
      · rw [run] at failed
        exact (secondHypothesis failed).imp_left .inr
  | register name text =>
      intro before failed
      rw [perform, Emitting.run_declare, Registry.insert] at failed
      refine .inr ⟨name, ?_⟩
      -- The only error of a registration is that of a name that is taken.
      grind
  | unlessKnown name plan inductionHypothesis =>
      intro before failed
      rw [perform, Nominal.run_unlessResolved] at failed
      split at failed
      · cases failed
      · exact inductionHypothesis failed

/-- All unions that a plan refuses for want of a tag are at a place or below it. -/
def UntaggedBelow (trail : Location) (plan : Plan) : Prop :=
  ∀ location, .untaggedUnion location ∈ plan.refusals → trail.reverse <+: location

section

variable {trail : Location} {plan first second : Plan}

theorem untaggedBelow_of_nil (empty : plan.refusals = []) : plan.UntaggedBelow trail := by
  intro location refused
  rw [empty] at refused
  cases refused

theorem untaggedBelow_refuse {error : EmissionError}
    (other : ∀ location, error ≠ .untaggedUnion location := by rintro _ ⟨⟩) :
    (refuse error).UntaggedBelow trail :=
  fun location refused => absurd (List.mem_singleton.mp refused).symm (other location)

theorem UntaggedBelow.inOrder (early : first.UntaggedBelow trail)
    (late : second.UntaggedBelow trail) : (inOrder first second).UntaggedBelow trail :=
  fun location refused => (List.mem_append.mp refused).elim (early location) (late location)

theorem UntaggedBelow.of_step {step : LocationStep} (below : plan.UntaggedBelow (step :: trail)) :
    plan.UntaggedBelow trail := by
  intro location refused
  have longer := below location refused
  rw [List.reverse_cons] at longer
  exact (List.prefix_append _ _).trans longer

end

end Plan

namespace Nominal

open Plan

section

variable {rootName : Option String} {trail : Location}

/-- A node is refused for want of a tag at its place or below it, wherever it stands, and so is the
member of a union that is an object. -/
structure RefusedBelow (rootName : Option String) (shape : Shape) : Prop where
  type : ∀ trail, (typePlan rootName shape trail).UntaggedBelow trail
  member : (∃ header fields, shape = .node header (.object fields)) → ∀ structName tag trail,
    (memberPlan rootName structName tag shape trail).UntaggedBelow trail

theorem asField_untaggedBelow {header : Header} {form : Form Shape} {plan : Plan}
    (below : plan.UntaggedBelow trail) : (asField header form trail plan).UntaggedBelow trail := by
  unfold asField
  split
  · split
    · exact untaggedBelow_of_nil rfl
    · exact untaggedBelow_refuse
  · exact below

theorem structPlan_untaggedBelow {name : String} {tag : Option String}
    {fields : List (String × Shape)} {parts : Plan} (below : parts.UntaggedBelow trail) :
    (structPlan rootName name tag fields trail parts).UntaggedBelow trail := by
  have clash : (clashPlan tag fields trail).UntaggedBelow trail := by
    rw [clashPlan]
    split
    · exact untaggedBelow_refuse
    · exact untaggedBelow_of_nil rfl
  have registers : (register name (structDeclaration rootName name tag fields)).UntaggedBelow trail :=
    untaggedBelow_of_nil rfl
  exact (clash.inOrder below).inOrder registers

theorem fieldsPlan_untaggedBelow {tag : Option String} {fields : List (String × Shape)}
    (below : ∀ shape ∈ fields.map Prod.snd, RefusedBelow rootName shape) :
    (fieldsPlan rootName tag fields trail).UntaggedBelow trail := by
  induction fields with
  | nil => exact untaggedBelow_of_nil rfl
  | cons field rest inductionHypothesis =>
      rcases field with ⟨name, ⟨header, form⟩⟩
      rw [List.map_cons, List.forall_mem_cons] at below
      rw [fieldsPlan]
      split
      · exact inductionHypothesis below.2
      · exact .inOrder (asField_untaggedBelow (below.1.type _)).of_step
          (inductionHypothesis below.2)

theorem positionsPlan_untaggedBelow {shapes : List Shape} {index : Nat}
    (below : ∀ shape ∈ shapes, RefusedBelow rootName shape) :
    (positionsPlan rootName shapes index trail).UntaggedBelow trail := by
  induction shapes generalizing index with
  | nil => exact untaggedBelow_of_nil rfl
  | cons shape rest inductionHypothesis =>
      rw [List.forall_mem_cons] at below
      exact .inOrder (below.1.type _).of_step (inductionHypothesis below.2)

/-- The alternatives of a union with a tag are objects. -/
theorem objects_of_discriminant? {alternatives : List Shape} {tagged : String × List String}
    (found : discriminant? alternatives = some tagged) :
    ∀ shape ∈ alternatives, ∃ header fields, shape = .node header (.object fields) := by
  intro shape listed
  have literals := (discriminant?_eq_some found).1
  have here : literal? tagged.1 shape ∈ tagged.2.map some :=
    literals ▸ List.mem_map_of_mem listed
  rcases List.mem_map.mp here with ⟨literal, _, same⟩
  rcases literal?_eq_some same.symm with ⟨header, fields, _, object, _⟩
  exact ⟨header, fields, object⟩

/-- Whatever is refused for want of a tag at the alternatives of a union that has one is at one of
them or below it. -/
theorem variantsPlan_untaggedBelow {enumName tag : String} {alternatives : List Shape}
    {literals : List String} {index : Nat} {seen : List (String × String)}
    (below : ∀ shape ∈ alternatives, RefusedBelow rootName shape)
    (objects : ∀ shape ∈ alternatives, ∃ header fields, shape = .node header (.object fields))
    {location : Location}
    (refused : .untaggedUnion location ∈
      (variantsPlan rootName enumName tag alternatives literals index seen trail).refusals) :
    ∃ step, trail.reverse ++ [step] <+: location := by
  induction alternatives generalizing literals index seen with
  | nil => cases literals <;> cases refused
  | cons shape rest inductionHypothesis =>
      rw [List.forall_mem_cons] at below objects
      cases literals with
      | nil => cases refused
      | cons literal literals =>
          rw [variantsPlan] at refused
          split at refused
          · cases List.mem_singleton.mp refused
          · split at refused
            · cases List.mem_singleton.mp refused
            · rcases List.mem_append.mp refused with here | later
              · refine ⟨.alternative index, ?_⟩
                rw [← List.reverse_cons]
                exact below.1.member objects.1 _ _ _ location here
              · exact inductionHypothesis below.2 objects.2 later

/-- The enum of a union without a tag is refused at the place of the union. -/
theorem enum_untaggedBelow {name : String} {alternatives : List Shape}
    (below : ∀ shape ∈ alternatives, RefusedBelow rootName shape) {location : Location}
    (refused : .untaggedUnion location ∈
      (match discriminant? alternatives with
        | none => Plan.refuse (.untaggedUnion trail.reverse)
        | some (tag, literals) =>
            .inOrder (variantsPlan rootName name tag alternatives literals 0 [] trail)
              (.register name
                (EnumDeclaration.ofUnion name tag alternatives literals).text)).refusals) :
    if discriminant? alternatives = none then location = trail.reverse
      else ∃ step, trail.reverse ++ [step] <+: location := by
  cases found : discriminant? alternatives with
  | none =>
      rw [found] at refused
      rw [if_pos rfl]
      exact EmissionError.untaggedUnion.inj (List.mem_singleton.mp refused)
  | some tagged =>
      rw [found, refusals, refusals, List.append_nil] at refused
      rw [if_neg nofun]
      exact variantsPlan_untaggedBelow below (objects_of_discriminant? found) refused

theorem shape_refusedBelow (rootName : Option String) (shape : Shape) :
    RefusedBelow rootName shape := by
  induction shape using Shape.induction with
  | node header form below =>
      have fields {tag : Option String} {listed : List (String × Shape)} {trail : Location}
          (isObject : form = .object listed) :
          (fieldsPlan rootName tag listed trail).UntaggedBelow trail :=
        fieldsPlan_untaggedBelow (by rwa [isObject] at below)
      refine ⟨fun trail => ?type, ?member⟩
      case type =>
        rw [typePlan]
        cases form with
        | leaf scalar =>
            rw [barePlan]
            cases scalar <;> first
              | exact untaggedBelow_of_nil rfl
              | exact untaggedBelow_refuse
        | object listed =>
            rw [barePlan]
            split
            · exact untaggedBelow_refuse
            · exact structPlan_untaggedBelow (fields rfl)
        | array item length => exact ((below item List.mem_cons_self).type _).of_step
        | tuple items => exact positionsPlan_untaggedBelow below
        | record value keys => exact ((below value List.mem_cons_self).type _).of_step
        | union alternatives =>
            rw [barePlan]
            split
            · exact untaggedBelow_refuse
            · intro location refused
              have place := enum_untaggedBelow below refused
              split at place
              · exact place ▸ List.prefix_refl _
              · rcases place with ⟨step, longer⟩
                exact (List.prefix_append _ _).trans longer
      case member =>
        rintro ⟨_, listed, ⟨⟩⟩ structName tag trail
        exact structPlan_untaggedBelow (fields rfl)

/-- A union is refused for want of a tag exactly if its name is to be declared and no tag is found. -/
theorem refused_untagged_iff {header : Header} {alternatives : List Shape} {before : Registry} :
    ((typeOf rootName (.node header (.union alternatives)) trail).run before).1 =
        .error (.untaggedUnion trail.reverse) ↔
      discriminant? alternatives = none ∧
        ∃ name, declaredName rootName header = some name ∧ before.resolves name = false := by
  have below := fun shape (_ : shape ∈ alternatives) => shape_refusedBelow rootName shape
  rw [(shape_outlined rootName (.node header (.union alternatives))).type, run_answering_error_iff,
    typePlan, barePlan]
  cases declaredName rootName header with
  | none =>
      constructor
      · rintro ⟨_, failed⟩
        cases failed
      · rintro ⟨_, _, named, _⟩
        cases named
  | some name =>
      rw [perform, run_unlessResolved]
      by_cases resolved : before.resolves name = true
      · rw [if_pos resolved]
        constructor
        · rintro ⟨_, failed⟩
          cases failed
        · rintro ⟨_, _, named, unresolved⟩
          cases named
          cases resolved.symm.trans unresolved
      · rw [if_neg resolved]
        constructor
        · rintro ⟨after, failed⟩
          have refused := (mem_refusals_of_run (congrArg Prod.fst failed)).resolve_right
            (by rintro ⟨_, ⟨⟩⟩)
          have place := enum_untaggedBelow below refused
          split at place
          case isTrue untagged => exact ⟨untagged, name, rfl, Bool.eq_false_iff.mpr resolved⟩
          case isFalse =>
            rcases place with ⟨step, longer⟩
            exact absurd longer.length_le (by simp)
        · rintro ⟨untagged, _⟩
          rw [untagged]
          exact ⟨before, rfl⟩

end

end Nominal

namespace Schema

open Nominal

variable {schema : Schema} {tag literal : String} {id : NodeId} {alternatives : List NodeId}
  {literals : List String}

/-! ## What a tag is -/

/-- An alternative is an object that declares a field as an exact string, and this field has to be
there and not null. -/
def Requires (schema : Schema) (tag literal : String) (id : NodeId) : Prop :=
  ∃ node fields child leaf, schema.nodes[id]? = some node ∧ node.form = .object fields ∧
    (tag, child) ∈ fields ∧ schema.nodes[child]? = some leaf ∧
    leaf.form = .leaf (.exact literal) ∧ leaf.required = true ∧ leaf.nullable = false

/-- A field tells alternatives apart: all of them require an exact string there, each another one. -/
structure TellsApart (schema : Schema) (alternatives : List NodeId) (tag : String)
    (literals : List String) : Prop where
  required : List.Forall₂ (fun id literal => schema.Requires tag literal id) alternatives literals
  distinct : literals.Nodup

theorem literal?_of_mem {header fieldHeader : Header} {fields : List (String × Shape)}
    (names : (fields.map Prod.fst).Nodup)
    (field : (tag, Shape.node fieldHeader (.leaf (.exact literal))) ∈ fields)
    (required : fieldHeader.required = true) (nullable : fieldHeader.nullable = false) :
    literal? tag (.node header (.object fields)) = some literal := by
  simp only [literal?, Shape.form, (lookup_eq_some_iff_mem names).mpr field, required, nullable,
    Bool.not_false, Bool.and_self, if_true]

/-- The tree of an exact string that has to be there and is not null. -/
theorem exact_shape_iff {child : NodeId} :
    (∃ header, schema.shape child = .node header (.leaf (.exact literal)) ∧
        header.required = true ∧ header.nullable = false) ↔
      ∃ leaf, schema.nodes[child]? = some leaf ∧ leaf.form = .leaf (.exact literal) ∧
        leaf.required = true ∧ leaf.nullable = false := by
  cases listed : schema.nodes[child]? with
  | none =>
      rw [schema.shape_eq_anything listed]
      constructor
      · rintro ⟨_, same, _⟩
        cases same
      · rintro ⟨_, absent, _⟩
        cases absent
  | some leaf =>
      rw [schema.shape_eq listed]
      constructor
      · rintro ⟨_, same, flags⟩
        rcases Shape.node.inj same with ⟨rfl, isExact⟩
        exact ⟨leaf, rfl, Form.map_eq_leaf_iff.mp isExact, flags⟩
      · rintro ⟨_, same, isExact, flags⟩
        cases same
        exact ⟨_, congrArg _ (Form.map_eq_leaf_iff.mpr isExact), flags⟩

/-- What is found at an alternative is what it requires. -/
theorem literal?_shape_iff :
    literal? tag (schema.shape id) = some literal ↔ schema.Requires tag literal id := by
  cases listed : schema.nodes[id]? with
  | none =>
      rw [schema.shape_eq_anything listed]
      constructor
      · exact fun found => nomatch found
      · rintro ⟨_, _, _, _, here, _⟩
        cases listed.symm.trans here
  | some node =>
      have proper := schema.node_proper listed
      rw [schema.shape_eq listed]
      constructor
      · intro found
        rcases literal?_eq_some found with ⟨_, mapped, _, isObject, field, flags⟩
        cases form : node.form with
        | object fields =>
            rw [form] at isObject
            cases isObject
            rcases List.mem_map.mp field with ⟨⟨name, child⟩, declared, same⟩
            rcases Prod.mk.inj same with ⟨rfl, tree⟩
            rcases exact_shape_iff.mp ⟨_, tree, flags⟩ with ⟨leaf, there⟩
            exact ⟨node, fields, child, leaf, listed, form, declared, there⟩
        | _ =>
            rw [form] at isObject
            cases isObject
      · rintro ⟨_, fields, child, leaf, here, isObject, declared, there⟩
        cases listed.symm.trans here
        rcases exact_shape_iff.mpr ⟨leaf, there⟩ with ⟨header, tree, required, nullable⟩
        rw [isObject] at proper
        have names : ((fields.map fun field => (field.1, schema.shape field.2)).map Prod.fst).Nodup := by
          rw [List.map_map]
          exact proper
        have field : (tag, schema.shape child) ∈ fields.map fun field => (field.1, schema.shape field.2) :=
          List.mem_map_of_mem declared
        rw [tree] at field
        rw [isObject]
        exact literal?_of_mem names field required nullable

theorem mapM_eq_some_iff {First Second : Type} {function : First → Option Second}
    {list : List First} {results : List Second} :
    list.mapM function = some results ↔
      List.Forall₂ (fun given result => function given = some result) list results := by
  induction list generalizing results with
  | nil => simp [eq_comm]
  | cons given rest inductionHypothesis =>
      rw [List.mapM_cons, Option.bind_eq_bind, Option.bind_eq_some_iff, List.forall₂_cons_left_iff]
      simp only [Option.bind_eq_bind, Option.bind_eq_some_iff, inductionHypothesis]
      constructor
      · rintro ⟨result, here, results, later, same⟩
        exact ⟨result, results, here, later, (Option.some.inj same).symm⟩
      · rintro ⟨result, results, here, later, rfl⟩
        exact ⟨result, here, results, later, rfl⟩

theorem literals?_shape_iff :
    literals? (alternatives.map schema.shape) tag = some literals ↔
      schema.TellsApart alternatives tag literals := by
  rw [literals?, Option.filter_eq_some_iff, mapM_eq_some_iff, isDistinct_iff,
    List.forall₂_map_left_iff]
  simp only [literal?_shape_iff]
  exact ⟨fun ⟨required, distinct⟩ => ⟨required, distinct⟩,
    fun apart => ⟨apart.required, apart.distinct⟩⟩

/-! ## The search among the fields of the first alternative -/

section

variable {first : NodeId} {rest : List NodeId} {node : Node} {fields : List (String × NodeId)}

/-- What is found among alternatives: of the fields of the first one that tell all of them apart, the
first field. -/
structure IsTag (schema : Schema) (first : NodeId) (rest : List NodeId) (tag : String)
    (literals : List String) : Prop where
  apart : schema.TellsApart (first :: rest) tag literals
  earliest : ∃ node earlier child later, schema.nodes[first]? = some node ∧
    node.form = .object (earlier ++ (tag, child) :: later) ∧
    ∀ field ∈ earlier, ∀ others, ¬ schema.TellsApart (first :: rest) field.1 others

/-- A field that tells alternatives apart is one of the first alternative. -/
theorem TellsApart.first_declares (apart : schema.TellsApart (first :: rest) tag literals) :
    ∃ node fields child, schema.nodes[first]? = some node ∧ node.form = .object fields ∧
      (tag, child) ∈ fields := by
  rcases List.forall₂_cons_left_iff.mp apart.required with
    ⟨_, _, ⟨node, fields, child, _, listed, isObject, declared, _⟩, _⟩
  exact ⟨node, fields, child, listed, isObject, declared⟩

theorem discriminant?_fields (listed : schema.nodes[first]? = some node)
    (isObject : node.form = .object fields) :
    discriminant? ((first :: rest).map schema.shape) =
      fields.findSome? fun field =>
        (literals? ((first :: rest).map schema.shape) field.1).map (field.1, ·) := by
  have tree : (schema.shape first).form =
      .object (fields.map fun field => (field.1, schema.shape field.2)) := by
    rw [schema.shape_eq listed, isObject]
    rfl
  rw [discriminant?, List.map_cons, List.head?_cons, Option.map_some, tree]
  exact List.findSome?_map

theorem TellsApart.of_discriminant?
    (found : discriminant? (alternatives.map schema.shape) = some (tag, literals)) :
    schema.TellsApart alternatives tag literals := by
  rcases discriminant?_eq_some found with ⟨beside, distinct⟩
  refine ⟨?_, distinct⟩
  rw [List.map_map, ← List.forall₂_eq_eq_eq, List.forall₂_map_left_iff,
    List.forall₂_map_right_iff] at beside
  exact beside.imp fun _ _ required => literal?_shape_iff.mp required

theorem map_literals?_eq_some_iff {name : String} :
    (literals? (alternatives.map schema.shape) name).map (name, ·) = some (tag, literals) ↔
      name = tag ∧ schema.TellsApart alternatives tag literals := by
  simp only [Option.map_eq_some_iff, Prod.mk.injEq, literals?_shape_iff]
  constructor
  · rintro ⟨_, apart, rfl, rfl⟩
    exact ⟨rfl, apart⟩
  · rintro ⟨rfl, apart⟩
    exact ⟨literals, apart, rfl, rfl⟩

theorem map_literals?_eq_none_iff {name : String} :
    (literals? (alternatives.map schema.shape) name).map (name, ·) = none ↔
      ∀ others, ¬ schema.TellsApart alternatives name others := by
  rw [Option.map_eq_none_iff, Option.eq_none_iff_forall_ne_some]
  simp only [ne_eq, literals?_shape_iff]

/-- The search finds the tag, and nothing else. -/
theorem discriminant?_eq_some_iff :
    discriminant? ((first :: rest).map schema.shape) = some (tag, literals) ↔
      schema.IsTag first rest tag literals := by
  constructor
  · intro found
    have apart := TellsApart.of_discriminant? found
    rcases apart.first_declares with ⟨node, fields, _, listed, isObject, _⟩
    rw [discriminant?_fields listed isObject, List.findSome?_eq_some_iff] at found
    rcases found with ⟨earlier, ⟨name, child⟩, later, split, here, none⟩
    rcases map_literals?_eq_some_iff.mp here with ⟨rfl, _⟩
    refine ⟨apart, node, earlier, child, later, listed, split ▸ isObject, ?_⟩
    exact fun field member => map_literals?_eq_none_iff.mp (none field member)
  · rintro ⟨apart, node, earlier, child, later, listed, isObject, none⟩
    rw [discriminant?_fields listed isObject, List.findSome?_eq_some_iff]
    refine ⟨earlier, (tag, child), later, rfl, map_literals?_eq_some_iff.mpr ⟨rfl, apart⟩, ?_⟩
    exact fun field member => map_literals?_eq_none_iff.mpr (none field member)

/-- The search finds something if there is something to be found. -/
theorem isSome_discriminant?_iff :
    (discriminant? ((first :: rest).map schema.shape)).isSome = true ↔
      ∃ tag literals, schema.TellsApart (first :: rest) tag literals := by
  constructor
  · intro found
    rcases Option.isSome_iff_exists.mp found with ⟨⟨tag, literals⟩, same⟩
    exact ⟨tag, literals, .of_discriminant? same⟩
  · rintro ⟨tag, literals, apart⟩
    rcases apart.first_declares with ⟨node, fields, child, listed, isObject, declared⟩
    rw [discriminant?_fields listed isObject, List.findSome?_isSome_iff]
    exact ⟨(tag, child), declared,
      Option.isSome_iff_exists.mpr ⟨_, map_literals?_eq_some_iff.mpr ⟨rfl, apart⟩⟩⟩

end

/-! ## Alternatives in another order -/

section

variable {permuted : List NodeId} {others : List String}

/-- Each alternative has its literal, wherever it stands. -/
theorem TellsApart.literals_eq (apart : schema.TellsApart alternatives tag literals) :
    literals = alternatives.map fun id => (literal? tag (schema.shape id)).getD "" := by
  rw [← List.forall₂_eq_eq_eq, List.forall₂_map_right_iff]
  refine apart.required.flip.imp fun literal id required => ?_
  rw [literal?_shape_iff.mpr required, Option.getD_some]

/-- The alternatives with their literals change places together. -/
theorem TellsApart.zip_perm (apart : schema.TellsApart alternatives tag literals)
    (apartToo : schema.TellsApart permuted tag others) (permutes : permuted.Perm alternatives) :
    (permuted.zip others).Perm (alternatives.zip literals) := by
  rw [apart.literals_eq, apartToo.literals_eq, ← List.map_prod_left_eq_zip,
    ← List.map_prod_left_eq_zip]
  exact permutes.map _

/-- What tells alternatives apart does so in any order. -/
theorem TellsApart.of_perm (apart : schema.TellsApart alternatives tag literals)
    (permutes : permuted.Perm alternatives) : ∃ others, schema.TellsApart permuted tag others := by
  rcases List.perm_comp_forall₂ permutes apart.required with ⟨others, required, sameOthers⟩
  exact ⟨others, required, sameOthers.nodup_iff.mpr apart.distinct⟩

theorem isSome_discriminant?_of_perm (permutes : permuted.Perm alternatives) :
    (discriminant? (permuted.map schema.shape)).isSome =
      (discriminant? (alternatives.map schema.shape)).isSome := by
  cases alternatives with
  | nil => rw [List.perm_nil.mp permutes]
  | cons first rest =>
      cases permuted with
      | nil => exact absurd permutes.symm (List.not_perm_nil_cons _ _ ∘ List.Perm.symm)
      | cons firstToo restToo =>
          rw [Bool.eq_iff_iff, isSome_discriminant?_iff, isSome_discriminant?_iff]
          constructor
          · rintro ⟨tag, literals, apart⟩
            exact ⟨tag, apart.of_perm permutes.symm⟩
          · rintro ⟨tag, literals, apart⟩
            exact ⟨tag, apart.of_perm permutes⟩

/-- The search for a tag does not depend on the order of the alternatives.  It finds something exactly
if some field tells them all apart; then it finds the first such field of the first alternative, and
the literals in the order of the alternatives.  In any other order of the alternatives something is
found in the same cases, with the literals beside the same alternatives if the tag is the same; and
the union, wherever it stands and whatever it is called, is refused for want of a tag in the same
cases. -/
theorem tag_found_in_any_order (schema : Schema) (first : NodeId) (rest permuted : List NodeId)
    (permutes : permuted.Perm (first :: rest)) :
    ((discriminant? ((first :: rest).map schema.shape)).isSome = true ↔
      ∃ tag literals, schema.TellsApart (first :: rest) tag literals) ∧
    (∀ tag literals, discriminant? ((first :: rest).map schema.shape) = some (tag, literals) ↔
      schema.IsTag first rest tag literals) ∧
    (discriminant? (permuted.map schema.shape)).isSome =
      (discriminant? ((first :: rest).map schema.shape)).isSome ∧
    (∀ tag literals others,
      discriminant? ((first :: rest).map schema.shape) = some (tag, literals) →
      discriminant? (permuted.map schema.shape) = some (tag, others) →
      (permuted.zip others).Perm ((first :: rest).zip literals)) ∧
    ∀ (rootName : Option String) (header : Header) (trail : Location) (before : Registry),
      ((typeOf rootName (.node header (.union (permuted.map schema.shape))) trail).run before).1 =
          .error (.untaggedUnion trail.reverse) ↔
        ((typeOf rootName (.node header (.union ((first :: rest).map schema.shape))) trail).run
          before).1 = .error (.untaggedUnion trail.reverse) := by
  have same : (discriminant? (permuted.map schema.shape)).isSome =
      (discriminant? ((first :: rest).map schema.shape)).isSome := isSome_discriminant?_of_perm permutes
  refine ⟨isSome_discriminant?_iff, fun tag literals => discriminant?_eq_some_iff, same, ?_, ?_⟩
  · intro tag literals others found foundToo
    exact (TellsApart.of_discriminant? found).zip_perm (.of_discriminant? foundToo) permutes
  · intro rootName header trail before
    rw [refused_untagged_iff, refused_untagged_iff, ← Option.isNone_iff_eq_none,
      ← Option.isNone_iff_eq_none, ← Option.not_isSome, ← Option.not_isSome, same]

end

/-- A union of three readings that are told apart by their kind, and as well by their unit.  Two of
them declare these fields in the other order. -/
def readings : Schema :=
  ⟨#[⟨.leaf (.exact "speed"), true, false, none, none⟩,
      ⟨.leaf (.exact "km/h"), true, false, none, none⟩,
      ⟨.leaf (.exact "distance"), true, false, none, none⟩,
      ⟨.leaf (.exact "km"), true, false, none, none⟩,
      ⟨.leaf (.exact "duration"), true, false, none, none⟩,
      ⟨.leaf (.exact "h"), true, false, none, none⟩,
      ⟨.leaf (.integer .unbounded), true, false, none, none⟩,
      ⟨.object [("at", 6), ("kind", 0), ("unit", 1)], true, false, some "Speed", none⟩,
      ⟨.object [("unit", 3), ("kind", 2)], true, false, some "Distance", none⟩,
      ⟨.object [("kind", 4), ("unit", 5)], true, false, some "Duration", none⟩,
      ⟨.union [7, 8, 9], true, false, some "Reading", none⟩],
    10, by decide, by decide⟩

/-- With another reading in front the tag is the same or another one, but there is one. -/
theorem tag_found_in_any_order_readings :
    [9, 7, 8].Perm [7, 8, 9] ∧
    discriminant? ([7, 8, 9].map readings.shape) = some ("kind", ["speed", "distance", "duration"]) ∧
    discriminant? ([9, 7, 8].map readings.shape) = some ("kind", ["duration", "speed", "distance"]) ∧
    discriminant? ([8, 7, 9].map readings.shape) = some ("unit", ["km", "km/h", "h"]) ∧
    readings.IsTag 7 [8, 9] "kind" ["speed", "distance", "duration"] ∧
    ([9, 7, 8].zip ["duration", "speed", "distance"]).Perm
      ([7, 8, 9].zip ["speed", "distance", "duration"]) ∧
    (discriminant? ([8, 7, 9].map readings.shape)).isSome =
      (discriminant? ([7, 8, 9].map readings.shape)).isSome := by
  have rotated : [9, 7, 8].Perm [7, 8, 9] := by decide
  have swapped : [8, 7, 9].Perm [7, 8, 9] := by decide
  have found : discriminant? ([7, 8, 9].map readings.shape) =
      some ("kind", ["speed", "distance", "duration"]) := by decide +kernel
  have foundToo : discriminant? ([9, 7, 8].map readings.shape) =
      some ("kind", ["duration", "speed", "distance"]) := by decide +kernel
  rcases tag_found_in_any_order readings 7 [8, 9] [9, 7, 8] rotated with
    ⟨_, isTag, _, together, _⟩
  have same := (tag_found_in_any_order readings 7 [8, 9] [8, 7, 9] swapped).2.2.1
  exact ⟨rotated, found, foundToo, by decide +kernel, (isTag _ _).mp found,
    together _ _ _ found foundToo, same⟩

end Schema
end Conformance
