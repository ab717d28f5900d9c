import Conformance.Proofs.Emission.Declaration
import Conformance.Proofs.Emission.Generation

namespace Conformance

/-!
# Registries in order

A registry is in order if every declaration in it uses only names that were registered
before, and no name is registered twice.  Emission keeps registries in order, even where it
fails half way: whatever is registered by then has what it needs in front of it.

This does not hold of registrations on their own.  A declaration may be registered only
where its names are known, so plans are described by the names that they need and those that
they provide.  A plan that is given what it needs leaves a registry in order in any case,
and if it comes to its end, then with the names that it provides.
-/

namespace Registry

variable {registry before after : Registry} {tells : Nominal.Declaration → Prop}
variable {name text : String} {fresh : Bool}

/-- A registry that lists no name twice, and in which every declaration is one that is told
of and uses only names that are listed in front of it. -/
structure InOrder (tells : Nominal.Declaration → Prop) (registry : Registry) : Prop where
  names_nodup : registry.names.Nodup
  closed : ∀ {front rest : List (String × String)} {name text : String},
    registry.definitions = front ++ (name, text) :: rest →
    ∃ declaration, tells declaration ∧ declaration.name = name ∧ declaration.text = text ∧
      ∀ used ∈ declaration.uses, used ∈ front.map Prod.fst

theorem contains_iff_mem_names : registry.contains name = true ↔ name ∈ registry.names := by
  rw [contains, get?, List.lookup_isSome_iff, names, List.mem_map]
  constructor
  · rintro ⟨declared, listed, same⟩
    exact ⟨declared, listed, (beq_iff_eq.mp same).symm⟩
  · rintro ⟨declared, listed, same⟩
    exact ⟨declared, listed, beq_iff_eq.mpr same.symm⟩

theorem contains_of_insert (inserted : before.insert name text = .ok (fresh, after)) :
    after.contains name = true := by
  rcases exists_get?_of_insert inserted with ⟨held, known, _⟩
  rw [contains, known]
  rfl

/-- A registration adds at the end. -/
theorem insert_keeps (inserted : before.insert name text = .ok (fresh, after)) :
    before.definitions <+: after.definitions := by
  rcases insert_cases inserted with ⟨_, rfl⟩ | ⟨_, _, rfl, _⟩
  · exact List.prefix_append _ _
  · exact List.prefix_rfl

theorem inOrder_empty (tells : Nominal.Declaration → Prop) (mode : RegistryMode) :
    (Registry.empty mode).InOrder tells :=
  ⟨List.nodup_nil, fun split => absurd split (by simp [empty])⟩

/-- Where all names that a declaration uses are known, it can be registered. -/
theorem InOrder.insert {declaration : Nominal.Declaration} (inOrder : before.InOrder tells)
    (told : tells declaration)
    (known : ∀ used ∈ declaration.uses, before.contains used = true)
    (inserted : before.insert declaration.name declaration.text = .ok (fresh, after)) :
    after.InOrder tells := by
  refine ⟨names_nodup_of_insert inserted inOrder.names_nodup, ?_⟩
  rcases insert_cases inserted with ⟨_, rfl⟩ | ⟨_, _, rfl, _⟩
  · intro front rest name text split
    -- The declaration asked for is the new one, or it was there before.
    rcases rest.eq_nil_or_concat' with rfl | ⟨others, last, rfl⟩
    · rcases List.append_singleton_inj.mp split with ⟨rfl, same⟩
      cases same
      exact ⟨declaration, told, rfl, rfl, fun used member =>
        contains_iff_mem_names.mp (known used member)⟩
    · rw [← List.cons_append, ← List.append_assoc] at split
      exact inOrder.closed (List.append_singleton_inj.mp split).1
  · exact inOrder.closed

end Registry

/-! ## Plans that may fail -/

namespace Plan

variable {plan first second : Plan} {before after : Registry} {name text : String}

/-- The registry that a plan leaves, whether it comes to its end or not. -/
def leaves (plan : Plan) (before : Registry) : Registry := (plan.perform.run before).2

theorem Leads.leaves_eq (leads : plan.Leads before after) : plan.leaves before = after := by
  rw [leaves, show plan.perform.run before = (.ok (), after) from leads]

/-- A plan comes to its end or fails with an error. -/
theorem leads_or_fails (plan : Plan) (before : Registry) :
    plan.Leads before (plan.leaves before) ∨
      ∃ error, plan.perform.run before = (.error error, plan.leaves before) := by
  rw [Leads, Emitting.Answers, leaves]
  rcases plan.perform.run before with ⟨result, after⟩
  cases result with
  | ok answer => exact .inl rfl
  | error error => exact .inr ⟨error, rfl⟩

/-- The second part is carried out if the first one came to its end. -/
theorem leaves_inOrder (first second : Plan) (before : Registry) :
    (first.Leads before (first.leaves before) ∧
      (inOrder first second).leaves before = second.leaves (first.leaves before)) ∨
    (inOrder first second).leaves before = first.leaves before := by
  have run : (inOrder first second).leaves before =
      ((first.perform >>= fun _ => second.perform).run before).2 := rfl
  rw [run, Emitting.run_bind]
  rcases leads_or_fails first before with leads | ⟨error, fails⟩
  · refine .inl ⟨leads, ?_⟩
    rw [show first.perform.run before = (.ok (), first.leaves before) from leads]
    rfl
  · rw [fails]
    exact .inr rfl

theorem leaves_register (name text : String) (before : Registry) :
    (∃ fresh, before.insert name text = .ok (fresh, (register name text).leaves before)) ∨
      (register name text).leaves before = before := by
  rw [leaves, perform, Emitting.run_declare]
  cases before.insert name text with
  | ok result => exact .inl ⟨result.1, rfl⟩
  | error error => exact .inr rfl

theorem leaves_unlessKnown (name : String) (plan : Plan) (before : Registry) :
    (unlessKnown name plan).leaves before =
      if before.resolves name then before else plan.leaves before := by
  rw [leaves, perform, Nominal.run_unlessResolved]
  cases before.resolves name <;> rfl

/-- What registrations keep is kept by plans, even where they fail. -/
theorem leaves_preserves {motive : Registry → Prop}
    (insert : ∀ {before after : Registry} {name text : String} {fresh : Bool},
      before.insert name text = .ok (fresh, after) → motive before → motive after) :
    ∀ (plan : Plan) {before : Registry}, motive before → motive (plan.leaves before) := by
  intro plan
  induction plan with
  | nothing => exact fun holds => holds
  | refuse error => exact fun holds => holds
  | inOrder first second firstHypothesis secondHypothesis =>
      intro before holds
      rcases leaves_inOrder first second before with ⟨_, equal⟩ | equal
      · rw [equal]
        exact secondHypothesis (firstHypothesis holds)
      · rw [equal]
        exact firstHypothesis holds
  | register name text =>
      intro before holds
      rcases leaves_register name text before with ⟨fresh, inserted⟩ | equal
      · exact insert inserted holds
      · rwa [equal]
  | unlessKnown name plan inductionHypothesis =>
      intro before holds
      rw [leaves_unlessKnown]
      split
      case isTrue => exact holds
      case isFalse => exact inductionHypothesis holds

/-- Plans add at the end. -/
theorem leaves_keeps (plan : Plan) (before : Registry) :
    before.definitions <+: (plan.leaves before).definitions :=
  leaves_preserves (motive := fun registry => before.definitions <+: registry.definitions)
    (fun inserted earlier => earlier.trans (Registry.insert_keeps inserted)) plan List.prefix_rfl

/-! ## What plans need and provide -/

/-- A plan that finds a registry in order and knows the names that it needs leaves the
registry in order, even where it fails.  If it comes to its end, the names that it provides
are known. -/
structure Provides (tells : Nominal.Declaration → Prop) (plan : Plan)
    (needs gives : List String) : Prop where
  keeps : ∀ {before : Registry}, before.InOrder tells →
    (∀ name ∈ needs, before.contains name = true) → (plan.leaves before).InOrder tells
  provides : ∀ {before after : Registry}, plan.Leads before after →
    ∀ name ∈ gives, after.contains name = true

section

variable {tells : Nominal.Declaration → Prop} {needs middle gives : List String}

theorem provides_nothing : nothing.Provides tells needs [] :=
  ⟨fun inOrder _ => inOrder, fun _ => nofun⟩

theorem provides_refuse {error : EmissionError} : (refuse error).Provides tells needs gives :=
  ⟨fun inOrder _ => inOrder, fun leads => absurd leads not_leads_refuse⟩

theorem Provides.weaken (provided : plan.Provides tells needs gives) {more fewer : List String}
    (needed : ∀ name ∈ needs, name ∈ more) (given : ∀ name ∈ fewer, name ∈ gives) :
    plan.Provides tells more fewer where
  keeps inOrder known := provided.keeps inOrder fun name member => known name (needed name member)
  provides leads name member := provided.provides leads name (given name member)

/-- What the first part provides, the second one may need. -/
theorem Provides.inOrder (early : first.Provides tells needs middle)
    (late : second.Provides tells middle gives) :
    (inOrder first second).Provides tells needs (middle ++ gives) := by
  constructor
  case keeps =>
    intro before inOrder known
    have between := early.keeps inOrder known
    rcases leaves_inOrder first second before with ⟨leads, equal⟩ | equal
    · rw [equal]
      exact late.keeps between (early.provides leads)
    · rw [equal]
      exact between
  case provides =>
    intro before after leads name member
    rcases leads_inOrder.mp leads with ⟨between, firstLeads, secondLeads⟩
    rcases List.mem_append.mp member with fromFirst | fromSecond
    · exact secondLeads.extends.contains (early.provides firstLeads name fromFirst)
    · exact late.provides secondLeads name fromSecond

/-- Two parts that need nothing. -/
theorem Provides.beside (early : first.Provides tells [] middle)
    (late : second.Provides tells [] gives) :
    (Plan.inOrder first second).Provides tells [] (middle ++ gives) :=
  early.inOrder (late.weaken (List.forall_mem_nil _) fun _ member => member)

/-- A declaration needs the names that it uses and provides its own. -/
theorem provides_register {declaration : Nominal.Declaration} (told : tells declaration) :
    (register declaration.name declaration.text).Provides tells declaration.uses
      [declaration.name] := by
  constructor
  case keeps =>
    intro before inOrder known
    rcases leaves_register declaration.name declaration.text before with ⟨fresh, inserted⟩ | equal
    · exact inOrder.insert told known inserted
    · rwa [equal]
  case provides =>
    intro before after leads name member
    rcases leads_register.mp leads with ⟨fresh, inserted⟩
    rw [List.mem_singleton.mp member]
    exact Registry.contains_of_insert inserted

/-- Where a name can be passed over, it is known already. -/
theorem Provides.unlessKnown (provided : plan.Provides tells needs [name]) :
    (unlessKnown name plan).Provides tells needs [name] := by
  constructor
  case keeps =>
    intro before inOrder known
    rw [leaves_unlessKnown]
    split
    case isTrue => exact inOrder
    case isFalse => exact provided.keeps inOrder known
  case provides =>
    intro before after leads other member
    rw [leads_unlessKnown] at leads
    split at leads
    case isTrue resolved =>
      rw [Registry.resolves, Bool.and_eq_true] at resolved
      rw [leads, List.mem_singleton.mp member]
      exact resolved.2
    case isFalse => exact provided.provides leads other member

end

end Plan

/-! ## The plan of a node provides the names that its type uses -/

namespace Nominal
namespace Site

variable {rootName : Option String} {header : Header} {role : Role} {trail : Location}
variable {tells : Declaration → Prop}

/-- The declared names by which a node is referred to from where it stands. -/
def uses (rootName : Option String) : Site → List String
  | ⟨shape, .type⟩ => (typeRef rootName shape).uses
  | ⟨shape, .field⟩ => (fieldRef rootName shape).uses
  | ⟨_, .member name _⟩ => [name]

/-- The declarations of all nodes that the walk comes to are told of. -/
def AllTold (tells : Declaration → Prop) (rootName : Option String) (site : Site) : Prop :=
  ∀ target declaration, Reaches site target → target.told? rootName = some declaration →
    tells declaration

theorem AllTold.below {site target : Site} (all : site.AllTold tells rootName)
    (below : Below site target) : target.AllTold tells rootName :=
  fun other declaration reached told => all other declaration (.head below reached) told

/-- In any role, the plan of a node needs nothing and provides the names by which the node is
referred to. -/
def Provided (rootName : Option String) (shape : Shape) : Prop :=
  ∀ (role : Role) (trail : Location) {tells : Declaration → Prop},
    AllTold tells rootName ⟨shape, role⟩ →
      (plan rootName trail ⟨shape, role⟩).Provides tells [] (uses rootName ⟨shape, role⟩)

/-- The declared names in the types of some fields. -/
def fieldUses (rootName tag : Option String) (fields : List (String × Shape)) : List String :=
  (fieldsWithout tag fields).flatMap fun field => (fieldRef rootName field.2).uses

theorem fieldsPlan_provides {tag : Option String} {fields : List (String × Shape)}
    (each : ∀ field ∈ fields, some field.1 ≠ tag → ∀ trail,
      (fieldPlan rootName field.2 trail).Provides tells [] (fieldRef rootName field.2).uses) :
    (fieldsPlan rootName tag fields trail).Provides tells [] (fieldUses rootName tag fields) := by
  induction fields with
  | nil => exact Plan.provides_nothing
  | cons field rest inductionHypothesis =>
      rcases field with ⟨name, ⟨header, form⟩⟩
      rw [List.forall_mem_cons] at each
      have others := inductionHypothesis each.2
      rw [fieldsPlan]
      by_cases isTag : some name = tag
      · have same : fieldUses rootName tag ((name, .node header form) :: rest) =
            fieldUses rootName tag rest := by simp [fieldUses, fieldsWithout, isTag]
        rw [if_pos (beq_iff_eq.mpr isTag), same]
        exact others
      · have split : fieldUses rootName tag ((name, .node header form) :: rest) =
            (fieldRef rootName (.node header form)).uses ++ fieldUses rootName tag rest := by
          simp [fieldUses, fieldsWithout, isTag]
        rw [if_neg (mt beq_iff_eq.mp isTag), split]
        exact (each.1 isTag (.field name :: trail)).beside others

theorem positionsPlan_provides {shapes : List Shape} {index : Nat}
    (each : ∀ shape ∈ shapes, ∀ trail,
      (typePlan rootName shape trail).Provides tells [] (typeRef rootName shape).uses) :
    (positionsPlan rootName shapes index trail).Provides tells []
      (TypeRef.usesEach (typeRefs rootName shapes)) := by
  induction shapes generalizing index with
  | nil => exact Plan.provides_nothing
  | cons shape rest inductionHypothesis =>
      rw [List.forall_mem_cons] at each
      rw [positionsPlan, typeRefs, TypeRef.usesEach]
      exact (each.1 _).beside (inductionHypothesis each.2)

theorem variantsPlan_provides {enumName tag : String} {alternatives : List Shape}
    {literals : List String} {index : Nat} {seen : List (String × String)}
    (each : ∀ pair ∈ alternatives.zip literals, ∀ trail,
      (memberPlan rootName (structName pair.1.header pair.2) tag pair.1 trail).Provides tells []
        [structName pair.1.header pair.2]) :
    (variantsPlan rootName enumName tag alternatives literals index seen trail).Provides tells []
      (Declaration.uses (.enum (.ofUnion enumName tag alternatives literals))) := by
  induction alternatives generalizing literals index seen with
  | nil => cases literals <;> exact Plan.provides_nothing
  | cons shape rest inductionHypothesis =>
      cases literals with
      | nil => exact Plan.provides_nothing
      | cons literal literals =>
          rw [List.zip_cons_cons, List.forall_mem_cons] at each
          rw [variantsPlan]
          split
          case h_1 => exact Plan.provides_refuse
          case h_2 =>
            split
            case isTrue => exact Plan.provides_refuse
            case isFalse => exact (each.1 _).beside (inductionHypothesis each.2)

/-- An object provides its name, after the names in the types of its fields. -/
theorem structPlan_provides {name : String} {fields : List (String × Shape)}
    (named : role.name? rootName header = some name)
    (provided : ∀ shape ∈ fields.map Prod.snd, Provided rootName shape)
    (all : AllTold tells rootName ⟨.node header (.object fields), role⟩) :
    (structPlan rootName name role.tag? fields trail
      (fieldsPlan rootName role.tag? fields trail)).Provides tells [] [name] := by
  have told : tells (.ofFields rootName name role.tag? fields) := by
    apply all _ _ .refl
    rw [told?, named]
    rfl
  have clash : (clashPlan role.tag? fields trail).Provides tells [] [] := by
    rw [clashPlan]
    split
    case h_1 => exact Plan.provides_refuse
    case h_2 => exact Plan.provides_nothing
  have parts : (fieldsPlan rootName role.tag? fields trail).Provides tells []
      (fieldUses rootName role.tag? fields) := by
    refine fieldsPlan_provides fun field listed notTag trail => ?_
    exact provided _ (List.mem_map_of_mem listed) .field trail (all.below (.field listed notTag))
  have registered := Plan.provides_register told
  rw [Declaration.ofFields_text] at registered
  have needed : ∀ used ∈ (Declaration.ofFields rootName name role.tag? fields).uses,
      used ∈ [] ++ fieldUses rootName role.tag? fields := by
    intro used member
    rcases Declaration.mem_uses_ofFields.mp member with ⟨field, listed, inside⟩
    exact List.mem_flatMap.mpr ⟨field, listed, inside⟩
  have whole := (clash.beside parts).inOrder (registered.weaken needed fun _ member => member)
  exact (whole.weaken (List.forall_mem_nil _) fun other member => List.mem_append_right _ member).unlessKnown

/-- A form provides the names by which it is referred to, if its children do. -/
theorem barePlan_provides {form : Form Shape}
    (provided : ∀ shape ∈ form.children, Provided rootName shape)
    (named : role.name? rootName header = declaredName rootName header)
    (untagged : role.tag? = none)
    (all : AllTold tells rootName ⟨.node header form, role⟩) :
    (barePlan rootName header form trail).Provides tells [] (bareRef rootName header form).uses := by
  cases form with
  | leaf scalar =>
      rw [barePlan, leafPlan]
      cases scalar with
      | buffer | exact => exact Plan.provides_refuse
      | _ => exact Plan.provides_nothing
  | object fields =>
      rw [barePlan, bareRef]
      split
      case h_1 => exact Plan.provides_refuse
      case h_2 name found =>
        have asRole : (structPlan rootName name role.tag? fields trail
            (fieldsPlan rootName role.tag? fields trail)).Provides tells [] [name] :=
          structPlan_provides (named.trans found) provided all
        rw [untagged] at asRole
        rw [found]
        exact asRole
  | array item length =>
      exact provided item List.mem_cons_self .type _ (all.below .item)
  | tuple items =>
      exact positionsPlan_provides fun shape listed trail =>
        provided shape listed .type trail (all.below (.position listed))
  | record value keys =>
      exact provided value List.mem_cons_self .type _ (all.below .value)
  | union alternatives =>
      rw [barePlan, bareRef]
      split
      case h_1 => exact Plan.provides_refuse
      case h_2 name found =>
        rw [found]
        cases tagged : discriminant? alternatives with
        | none => exact Plan.provides_refuse.unlessKnown
        | some pair =>
            rcases pair with ⟨tag, literals⟩
            have told : tells (.enum (.ofUnion name tag alternatives literals)) := by
              apply all _ _ .refl
              rw [told?, named, found, tagged]
              rfl
            have parts : (variantsPlan rootName name tag alternatives literals 0 [] trail).Provides tells
                [] (Declaration.uses (.enum (.ofUnion name tag alternatives literals))) :=
              variantsPlan_provides fun pair listed trail =>
                provided pair.1 (List.of_mem_zip listed).1 (.member _ tag) trail
                  (all.below (.member tagged listed))
            exact ((parts.inOrder (Plan.provides_register told)).weaken (List.forall_mem_nil _)
              fun other member => List.mem_append_right _ member).unlessKnown

theorem presenceRef_uses (header : Header) (type : TypeRef) :
    (presenceRef header type).uses = type.uses := by
  rw [presenceRef]
  split <;> rfl

/-- A node provides the names by which it is referred to. -/
theorem shape_provided (rootName : Option String) (shape : Shape) : Provided rootName shape := by
  induction shape using Shape.induction with
  | node header form provided =>
      intro role trail tells all
      cases role with
      | type =>
          rw [plan, uses, typePlan, typeRef, presenceRef_uses]
          exact barePlan_provides provided rfl rfl all
      | field =>
          rw [plan, uses, fieldPlan]
          by_cases exact : ∃ expected, form = .leaf (.exact expected)
          case pos =>
            rcases exact with ⟨expected, rfl⟩
            have none : (fieldRef rootName (.node header (.leaf (.exact expected)))).uses = [] := by
              rw [fieldRef]
              split <;> rfl
            rw [none, asField]
            split
            · exact Plan.provides_nothing
            · exact Plan.provides_refuse
          case neg =>
            have inexact : ∀ expected, form ≠ .leaf (.exact expected) :=
              fun expected same => exact ⟨expected, same⟩
            have asType : fieldRef rootName (.node header form) =
                presenceRef header (bareRef rootName header form) := by
              rw [fieldRef]
              exact inexact
            have samePlan : asField header form trail (barePlan rootName header form trail) =
                barePlan rootName header form trail := by
              rw [asField]
              exact inexact
            rw [asType, presenceRef_uses, samePlan]
            exact barePlan_provides provided rfl rfl all
      | member name tag =>
          cases form with
          | object fields =>
              have named : (Role.member name tag).name? rootName header = some name := rfl
              exact structPlan_provides named provided all
          | _ => exact Plan.provides_refuse

end Site
end Nominal
end Conformance
