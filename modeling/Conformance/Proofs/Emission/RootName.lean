import Conformance.Proofs.Emission.Generation
import Conformance.Proofs.Emission.Sites

namespace Conformance

/-!
# The declaration of a named root

A root that is given a name is declared under it: as a struct, as an enum, or by an alias.
This happens after everything below the root is registered.  If a node below has taken the
name by then, a lenient registry keeps the declaration of that node, as it does with every
first declaration.  A strict registry refuses the generation instead, as long as the root
is an object or a union.

About an alias in a strict registry nothing is said here in case the name is taken.
-/

namespace Nominal

open Site

variable {name : String} {header : Header} {form : Form Shape} {before after : Registry}

/-- The declaration of a root of its own, under the name that it is given. -/
def ownDeclaration? (name : String) : Shape → Option String
  | .node _ (.object fields) => some (structDeclaration (some name) name none fields)
  | .node _ (.union alternatives) =>
      (discriminant? alternatives).map fun (tag, literals) =>
        (EnumDeclaration.ofUnion name tag alternatives literals).text
  | shape => some (aliasText name (reference (some name) shape))

/-- How everything below a root is registered. -/
def belowPlan (name : String) : Shape → Plan
  | .node _ (.object fields) =>
      .inOrder (clashPlan none fields []) (fieldsPlan (some name) none fields [])
  | .node _ (.union alternatives) =>
      match discriminant? alternatives with
      | none => .refuse (.untaggedUnion [])
      | some (tag, literals) => variantsPlan (some name) name tag alternatives literals 0 [] []
  | shape => typePlan (some name) shape []

/-- The root of a schema is referred to by the name that it is given. -/
theorem declaredName_entry (isEntry : header.isEntry = true) :
    declaredName (some name) header = some name := by
  rw [declaredName, isEntry]
  rfl

/-- An object or a union that is given a name is registered after everything below it. -/
theorem leads_entry (isEntry : header.isEntry = true)
    (isDeclared : IsDeclared ⟨.node header form, .type⟩) (unknown : before.get? name = none)
    (leads : (typePlan (some name) (.node header form) []).Leads before after) :
    ∃ own below fresh, ownDeclaration? name (.node header form) = some own ∧
      (belowPlan name (.node header form)).Leads before below ∧
      below.insert name own = .ok (fresh, after) := by
  have unresolved : ¬ before.resolves name = true := by
    simp [Registry.resolves, Registry.contains, unknown]
  rcases isDeclared with ⟨fields, isObject⟩ | ⟨alternatives, isUnion⟩
  · cases isObject
    rw [typePlan, barePlan, declaredName_entry isEntry] at leads
    simp only [structPlan] at leads
    rw [Plan.leads_unlessKnown, if_neg unresolved, Plan.leads_inOrder] at leads
    rcases leads with ⟨below, parts, registered⟩
    rcases Plan.leads_register.mp registered with ⟨fresh, inserted⟩
    exact ⟨_, below, fresh, rfl, parts, inserted⟩
  · cases isUnion
    rw [typePlan, barePlan, declaredName_entry isEntry] at leads
    simp only at leads
    rw [Plan.leads_unlessKnown, if_neg unresolved] at leads
    cases tagged : discriminant? alternatives with
    | none =>
        rw [tagged] at leads
        exact absurd leads Plan.not_leads_refuse
    | some pair =>
        rcases pair with ⟨tag, literals⟩
        rw [tagged] at leads
        rcases Plan.leads_inOrder.mp leads with ⟨below, parts, registered⟩
        rcases Plan.leads_register.mp registered with ⟨fresh, inserted⟩
        refine ⟨(EnumDeclaration.ofUnion name tag alternatives literals).text, below, fresh, ?_, ?_,
          inserted⟩
        · rw [ownDeclaration?, tagged]
          rfl
        · rw [belowPlan, tagged]
          exact parts

/-- Whatever is registered before the root is declared by a node below the root. -/
theorem declaresBelow_of_belowPlan {shape : Shape} {declaration : String × String}
    (declared : declaration ∈ (belowPlan name shape).declarations) :
    DeclaresBelow (some name) ⟨shape, .type⟩ declaration := by
  rcases shape with ⟨header, form⟩
  have traced (child : Shape) : Traced (some name) child := shape_traced (some name) child
  -- A node that is only referred to has no declaration, so its walk has to go on.
  have further (undeclared : declaration? (some name) ⟨.node header form, .type⟩ = none)
      (inPlan : declaration ∈ (typePlan (some name) (.node header form) []).declarations) :
      DeclaresBelow (some name) ⟨.node header form, .type⟩ declaration := by
    rcases traced (.node header form) .type [] declaration inPlan with ⟨target, reached, found⟩
    rcases Relation.reflTransGen_iff_eq_or_transGen.mp reached with rfl | below
    · rw [undeclared] at found
      cases found
    · exact ⟨target, below, found⟩
  cases form with
  | object fields =>
      rw [belowPlan, Plan.declarations, clashPlan_declarations, List.nil_append] at declared
      exact fieldsPlan_declaresBelow .type (fun child _ => traced child) declared
  | union alternatives =>
      rw [belowPlan] at declared
      split at declared
      case h_1 => cases declared
      case h_2 tag literals tagged =>
        exact variantsPlan_declaresBelow tagged (fun child _ => traced child) declared
  | leaf | array | tuple | record => exact further rfl declared

/-- On an empty registry, whatever a name stands for before the root is registered, is the
declaration of a node below the root. -/
theorem declaresBelow_of_leads {shape : Shape} {mode : RegistryMode} {below : Registry}
    (leads : (belowPlan name shape).Leads (.empty mode) below) {other held : String}
    (known : below.get? other = some held) :
    DeclaresBelow (some name) ⟨shape, .type⟩ (other, held) := by
  rcases leads.get?_cases known with early | declared
  · cases early
  · exact declaresBelow_of_belowPlan declared

/-- A root that is neither an object nor a union is only referred to, so everything is below it
and its own declaration is an alias. -/
theorem alias_entry (undeclared : ¬ IsDeclared ⟨.node header form, .type⟩) :
    belowPlan name (.node header form) = typePlan (some name) (.node header form) [] ∧
      ownDeclaration? name (.node header form) =
        some (aliasText name (reference (some name) (.node header form))) := by
  cases form with
  | object fields =>
      apply absurd _ undeclared
      exact .inl ⟨fields, rfl⟩
  | union alternatives =>
      apply absurd _ undeclared
      exact .inr ⟨alternatives, rfl⟩
  | leaf | array | tuple | record => exact ⟨rfl, rfl⟩

end Nominal

namespace Schema

open Nominal

/-- The root of a schema is marked as such. -/
theorem rootShape_eq (schema : Schema) :
    ∃ header form, schema.rootShape = .node header form ∧ header.isEntry = true := by
  have listed : schema.nodes[schema.root]? = some schema.rootNode :=
    Array.getElem?_eq_getElem schema.root_lt
  exact ⟨_, _, schema.shape_eq listed, beq_self_eq_true schema.root⟩

/-- Where a generation with a name for the root succeeds on an empty registry, the root has a
declaration of its own.  That one is registered under the name if nothing below the root has
been, and in a strict registry also if the root is an object or a union.  Whatever has been
registered under the name before, was declared by a node below the root, and stays in a
registry where the first declaration wins. -/
theorem named_root_entry (schema : Schema) {name : String} {mode : RegistryMode} {text : String}
    {after : Registry} (generated : (schema.generate .rust (some name)).Answers (.empty mode) text after) :
    ∃ own below, ownDeclaration? name schema.rootShape = some own ∧
      (belowPlan name schema.rootShape).Leads (.empty mode) below ∧
      (∀ held, below.get? name = some held →
        Site.DeclaresBelow (some name) ⟨schema.rootShape, .type⟩ (name, held)) ∧
      (below.get? name = none → after.get? name = some own) ∧
      (mode = .strict → Site.IsDeclared ⟨schema.rootShape, .type⟩ → after.get? name = some own) ∧
      (mode = .firstWins → ∀ held, below.get? name = some held → after.get? name = some held) := by
  rcases Nominal.generate_answers.mp generated with ⟨between, leads, concludes, _⟩
  rcases schema.rootShape_eq with ⟨header, form, tree, isEntry⟩
  have unknown : (Registry.empty mode).get? name = none := rfl
  rw [rootPlan, tree] at leads
  rw [tree]
  by_cases isDeclared : Site.IsDeclared ⟨.node header form, .type⟩
  case pos =>
    rcases leads_entry isEntry isDeclared unknown leads with ⟨own, below, fresh, ownEq, parts, inserted⟩
    -- The name of the root is taken in any case, so there is no alias.
    have same : after = between := by
      rcases Registry.exists_get?_of_insert inserted with ⟨held, known, _⟩
      exact concludes.eq_of_known known
    rw [same]
    refine ⟨own, below, ownEq, parts, fun _ => declaresBelow_of_leads parts, ?_, ?_, ?_⟩
    · intro absent
      rw [Registry.insert_unknown absent] at inserted
      cases inserted
      rw [Registry.get?_append, absent, if_pos rfl, Option.none_or]
    · intro strict _
      have strictBelow : below.mode = .strict := parts.extends.mode_eq.trans strict
      rw [Registry.get?_insert_iff strictBelow inserted]
      exact .inr rfl
    · intro _ held known
      exact (Registry.insert_extends inserted).keeps known
  case neg =>
    rcases alias_entry isDeclared with ⟨planned, ownEq⟩
    rw [← planned] at leads
    refine ⟨_, between, ownEq, leads, fun _ => declaresBelow_of_leads leads, ?_, ?_, ?_⟩
    · intro absent
      rw [concludes.get?_of_unknown absent, tree]
    · intro _ wrong
      exact absurd wrong isDeclared
    · intro _ held known
      exact concludes.extends.keeps known

/-- A parcel with another parcel inside. -/
def parcels : Schema :=
  ⟨#[⟨.leaf .boolean, true, false, none, none⟩,
      ⟨.object [("sealed", 0)], true, false, some "Parcel", none⟩,
      ⟨.object [("inside", 1)], true, false, none, none⟩],
    2, by decide, by decide⟩

/-- The root is not registered under its name if a node below it has taken the name first. -/
theorem parcel_inside_takes_root_name :
    let generation := (parcels.generate .rust (some "Parcel")).run (.empty .firstWins)
    generation.1 = .ok generation.2.render ∧
      ¬ generation.2.get? "Parcel" = ownDeclaration? "Parcel" parcels.rootShape := by
  decide +kernel

/-- The events are registered under the name that their root is given. -/
theorem named_root_entry_events :
    let generation := (events.generate .rust (some "Signal")).run (.empty .strict)
    generation.1 = .ok generation.2.render ∧
      ∃ own, ownDeclaration? "Signal" events.rootShape = some own ∧
        generation.2.get? "Signal" = some own := by
  intro generation
  have succeeded : generation.1 = .ok generation.2.render := by decide +kernel
  have answers : (events.generate .rust (some "Signal")).Answers (.empty .strict)
      generation.2.render generation.2 := Prod.ext succeeded rfl
  have tree : events.rootShape = .node ⟨true, false, some "Event", none, true⟩
      (.union ([3, 4].map events.shape)) :=
    events.shape_eq (show events.nodes[5]? = some events.nodes[5] from rfl)
  have isDeclared : Site.IsDeclared ⟨events.rootShape, .type⟩ := by
    rw [tree]
    exact .inr ⟨_, rfl⟩
  rcases named_root_entry events answers with ⟨own, _, ownEq, _, _, _, registered, _⟩
  exact ⟨succeeded, own, ownEq, registered rfl isDeclared⟩

end Schema
end Conformance
