import Conformance.Proofs.Emission.Outline
import Mathlib.Logic.Relation

namespace Conformance

/-!
# The walk of an emission

An emission comes to a node in one of three roles: as a type of its own, as a field of a
struct, or as a member of a tagged union.  Only the role decides what is declared for the
node.  A member is a struct under the name of its variant, unless it has a name of its
own, and without the field that is the tag; everything else is declared under its name.

The walk that is described here stops at no name, so it does not depend on a registry.  Its
declarations are those of the plan of the emission, no more and no fewer.  Where the plan
is carried out on a strict registry, every one of them is registered under its name.
-/

namespace Plan

/-- A plan is a part of another one. -/
inductive Within (part : Plan) : Plan → Prop where
  | here : Within part part
  | first {first second : Plan} (within : Within part first) : Within part (.inOrder first second)
  | second {first second : Plan} (within : Within part second) : Within part (.inOrder first second)
  | unlessKnown {name : String} {plan : Plan} (within : Within part plan) :
      Within part (.unlessKnown name plan)

variable {part plan : Plan}

theorem Within.trans {whole : Plan} (within : part.Within plan) (beyond : plan.Within whole) :
    part.Within whole := by
  induction beyond with
  | here => exact within
  | first _ inductionHypothesis => exact .first inductionHypothesis
  | second _ inductionHypothesis => exact .second inductionHypothesis
  | unlessKnown _ inductionHypothesis => exact .unlessKnown inductionHypothesis

/-- The parts of a plan without a refusal have none. -/
theorem Within.sound (within : part.Within plan) (sound : plan.Sound) : part.Sound := by
  induction within with
  | here => exact sound
  | first _ inductionHypothesis => exact inductionHypothesis sound.1
  | second _ inductionHypothesis => exact inductionHypothesis sound.2
  | unlessKnown _ inductionHypothesis => exact inductionHypothesis sound

/-- A plan declares what its parts declare. -/
theorem Within.declares (within : part.Within plan) {declaration : String × String}
    (declared : declaration ∈ part.declarations) : declaration ∈ plan.declarations := by
  induction within with
  | here => exact declared
  | first _ inductionHypothesis => exact List.mem_append_left _ inductionHypothesis
  | second _ inductionHypothesis => exact List.mem_append_right _ inductionHypothesis
  | unlessKnown _ inductionHypothesis => exact inductionHypothesis

end Plan

namespace Nominal

/-- What a node is to the emission that comes to it. -/
inductive Role where
  | type
  | field
  | member (name tag : String)
deriving DecidableEq, Repr

namespace Role

/-- The name of the field that a struct leaves out. -/
def tag? : Role → Option String
  | .member _ tag => some tag
  | _ => none

/-- The name that a node is declared under. -/
def name? (rootName : Option String) (header : Header) : Role → Option String
  | .member name _ => some name
  | _ => declaredName rootName header

end Role

/-- A node with its role. -/
structure Site where
  shape : Shape
  role : Role

namespace Site

variable {rootName : Option String} {header : Header} {role : Role} {trail : Location}

/-- The walk comes from one node to another one directly below: to the fields of an object
other than the tag, to items, positions and values, and to the members of a tagged union. -/
inductive Below : Site → Site → Prop where
  | field {header : Header} {role : Role} {fields : List (String × Shape)} {name : String}
      {shape : Shape} (listed : (name, shape) ∈ fields) (notTag : some name ≠ role.tag?) :
      Below ⟨.node header (.object fields), role⟩ ⟨shape, .field⟩
  | item {header : Header} {role : Role} {item : Shape} {length : LengthBounds} :
      Below ⟨.node header (.array item length), role⟩ ⟨item, .type⟩
  | position {header : Header} {role : Role} {items : List Shape} {shape : Shape}
      (listed : shape ∈ items) : Below ⟨.node header (.tuple items), role⟩ ⟨shape, .type⟩
  | value {header : Header} {role : Role} {value : Shape} {keys : LengthBounds} :
      Below ⟨.node header (.record value keys), role⟩ ⟨value, .type⟩
  | member {header : Header} {role : Role} {alternatives : List Shape} {tag : String}
      {literals : List String} {shape : Shape} {literal : String}
      (tagged : discriminant? alternatives = some (tag, literals))
      (listed : (shape, literal) ∈ alternatives.zip literals) :
      Below ⟨.node header (.union alternatives), role⟩
        ⟨shape, .member (structName shape.header literal) tag⟩

/-- The nodes that the walk comes to. -/
def Reaches : Site → Site → Prop := Relation.ReflTransGen Below

/-- What is declared for a node, under which name and with which text. -/
def declaration? (rootName : Option String) : Site → Option (String × String)
  | ⟨.node header (.object fields), role⟩ =>
      (role.name? rootName header).map fun name =>
        (name, structDeclaration rootName name role.tag? fields)
  | ⟨.node header (.union alternatives), role⟩ =>
      (role.name? rootName header).bind fun name =>
        (discriminant? alternatives).map fun (tag, literals) =>
          (name, (EnumDeclaration.ofUnion name tag alternatives literals).text)
  | _ => none

/-- Objects and unions are declared, everything else is only referred to. -/
def IsDeclared (site : Site) : Prop :=
  (∃ fields, site.shape.form = .object fields) ∨
    ∃ alternatives, site.shape.form = .union alternatives

/-- How a node is registered, with everything that it needs. -/
def plan (rootName : Option String) (trail : Location) : Site → Plan
  | ⟨shape, .type⟩ => typePlan rootName shape trail
  | ⟨shape, .field⟩ => fieldPlan rootName shape trail
  | ⟨shape, .member name tag⟩ => memberPlan rootName name tag shape trail

theorem plan_object {fields : List (String × Shape)} :
    plan rootName trail ⟨.node header (.object fields), role⟩ =
      match role.name? rootName header with
      | none => .refuse (.missingName "object" trail.reverse)
      | some name =>
          structPlan rootName name role.tag? fields trail
            (fieldsPlan rootName role.tag? fields trail) := by
  cases role <;> rfl

/-- Apart from objects, members of unions are refused, and whatever else is no leaf is
registered as it would be in any place. -/
theorem plan_of_sound {form : Form Shape} (notObject : ∀ fields, form ≠ .object fields)
    (inner : ∀ scalar, form ≠ .leaf scalar)
    (sound : (plan rootName trail ⟨.node header form, role⟩).Sound) :
    plan rootName trail ⟨.node header form, role⟩ = barePlan rootName header form trail ∧
      role.name? rootName header = declaredName rootName header := by
  cases role with
  | type => exact ⟨rfl, rfl⟩
  | field =>
      cases form with
      | leaf scalar => exact absurd rfl (inner scalar)
      | _ => exact ⟨rfl, rfl⟩
  | member name tag =>
      cases form with
      | object fields => exact absurd rfl (notObject fields)
      | _ => exact sound.elim

/-! ## From the walk to the plan -/

theorem field_within {tag : Option String} {fields : List (String × Shape)} {name : String}
    {shape : Shape} (listed : (name, shape) ∈ fields) (notTag : some name ≠ tag) :
    (fieldPlan rootName shape (.field name :: trail)).Within
      (fieldsPlan rootName tag fields trail) := by
  induction fields with
  | nil => cases listed
  | cons field rest inductionHypothesis =>
      rcases field with ⟨other, ⟨header, form⟩⟩
      rw [fieldsPlan]
      rcases List.mem_cons.mp listed with same | later
      · cases same
        rw [if_neg (mt beq_iff_eq.mp notTag)]
        exact .first .here
      · split
        case isTrue => exact inductionHypothesis later
        case isFalse => exact .second (inductionHypothesis later)

theorem position_within (rootName : Option String) (trail : Location) {shapes : List Shape}
    {shape : Shape} (listed : shape ∈ shapes) : ∀ index, ∃ place, (typePlan rootName shape (.position place :: trail)).Within
      (positionsPlan rootName shapes index trail) := by
  induction shapes with
  | nil => cases listed
  | cons first rest inductionHypothesis =>
      intro index
      rw [positionsPlan]
      rcases List.mem_cons.mp listed with rfl | later
      · exact ⟨index, .first .here⟩
      · rcases inductionHypothesis later (index + 1) with ⟨place, within⟩
        exact ⟨place, .second within⟩

theorem member_within {enumName tag : String} {alternatives : List Shape} {shape : Shape}
    {literal : String} : ∀ {literals : List String} {index : Nat} {seen : List (String × String)},
    (shape, literal) ∈ alternatives.zip literals →
    (variantsPlan rootName enumName tag alternatives literals index seen trail).Sound →
    ∃ place, (memberPlan rootName (structName shape.header literal) tag shape
        (.alternative place :: trail)).Within
      (variantsPlan rootName enumName tag alternatives literals index seen trail) := by
  induction alternatives with
  | nil =>
      intro literals index seen listed
      cases listed
  | cons first rest inductionHypothesis =>
      intro literals index seen listed sound
      cases literals with
      | nil => cases listed
      | cons known literals =>
          rw [variantsPlan] at sound ⊢
          split at sound
          case h_1 => exact sound.elim
          case h_2 =>
            split at sound
            case isTrue => exact sound.elim
            case isFalse differs =>
              rw [if_neg differs]
              rw [List.zip_cons_cons] at listed
              rcases List.mem_cons.mp listed with same | later
              · cases same
                exact ⟨index, .first .here⟩
              · rcases inductionHypothesis later sound.2 with ⟨place, within⟩
                exact ⟨place, .second within⟩

/-- One step of the walk leads to a part of the plan. -/
theorem Below.within {site target : Site} (below : Below site target)
    (sound : (site.plan rootName trail).Sound) :
    ∃ place, (target.plan rootName place).Within (site.plan rootName trail) := by
  cases below with
  | field listed notTag =>
      rw [plan_object] at sound ⊢
      split at sound
      case h_1 => exact sound.elim
      case h_2 =>
        exact ⟨_, .unlessKnown (.first (.second (field_within listed notTag)))⟩
  | item =>
      have planned := (plan_of_sound (by simp) (by simp) sound).1
      rw [planned]
      exact ⟨_, .here⟩
  | position listed =>
      have planned := (plan_of_sound (by simp) (by simp) sound).1
      rw [planned]
      rcases position_within rootName trail listed 0 with ⟨place, within⟩
      exact ⟨_, within⟩
  | value =>
      have planned := (plan_of_sound (by simp) (by simp) sound).1
      rw [planned]
      exact ⟨_, .here⟩
  | member tagged listed =>
      have planned := (plan_of_sound (by simp) (by simp) sound).1
      rw [planned] at sound ⊢
      rw [barePlan, tagged] at sound ⊢
      split at sound
      case h_1 => exact sound.elim
      case h_2 =>
        rcases member_within listed sound.1 with ⟨place, within⟩
        exact ⟨_, .unlessKnown (.first within)⟩

/-- The whole walk stays inside of the plan. -/
theorem Reaches.within {site target : Site} (reached : Reaches site target)
    (sound : (site.plan rootName trail).Sound) :
    ∃ place, (target.plan rootName place).Within (site.plan rootName trail) := by
  induction reached with
  | refl => exact ⟨trail, .here⟩
  | tail _ below inductionHypothesis =>
      rcases inductionHypothesis with ⟨place, within⟩
      rcases below.within (within.sound sound) with ⟨next, inner⟩
      exact ⟨next, inner.trans within⟩

/-- Where a plan refuses nothing, an object or a union is declared. -/
theorem exists_declaration {site : Site} (isDeclared : site.IsDeclared)
    (sound : (site.plan rootName trail).Sound) :
    ∃ declaration, site.declaration? rootName = some declaration ∧
      declaration ∈ (site.plan rootName trail).declarations := by
  rcases site with ⟨⟨header, form⟩, role⟩
  rcases isDeclared with ⟨fields, isObject⟩ | ⟨alternatives, isUnion⟩
  · cases isObject
    rw [plan_object] at sound ⊢
    rw [declaration?]
    split at sound
    case h_1 => exact sound.elim
    case h_2 name named =>
      rw [named]
      exact ⟨_, rfl, List.mem_append_right _ (List.mem_singleton.mpr rfl)⟩
  · cases isUnion
    rcases plan_of_sound (by simp) (by simp) sound with ⟨planned, sameName⟩
    rw [planned] at sound ⊢
    rw [barePlan] at sound ⊢
    rw [declaration?, sameName]
    split at sound
    case h_1 => exact sound.elim
    case h_2 name named =>
      rw [named]
      cases tagged : discriminant? alternatives with
      | none =>
          rw [tagged] at sound
          exact sound.elim
      | some found =>
          rcases found with ⟨tag, literals⟩
          exact ⟨_, rfl, List.mem_append_right _ (List.mem_singleton.mpr rfl)⟩

/-! ## From the plan to the walk -/

/-- A declaration is that of a node strictly below in the walk. -/
def DeclaresBelow (rootName : Option String) (site : Site) (declaration : String × String) : Prop :=
  ∃ target, Relation.TransGen Below site target ∧ target.declaration? rootName = some declaration

/-- Whatever the plan of a node declares, in any role and place, is the declaration of a node
that the walk comes to. -/
def Traced (rootName : Option String) (shape : Shape) : Prop :=
  ∀ (role : Role) (trail : Location),
    ∀ declaration ∈ (plan rootName trail ⟨shape, role⟩).declarations,
      ∃ target, Reaches ⟨shape, role⟩ target ∧ target.declaration? rootName = some declaration

/-- What a node directly below declares is declared below. -/
theorem Traced.below {shape : Shape} (traced : Traced rootName shape) (role : Role) {site : Site}
    (below : Below site ⟨shape, role⟩) {declaration : String × String}
    (declared : declaration ∈ (plan rootName trail ⟨shape, role⟩).declarations) :
    DeclaresBelow rootName site declaration := by
  rcases traced role trail declaration declared with ⟨target, reached, found⟩
  exact ⟨target, .head' below reached, found⟩

theorem clashPlan_declarations (tag : Option String) (fields : List (String × Shape))
    (trail : Location) : (clashPlan tag fields trail).declarations = [] := by
  rw [clashPlan]
  split <;> rfl

theorem fieldsPlan_declares {tag : Option String} {fields : List (String × Shape)}
    {declaration : String × String}
    (declared : declaration ∈ (fieldsPlan rootName tag fields trail).declarations) :
    ∃ name shape place, (name, shape) ∈ fields ∧ some name ≠ tag ∧
      declaration ∈ (fieldPlan rootName shape place).declarations := by
  induction fields with
  | nil => cases declared
  | cons field rest inductionHypothesis =>
      rcases field with ⟨name, ⟨header, form⟩⟩
      have later (inRest : declaration ∈ (fieldsPlan rootName tag rest trail).declarations) :
          ∃ other shape place, (other, shape) ∈ (name, .node header form) :: rest ∧
            some other ≠ tag ∧ declaration ∈ (fieldPlan rootName shape place).declarations := by
        rcases inductionHypothesis inRest with ⟨other, shape, place, listed, notTag, found⟩
        exact ⟨other, shape, place, List.mem_cons_of_mem _ listed, notTag, found⟩
      rw [fieldsPlan] at declared
      split at declared
      case isTrue => exact later declared
      case isFalse notTag =>
        rcases List.mem_append.mp declared with here | inRest
        · exact ⟨name, _, _, List.mem_cons_self, mt beq_iff_eq.mpr notTag, here⟩
        · exact later inRest

theorem positionsPlan_declares {shapes : List Shape} {declaration : String × String} :
    ∀ {index : Nat}, declaration ∈ (positionsPlan rootName shapes index trail).declarations →
      ∃ shape place, shape ∈ shapes ∧ declaration ∈ (typePlan rootName shape place).declarations := by
  induction shapes with
  | nil =>
      intro index declared
      cases declared
  | cons first rest inductionHypothesis =>
      intro index declared
      rw [positionsPlan] at declared
      rcases List.mem_append.mp declared with here | inRest
      · exact ⟨first, _, List.mem_cons_self, here⟩
      · rcases inductionHypothesis inRest with ⟨shape, place, listed, found⟩
        exact ⟨shape, place, List.mem_cons_of_mem _ listed, found⟩

theorem variantsPlan_declares {enumName tag : String} {alternatives : List Shape}
    {declaration : String × String} :
    ∀ {literals : List String} {index : Nat} {seen : List (String × String)},
    declaration ∈
      (variantsPlan rootName enumName tag alternatives literals index seen trail).declarations →
    ∃ shape literal place, (shape, literal) ∈ alternatives.zip literals ∧
      declaration ∈
        (memberPlan rootName (structName shape.header literal) tag shape place).declarations := by
  induction alternatives with
  | nil =>
      intro literals index seen declared
      cases literals <;> cases declared
  | cons first rest inductionHypothesis =>
      intro literals index seen declared
      cases literals with
      | nil => cases declared
      | cons literal literals =>
          rw [variantsPlan] at declared
          split at declared
          case h_1 => cases declared
          case h_2 =>
            split at declared
            case isTrue => cases declared
            case isFalse =>
              rw [List.zip_cons_cons]
              rcases List.mem_append.mp declared with here | inRest
              · exact ⟨first, literal, _, List.mem_cons_self, here⟩
              · rcases inductionHypothesis inRest with ⟨shape, other, place, listed, found⟩
                exact ⟨shape, other, place, List.mem_cons_of_mem _ listed, found⟩

/-- What the fields of a struct need is declared below it. -/
theorem fieldsPlan_declaresBelow (role : Role) {fields : List (String × Shape)}
    (traced : ∀ shape ∈ fields.map Prod.snd, Traced rootName shape)
    {declaration : String × String}
    (declared : declaration ∈ (fieldsPlan rootName role.tag? fields trail).declarations) :
    DeclaresBelow rootName ⟨.node header (.object fields), role⟩ declaration := by
  rcases fieldsPlan_declares declared with ⟨name, shape, place, listed, notTag, found⟩
  exact (traced shape (List.mem_map_of_mem listed)).below .field (.field listed notTag) found

/-- What the variants of an enum need is declared below it. -/
theorem variantsPlan_declaresBelow {enumName tag : String} {alternatives : List Shape}
    {literals : List String} (tagged : discriminant? alternatives = some (tag, literals))
    (traced : ∀ shape ∈ alternatives, Traced rootName shape)
    {declaration : String × String}
    (declared : declaration ∈
      (variantsPlan rootName enumName tag alternatives literals 0 [] trail).declarations) :
    DeclaresBelow rootName ⟨.node header (.union alternatives), role⟩ declaration := by
  rcases variantsPlan_declares declared with ⟨shape, literal, place, listed, found⟩
  exact (traced shape (List.of_mem_zip listed).1).below
    (.member (structName shape.header literal) tag) (.member tagged listed) found

/-- What a form needs is declared by the node of the form or below it. -/
theorem barePlan_traced {form : Form Shape}
    (traced : ∀ shape ∈ form.children, Traced rootName shape)
    (named : role.name? rootName header = declaredName rootName header)
    (untagged : role.tag? = none) {declaration : String × String}
    (declared : declaration ∈ (barePlan rootName header form trail).declarations) :
    ∃ target, Reaches ⟨.node header form, role⟩ target ∧
      target.declaration? rootName = some declaration := by
  have fromBelow (below : DeclaresBelow rootName ⟨.node header form, role⟩ declaration) :
      ∃ target, Reaches ⟨.node header form, role⟩ target ∧
        target.declaration? rootName = some declaration := by
    rcases below with ⟨target, reached, found⟩
    exact ⟨target, reached.to_reflTransGen, found⟩
  cases form with
  | leaf scalar =>
      rw [barePlan, leafPlan] at declared
      split at declared <;> cases declared
  | object fields =>
      rw [barePlan] at declared
      split at declared
      case h_1 => cases declared
      case h_2 name found =>
        rcases List.mem_append.mp declared with parts | here
        · rw [Plan.declarations, clashPlan_declarations, List.nil_append, ← untagged] at parts
          exact fromBelow (fieldsPlan_declaresBelow role traced parts)
        · refine ⟨_, .refl, ?_⟩
          rw [declaration?, named, found, untagged, List.mem_singleton.mp here]
          rfl
  | array item length =>
      exact fromBelow ((traced item List.mem_cons_self).below .type .item declared)
  | tuple items =>
      rcases positionsPlan_declares declared with ⟨shape, place, listed, found⟩
      exact fromBelow ((traced shape listed).below .type (.position listed) found)
  | record value keys =>
      exact fromBelow ((traced value List.mem_cons_self).below .type .value declared)
  | union alternatives =>
      rw [barePlan] at declared
      split at declared
      case h_1 => cases declared
      case h_2 name found =>
        cases tagged : discriminant? alternatives with
        | none =>
            rw [tagged] at declared
            cases declared
        | some pair =>
            rcases pair with ⟨tag, literals⟩
            rw [tagged] at declared
            rcases List.mem_append.mp declared with parts | here
            · exact fromBelow (variantsPlan_declaresBelow tagged traced parts)
            · refine ⟨_, .refl, ?_⟩
              rw [declaration?, named, found, tagged, List.mem_singleton.mp here]
              rfl

/-- No plan declares anything but the declarations of nodes that the walk comes to. -/
theorem shape_traced (rootName : Option String) (shape : Shape) : Traced rootName shape := by
  induction shape using Shape.induction with
  | node header form traced =>
      intro role trail declaration declared
      cases role with
      | type => exact barePlan_traced traced rfl rfl declared
      | field =>
          have inBare : declaration ∈ (barePlan rootName header form trail).declarations := by
            rw [plan, fieldPlan] at declared
            unfold asField at declared
            split at declared
            case h_1 => split at declared <;> cases declared
            case h_2 => exact declared
          exact barePlan_traced traced rfl rfl inBare
      | member name tag =>
          cases form with
          | object fields =>
              rcases List.mem_append.mp declared with parts | here
              · rw [Plan.declarations, clashPlan_declarations, List.nil_append] at parts
                rcases fieldsPlan_declaresBelow (.member name tag) traced parts with
                  ⟨target, reached, found⟩
                exact ⟨target, reached.to_reflTransGen, found⟩
              · refine ⟨_, .refl, ?_⟩
                rw [List.mem_singleton.mp here]
                rfl
          | _ => cases declared

end Site
end Nominal

namespace Schema

open Nominal

/-- In a strict registry no name comes to stand for two things.  However the registry was
filled before, an emission that answers leaves it with the declaration of every object and
union that its walk reaches, under the name of the object or union. -/
theorem strict_registers_every_declaration (schema : Schema) {rootName : Option String} {id : NodeId}
    {before after : Registry} {type : String} (strict : before.mode = .strict)
    (emitted : (emit rootName (schema.shape id)).Answers before type after)
    {site : Site} (reached : Site.Reaches ⟨schema.shape id, .type⟩ site)
    (isDeclared : site.IsDeclared) :
    ∃ name text, site.declaration? rootName = some (name, text) ∧ after.get? name = some text := by
  rw [emit_eq, Plan.answers_answering] at emitted
  rcases emitted.1.strict strict with ⟨sound, held⟩
  have inside : ∃ place, (site.plan rootName place).Within
      (Site.plan rootName [] ⟨schema.shape id, .type⟩) := reached.within sound
  rcases inside with ⟨place, within⟩
  rcases Site.exists_declaration isDeclared (within.sound sound) with
    ⟨⟨name, text⟩, declared, listed⟩
  exact ⟨name, text, declared, (held name text).mpr (.inr (within.declares listed))⟩

/-- The declaration of an event is registered under the name of its variant, beside what the
registry held before. -/
theorem strict_registers_every_declaration_events :
    let before : Registry := ⟨.strict, [("Moment", "pub type Moment = i64;\n")]⟩
    let emission := (emit none (events.shape 5)).run before
    emission.1 = .ok "Event" ∧
      Site.Reaches ⟨events.shape 5, .type⟩ ⟨events.shape 3, .member "Start" "kind"⟩ ∧
      ∃ name text, Site.declaration? none ⟨events.shape 3, .member "Start" "kind"⟩ =
          some (name, text) ∧
        emission.2.get? name = some text := by
  intro before emission
  have emitted : emission.1 = .ok "Event" := by decide +kernel
  have answers : (emit none (events.shape 5)).Answers before "Event" emission.2 :=
    Prod.ext emitted rfl
  have union : events.shape 5 = .node ⟨true, false, some "Event", none, true⟩
      (.union ([3, 4].map events.shape)) :=
    events.shape_eq (show events.nodes[5]? = some events.nodes[5] from rfl)
  have start : events.shape 3 = .node ⟨true, true, none, some "Start", false⟩
      (.object [("kind", events.shape 0), ("at", events.shape 2)]) :=
    events.shape_eq (show events.nodes[3]? = some events.nodes[3] from rfl)
  have tagged : discriminant? ([3, 4].map events.shape) = some ("kind", ["start", "stop"]) := by
    decide +kernel
  have below : Site.Below ⟨events.shape 5, .type⟩ ⟨events.shape 3, .member "Start" "kind"⟩ := by
    have named : structName (events.shape 3).header "start" = "Start" := by rw [start]; rfl
    rw [union, ← named]
    exact .member tagged List.mem_cons_self
  have isDeclared : Site.IsDeclared ⟨events.shape 3, .member "Start" "kind"⟩ := by
    rw [start]
    exact .inl ⟨_, rfl⟩
  exact ⟨emitted, .single below,
    strict_registers_every_declaration events rfl answers (.single below) isDeclared⟩

end Schema
end Conformance
