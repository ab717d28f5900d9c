import Conformance.Proofs.Emission.Identifiers
import Conformance.Proofs.Emission.Refusals
import Conformance.Proofs.Emission.Stations

namespace Conformance
namespace Nominal

/-!
# Why an emission is refused

The checks of the emitter are spread over functions that call each other, some of them in front of
the calls and some behind.  What they do to a strict registry comes to this: the stations of the
walk one after another, each with a check or a registration of its own.  So an emission is refused
exactly if a station offends, and for what is wrong at the first one.

The order of the checks is not the same for all identifiers.  Those of the fields of a struct are
compared before anything inside of the struct is emitted.  Those of the variants of an enum are
compared one by one, each when its alternative is chosen, and so behind the structs of the
alternatives in front of it.
-/

variable {rootName : Option String} {header : Header} {role : Role} {trail : Location}

/-! ## Stations as plans -/

/-- What remains of the alternatives in front: their variants with their literals, the last one
first. -/
def Tagged.seen (front : List Tagged) : List (String × String) :=
  (front.map fun tagged => (tagged.variant, tagged.2)).reverse

theorem Tagged.seen_concat (front : List Tagged) (tagged : Tagged) :
    Tagged.seen (front ++ [tagged]) = (tagged.variant, tagged.2) :: Tagged.seen front := by
  rw [seen, List.map_append, List.reverse_append]
  rfl

/-- What is done where a node is entered. -/
def enterPlan (rootName : Option String) : Site → Location → Plan
  | ⟨.node header (.leaf scalar), .field⟩, trail =>
      asField header (.leaf scalar) trail (leafPlan scalar trail)
  | ⟨.node _ (.leaf scalar), _⟩, trail => leafPlan scalar trail
  | ⟨.node header (.object fields), role⟩, trail =>
      match role.name? rootName header with
      | none => .refuse (.missingName "object" trail.reverse)
      | some _ => clashPlan role.tag? fields trail
  | ⟨.node header (.union alternatives), role⟩, trail =>
      match role.name? rootName header with
      | none => .refuse (.missingName "union" trail.reverse)
      | some _ =>
          match discriminant? alternatives with
          | none => .refuse (.untaggedUnion trail.reverse)
          | some _ => .nothing
  | _, _ => .nothing

/-- What is done where an alternative is chosen. -/
def choosePlan (rootName : Option String) (union : Site) (location : Location) (front : List Tagged)
    (chosen : Tagged) : Plan :=
  match (Tagged.seen front).lookup chosen.variant with
  | some first => .refuse (.repeatedIdentifier .variant chosen.variant first chosen.2 location)
  | none =>
      if union.name? rootName = some chosen.struct then
        .refuse (.memberNamedAfterUnion chosen.struct (location ++ [.alternative front.length]))
      else .nothing

section

variable {union : Site} {location : Location} {front : List Tagged} {first : String}

theorem choosePlan_repeated (chosen : Tagged)
    (found : (Tagged.seen front).lookup chosen.variant = some first) :
    choosePlan rootName union location front chosen =
      .refuse (.repeatedIdentifier .variant chosen.variant first chosen.2 location) := by
  rw [choosePlan, found]

theorem choosePlan_sameName (chosen : Tagged)
    (found : (Tagged.seen front).lookup chosen.variant = none)
    (same : union.name? rootName = some chosen.struct) :
    choosePlan rootName union location front chosen =
      .refuse (.memberNamedAfterUnion chosen.struct (location ++ [.alternative front.length])) := by
  simp only [choosePlan, found, if_pos same]

theorem choosePlan_passes (chosen : Tagged)
    (found : (Tagged.seen front).lookup chosen.variant = none)
    (differs : union.name? rootName ≠ some chosen.struct) :
    choosePlan rootName union location front chosen = .nothing := by
  simp only [choosePlan, found, if_neg differs]

end

/-- What is done where a node is left. -/
def leavePlan (rootName : Option String) (site : Site) : Plan :=
  match site.declaration? rootName with
  | some (name, text) => .register name text
  | none => .nothing

/-- What is done at a station. -/
def Station.plan (rootName : Option String) : Station → Plan
  | .enter site location => enterPlan rootName site location.reverse
  | .choose union location front chosen => choosePlan rootName union location front chosen
  | .leave site _ => leavePlan rootName site

/-- The plans of some stations, one after another. -/
def stationPlan (rootName : Option String) (stations : List Station) : Plan :=
  .all (stations.map (Station.plan rootName))

theorem stationPlan_append (first second : List Station) :
    (stationPlan rootName (first ++ second)).Alike
      (.inOrder (stationPlan rootName first) (stationPlan rootName second)) := by
  rw [stationPlan, List.map_append]
  exact Plan.alike_all_append

/-! ## The plan of a node is that of its stations -/

/-- The emitter does with a node what is done at its stations.  Members of unions are objects. -/
def Traversed (rootName : Option String) (shape : Shape) : Prop :=
  ∀ role trail, (role.tag?.isSome → ∃ fields, shape.form = .object fields) →
    (Site.plan rootName trail ⟨shape, role⟩).Alike (stationPlan rootName (stations shape role trail))

/-- Any node can stand outside of a union. -/
theorem Traversed.untagged {shape : Shape} (traversed : Traversed rootName shape) (role : Role)
    (untagged : role.tag? = none) (trail : Location) :
    (Site.plan rootName trail ⟨shape, role⟩).Alike
      (stationPlan rootName (stations shape role trail)) := by
  refine traversed role trail fun tagged => ?_
  rw [untagged] at tagged
  cases tagged

/-- A node is entered, then come all stations below it, and then it is left. -/
theorem stationPlan_node {form : Form Shape} {below : Plan}
    (inner : below.Alike (stationPlan rootName (stationsBelow header role form trail))) :
    (Plan.inOrder (.inOrder (enterPlan rootName ⟨.node header form, role⟩ trail) below)
        (leavePlan rootName ⟨.node header form, role⟩)).Alike
      (stationPlan rootName (stations (.node header form) role trail)) := by
  have entered : (Station.plan rootName (.enter ⟨.node header form, role⟩ trail.reverse)) =
      enterPlan rootName ⟨.node header form, role⟩ trail := by
    rw [Station.plan, List.reverse_reverse]
  rw [stations, stationPlan, List.map_cons, Plan.all, entered]
  refine Plan.alike_inOrder_assoc.trans ((Plan.Alike.refl _).inOrder ?_)
  refine .trans ?_ (stationPlan_append _ _).symm
  exact inner.inOrder Plan.alike_all_singleton.symm

theorem fieldsPlan_alike {tag : Option String} {fields : List (String × Shape)}
    (traversed : ∀ shape ∈ fields.map Prod.snd, Traversed rootName shape) :
    (fieldsPlan rootName tag fields trail).Alike
      (stationPlan rootName (fieldStations tag fields trail)) := by
  induction fields with
  | nil => exact .refl _
  | cons field rest inductionHypothesis =>
      rcases field with ⟨name, ⟨header, form⟩⟩
      rw [List.map_cons, List.forall_mem_cons] at traversed
      have later := inductionHypothesis traversed.2
      rw [fieldsPlan, fieldStations]
      by_cases isTag : some name = tag
      · rw [if_pos (beq_iff_eq.mpr isTag), if_pos isTag]
        exact later
      · rw [if_neg (mt beq_iff_eq.mp isTag), if_neg isTag]
        have here := traversed.1.untagged .field rfl (.field name :: trail)
        exact (here.inOrder later).trans (stationPlan_append _ _).symm

theorem positionsPlan_alike {shapes : List Shape}
    (traversed : ∀ shape ∈ shapes, Traversed rootName shape) : ∀ {index : Nat},
    (positionsPlan rootName shapes index trail).Alike
      (stationPlan rootName (positionStations shapes index trail)) := by
  induction shapes with
  | nil => exact .refl _
  | cons shape rest inductionHypothesis =>
      intro index
      rw [List.forall_mem_cons] at traversed
      rw [positionsPlan, positionStations]
      have here := traversed.1.untagged .type rfl (.position index :: trail)
      exact (here.inOrder (inductionHypothesis traversed.2)).trans (stationPlan_append _ _).symm

theorem variantsPlan_alike {union : Site} {enumName tag : String}
    (named : union.name? rootName = some enumName) {alternatives : List Shape}
    (traversed : ∀ shape ∈ alternatives, Traversed rootName shape)
    (objects : ∀ shape ∈ alternatives, ∃ fields, shape.form = .object fields) :
    ∀ (literals : List String) (front : List Tagged),
    (variantsPlan rootName enumName tag alternatives literals front.length (Tagged.seen front)
        trail).Alike
      (stationPlan rootName (memberStations union tag front alternatives literals trail)) := by
  induction alternatives with
  | nil =>
      intro literals front
      cases literals <;> exact .refl _
  | cons shape rest inductionHypothesis =>
      intro literals front
      cases literals with
      | nil => exact .refl _
      | cons literal literals =>
          rw [List.forall_mem_cons] at traversed objects
          have later := inductionHypothesis traversed.2 objects.2 literals (front ++ [(shape, literal)])
          rw [Tagged.seen_concat, List.length_append, List.length_singleton] at later
          have here := traversed.1 (.member (structName shape.header literal) tag)
            (.alternative front.length :: trail) fun _ => objects.1
          have both := (here.inOrder later).trans (stationPlan_append _ _).symm
          rw [memberStations, stationPlan, List.map_cons, Plan.all, Station.plan, variantsPlan]
          cases found : (Tagged.seen front).lookup (variantName shape.header literal) with
          | some first =>
              rw [choosePlan_repeated (shape, literal) found]
              exact Plan.alike_refuse_inOrder.symm
          | none =>
              by_cases same : structName shape.header literal = enumName
              · have sameName : union.name? rootName = some (Tagged.struct (shape, literal)) :=
                  named.trans (congrArg some same.symm)
                simp only [if_pos same, List.reverse_cons]
                rw [choosePlan_sameName (shape, literal) found sameName]
                exact Plan.alike_refuse_inOrder.symm
              · have differs : union.name? rootName ≠ some (Tagged.struct (shape, literal)) :=
                  fun again => same (Option.some.inj (named.symm.trans again)).symm
                simp only [if_neg same]
                rw [choosePlan_passes (shape, literal) found differs]
                exact both.trans Plan.alike_nothing_inOrder.symm

/-- A node that is neither refused nor declared. -/
theorem alike_between {plan : Plan} : plan.Alike (.inOrder (.inOrder .nothing plan) .nothing) :=
  Plan.alike_nothing_inOrder.symm.trans Plan.alike_inOrder_nothing.symm

/-- A node that is refused when it is entered. -/
theorem refuse_alike {error : EmissionError} {below last : Plan} :
    (Plan.refuse error).Alike (.inOrder (.inOrder (.refuse error) below) last) :=
  Plan.alike_refuse_inOrder.symm.trans (Plan.alike_refuse_inOrder.symm.inOrder (.refl last))

/-- Only a member of a union is declared under another name than its own. -/
theorem name?_of_untagged (untagged : role.tag? = none) :
    role.name? rootName header = declaredName rootName header := by
  cases role with
  | type | field => rfl
  | member => cases untagged

/-- A form that is no leaf is registered in the same way as a type and as a field. -/
theorem plan_eq_barePlan {form : Form Shape} (inner : ∀ scalar, form ≠ .leaf scalar)
    (untagged : role.tag? = none) :
    Site.plan rootName trail ⟨.node header form, role⟩ = barePlan rootName header form trail := by
  cases role with
  | type => rfl
  | field =>
      cases form with
      | leaf scalar => exact absurd rfl (inner scalar)
      | _ => rfl
  | member => cases untagged

/-- An object is refused when it is entered, or declared when it is left. -/
theorem object_alike {fields : List (String × Shape)} {below : Plan}
    (fieldsAlike : (fieldsPlan rootName role.tag? fields trail).Alike below) :
    (Site.plan rootName trail ⟨.node header (.object fields), role⟩).Alike
      (.inOrder (.inOrder (enterPlan rootName ⟨.node header (.object fields), role⟩ trail) below)
        (leavePlan rootName ⟨.node header (.object fields), role⟩)) := by
  rw [Site.plan_object, enterPlan, leavePlan, Site.declaration?]
  cases role.name? rootName header with
  | none => exact refuse_alike
  | some name =>
      exact Plan.alike_unlessKnown.trans (((Plan.Alike.refl _).inOrder fieldsAlike).inOrder (.refl _))

/-- A union is refused when it is entered, or declared when it is left. -/
theorem union_alike {alternatives : List Shape} (untagged : role.tag? = none)
    (traversed : ∀ shape ∈ alternatives, Traversed rootName shape) :
    (Site.plan rootName trail ⟨.node header (.union alternatives), role⟩).Alike
      (.inOrder (.inOrder (enterPlan rootName ⟨.node header (.union alternatives), role⟩ trail)
          (stationPlan rootName (stationsBelow header role (.union alternatives) trail)))
        (leavePlan rootName ⟨.node header (.union alternatives), role⟩)) := by
  have inner : ∀ scalar, (.union alternatives : Form Shape) ≠ .leaf scalar := nofun
  have sameName : role.name? rootName header = declaredName rootName header :=
    name?_of_untagged untagged
  rw [plan_eq_barePlan inner untagged, barePlan, enterPlan, leavePlan, Site.declaration?, sameName,
    stationsBelow]
  cases named : declaredName rootName header with
  | none => exact refuse_alike
  | some name =>
      cases tagged : discriminant? alternatives with
      | none => exact Plan.alike_unlessKnown.trans refuse_alike
      | some pair =>
          rcases pair with ⟨tag, literals⟩
          have objects : ∀ shape ∈ alternatives, ∃ fields, shape.form = .object fields := by
            intro shape listed
            have found := List.mem_map_of_mem (f := literal? tag) listed
            rw [(discriminant?_eq_some tagged).1] at found
            rcases List.mem_map.mp found with ⟨literal, _, isLiteral⟩
            rcases literal?_eq_some isLiteral.symm with ⟨_, fields, _, rfl, _⟩
            exact ⟨fields, rfl⟩
          refine Plan.alike_unlessKnown.trans (.inOrder ?_ (.refl _))
          refine .trans ?_ Plan.alike_nothing_inOrder.symm
          have unionName : Site.name? rootName ⟨.node header (.union alternatives), role⟩ = some name :=
            sameName.trans named
          exact variantsPlan_alike unionName traversed objects literals []

/-- The emitter does with every node what is done at its stations. -/
theorem shape_traversed (rootName : Option String) (shape : Shape) : Traversed rootName shape := by
  induction shape using Shape.induction with
  | node header form traversed =>
      intro role trail objects
      by_cases isObject : ∃ fields, form = .object fields
      case pos =>
        rcases isObject with ⟨fields, rfl⟩
        exact (object_alike (fieldsPlan_alike traversed)).trans (stationPlan_node (.refl _))
      case neg =>
        have untagged : role.tag? = none := by
          rw [← Option.not_isSome_iff_eq_none]
          exact fun tagged => isObject (objects tagged)
        -- Of all other forms only unions are declared, and only leaves and unions are refused.
        have passed {below : Plan} (inner : ∀ scalar, form ≠ .leaf scalar)
            (entered : enterPlan rootName ⟨.node header form, role⟩ trail = .nothing)
            (left : leavePlan rootName ⟨.node header form, role⟩ = .nothing)
            (planned : barePlan rootName header form trail = below)
            (alike : below.Alike (stationPlan rootName (stationsBelow header role form trail))) :
            (Site.plan rootName trail ⟨.node header form, role⟩).Alike
              (stationPlan rootName (stations (.node header form) role trail)) := by
          have whole := stationPlan_node alike
          rw [entered, left] at whole
          rw [plan_eq_barePlan inner untagged, planned]
          exact alike_between.trans whole
        cases form with
        | object fields => exact absurd ⟨fields, rfl⟩ isObject
        | leaf scalar =>
            refine .trans ?_ (stationPlan_node (.refl Plan.nothing))
            refine .trans ?_ Plan.alike_inOrder_nothing.symm
            refine .trans ?_ Plan.alike_inOrder_nothing.symm
            cases role with
            | type | field => exact .refl _
            | member => cases untagged
        | array item length =>
            exact passed nofun rfl rfl rfl ((traversed item List.mem_cons_self).untagged .type rfl _)
        | tuple items => exact passed nofun rfl rfl rfl (positionsPlan_alike traversed)
        | record value keys =>
            exact passed nofun rfl rfl rfl ((traversed value List.mem_cons_self).untagged .type rfl _)
        | union alternatives =>
            exact (union_alike untagged traversed).trans (stationPlan_node (.refl _))

/-! ## What is wrong at a station -/

section

variable {union : Site} {location : Location} {front : List Tagged} {chosen : Tagged} {target : String}

/-- The nearest alternative with a variant is remembered under it. -/
theorem Tagged.lookup_seen_eq_some_iff {literal : String} :
    (Tagged.seen front).lookup target = some literal ↔
      ∃ earlier first between, front = earlier ++ first :: between ∧ first.variant = target ∧
        first.2 = literal ∧ ∀ other ∈ between, other.variant ≠ target := by
  induction front using List.reverseRecOn with
  | nil => simp [seen]
  | append_singleton front last inductionHypothesis =>
      rw [seen_concat]
      by_cases same : last.variant = target
      · rw [same, List.lookup_cons_self]
        constructor
        · intro found
          cases found
          exact ⟨front, last, [], rfl, same, rfl, List.forall_mem_nil _⟩
        · rintro ⟨earlier, first, between, split, firstSame, rfl, nearest⟩
          rcases between.eq_nil_or_concat' with rfl | ⟨others, other, rfl⟩
          · rw [(List.append_singleton_inj.mp split).2]
          · rw [← List.cons_append, ← List.append_assoc] at split
            have equal := (List.append_singleton_inj.mp split).2
            exact absurd (equal ▸ same) (nearest other (List.mem_append_right _ List.mem_cons_self))
      · rw [List.lookup_cons, beq_eq_false_iff_ne.mpr (Ne.symm same), inductionHypothesis]
        constructor
        · rintro ⟨earlier, first, between, rfl, firstSame, literalSame, nearest⟩
          refine ⟨earlier, first, between ++ [last], by simp, firstSame, literalSame, ?_⟩
          exact List.forall_mem_append.mpr ⟨nearest, List.forall_mem_singleton.mpr same⟩
        · rintro ⟨earlier, first, between, split, firstSame, literalSame, nearest⟩
          rcases between.eq_nil_or_concat' with rfl | ⟨others, other, rfl⟩
          · rw [(List.append_singleton_inj.mp split).2] at same
            exact absurd firstSame same
          · rw [← List.cons_append, ← List.append_assoc] at split
            exact ⟨earlier, first, others, (List.append_singleton_inj.mp split).1, firstSame,
              literalSame, fun other listed => nearest other (List.mem_append_left _ listed)⟩

theorem Tagged.lookup_seen_eq_none_iff :
    (Tagged.seen front).lookup target = none ↔ ∀ other ∈ front, other.variant ≠ target := by
  rw [List.lookup_eq_none_iff]
  simp only [seen, List.mem_reverse, List.forall_mem_map, bne_iff_ne, ne_comm (a := target)]

end

/-! ### Where a node is entered -/

section

variable {site : Site} {location : Location} {error : EmissionError}

theorem enterPlan_leaf {scalar : Leaf} (inexact : role = .field → ∀ expected, scalar ≠ .exact expected) :
    enterPlan rootName ⟨.node header (.leaf scalar), role⟩ trail = leafPlan scalar trail := by
  cases role with
  | type | member => rfl
  | field =>
      cases scalar with
      | exact expected => exact absurd rfl (inexact rfl expected)
      | _ => rfl

theorem leafPlan_eq_refuse_iff {scalar : Leaf} :
    leafPlan scalar trail = .refuse error ↔
      (∃ length, scalar = .buffer length ∧ error = .noNominalForm "buffer" trail.reverse) ∨
        ∃ expected, scalar = .exact expected ∧ error = .standaloneExact expected trail.reverse := by
  cases scalar <;> simp [leafPlan, leafType, Leaf.kindName, eq_comm]

theorem clashPlan_eq_refuse_iff {tag : Option String} {fields : List (String × Shape)} :
    clashPlan tag fields trail = .refuse error ↔
      ∃ earlier first second later,
        (fieldsWithout tag fields).map Prod.fst = earlier ++ second :: later ∧
        (earlier.map Naming.field).Nodup ∧ first ∈ earlier ∧
        Naming.field first = Naming.field second ∧
        error = .repeatedIdentifier .field (Naming.field second) first second trail.reverse := by
  rw [clashPlan]
  constructor
  · intro refused
    split at refused
    case h_1 target first second found =>
      cases refused
      rcases clash?_eq_some_iff.mp found with ⟨earlier, later, split, distinct, listed, same, rfl⟩
      exact ⟨earlier, first, second, later, split, distinct, listed, same, rfl⟩
    case h_2 => cases refused
  · rintro ⟨earlier, first, second, later, split, distinct, listed, same, rfl⟩
    rw [clash?_eq_some_iff.mpr ⟨earlier, later, split, distinct, listed, same, rfl⟩]

/-- A node offends where it is entered exactly if it is refused there. -/
theorem Station.offends_enter_iff {front : List Station} :
    Offends rootName front (.enter site location) error ↔
      enterPlan rootName site location.reverse = .refuse error := by
  constructor
  · intro offends
    cases offends with
    | unnamedObject unnamed | unnamedUnion unnamed =>
        simp only [enterPlan, unnamed, List.reverse_reverse]
    | untagged named untagged => simp only [enterPlan, named, untagged, List.reverse_reverse]
    | buffer =>
        have inexact : ∀ length expected, Leaf.buffer length ≠ .exact expected := fun _ _ => nofun
        rw [enterPlan_leaf fun _ => inexact _, leafPlan_eq_refuse_iff, List.reverse_reverse]
        exact .inl ⟨_, rfl, rfl⟩
    | standaloneExact notField =>
        rw [enterPlan_leaf fun isField => absurd isField notField, leafPlan_eq_refuse_iff,
          List.reverse_reverse]
        exact .inr ⟨_, rfl, rfl⟩
    | optionalExact optional => simp [enterPlan, asField, optional]
    | repeatedField named split distinct listed same =>
        simp only [enterPlan, named]
        rw [clashPlan_eq_refuse_iff, List.reverse_reverse]
        exact ⟨_, _, _, _, split, distinct, listed, same, rfl⟩
  · intro refused
    rcases site with ⟨⟨header, form⟩, role⟩
    cases form with
    | leaf scalar =>
        by_cases exactField : role = .field ∧ ∃ expected, scalar = .exact expected
        case pos =>
          rcases exactField with ⟨rfl, expected, rfl⟩
          rw [enterPlan, asField, List.reverse_reverse] at refused
          cases optional : header.required with
          | false =>
              rw [optional] at refused
              cases refused
              exact .optionalExact optional
          | true =>
              rw [optional] at refused
              cases refused
        case neg =>
          have inexact : role = .field → ∀ expected, scalar ≠ .exact expected :=
            fun isField expected same => exactField ⟨isField, expected, same⟩
          rw [enterPlan_leaf inexact, leafPlan_eq_refuse_iff, List.reverse_reverse] at refused
          rcases refused with ⟨length, rfl, rfl⟩ | ⟨expected, rfl, rfl⟩
          · exact .buffer
          · exact .standaloneExact fun isField => inexact isField expected rfl
    | object fields =>
        rw [enterPlan, List.reverse_reverse] at refused
        cases named : role.name? rootName header with
        | none =>
            rw [named] at refused
            cases refused
            exact .unnamedObject named
        | some name =>
            rw [named] at refused
            rcases clashPlan_eq_refuse_iff.mp refused with
              ⟨earlier, first, second, later, split, distinct, listed, same, rfl⟩
            rw [List.reverse_reverse]
            exact .repeatedField named split distinct listed same
    | union alternatives =>
        rw [enterPlan, List.reverse_reverse] at refused
        cases named : role.name? rootName header with
        | none =>
            rw [named] at refused
            cases refused
            exact .unnamedUnion named
        | some name =>
            rw [named] at refused
            cases untagged : discriminant? alternatives with
            | none =>
                rw [untagged] at refused
                cases refused
                exact .untagged named untagged
            | some pair =>
                rw [untagged] at refused
                cases refused
    | _ => cases refused

end

/-! ### Where an alternative is chosen -/

/-- An alternative offends where it is chosen exactly if it is refused there. -/
theorem Station.offends_choose_iff {front : List Station} {union : Site} {location : Location}
    {before : List Tagged} {chosen : Tagged} {error : EmissionError} :
    Offends rootName front (.choose union location before chosen) error ↔
      choosePlan rootName union location before chosen = .refuse error := by
  constructor
  · intro offends
    cases offends with
    | repeatedVariant same nearest =>
        exact choosePlan_repeated _ (Tagged.lookup_seen_eq_some_iff.mpr ⟨_, _, _, rfl, same, rfl, nearest⟩)
    | memberNamedAfterUnion distinct same =>
        exact choosePlan_sameName _ (Tagged.lookup_seen_eq_none_iff.mpr distinct) same
  · intro refused
    cases found : (Tagged.seen before).lookup chosen.variant with
    | some literal =>
        rw [choosePlan_repeated _ found] at refused
        cases refused
        rcases Tagged.lookup_seen_eq_some_iff.mp found with
          ⟨earlier, first, between, rfl, same, rfl, nearest⟩
        exact .repeatedVariant same nearest
    | none =>
        by_cases same : union.name? rootName = some chosen.struct
        · rw [choosePlan_sameName _ found same] at refused
          cases refused
          exact .memberNamedAfterUnion (Tagged.lookup_seen_eq_none_iff.mp found) same
        · rw [choosePlan_passes _ found same] at refused
          cases refused

/-! ### The plan of a station -/

theorem leafPlan_cases (scalar : Leaf) (trail : Location) :
    leafPlan scalar trail = .nothing ∨ ∃ error, leafPlan scalar trail = .refuse error := by
  rw [leafPlan]
  split
  · exact .inl rfl
  · exact .inr ⟨_, rfl⟩

/-- Where a node is entered, it is refused or nothing is done. -/
theorem enterPlan_cases (rootName : Option String) (site : Site) (trail : Location) :
    enterPlan rootName site trail = .nothing ∨
      ∃ error, enterPlan rootName site trail = .refuse error := by
  rcases site with ⟨⟨header, form⟩, role⟩
  cases form with
  | leaf scalar =>
      by_cases exactField : role = .field ∧ ∃ expected, scalar = .exact expected
      case pos =>
        rcases exactField with ⟨rfl, expected, rfl⟩
        rw [enterPlan, asField]
        split
        · exact .inl rfl
        · exact .inr ⟨_, rfl⟩
      case neg =>
        rw [enterPlan_leaf fun isField expected same => exactField ⟨isField, expected, same⟩]
        exact leafPlan_cases scalar trail
  | object fields =>
      rw [enterPlan]
      split
      case h_1 => exact .inr ⟨_, rfl⟩
      case h_2 =>
        rw [clashPlan]
        split
        · exact .inr ⟨_, rfl⟩
        · exact .inl rfl
  | union alternatives =>
      rw [enterPlan]
      split
      case h_1 => exact .inr ⟨_, rfl⟩
      case h_2 =>
        split
        · exact .inr ⟨_, rfl⟩
        · exact .inl rfl
  | _ => exact .inl rfl

/-- Where an alternative is chosen, it is refused or nothing is done. -/
theorem choosePlan_cases (rootName : Option String) (union : Site) (location : Location)
    (front : List Tagged) (chosen : Tagged) :
    choosePlan rootName union location front chosen = .nothing ∨
      ∃ error, choosePlan rootName union location front chosen = .refuse error := by
  rw [choosePlan]
  split
  · exact .inr ⟨_, rfl⟩
  · split
    · exact .inr ⟨_, rfl⟩
    · exact .inl rfl

namespace Station

variable {front : List Station} {station : Station} {error : EmissionError} {name text : String}

/-- Nothing is registered before a node is left. -/
theorem plan_cases (rootName : Option String) (stays : ∀ site location, station ≠ .leave site location) :
    station.plan rootName = .nothing ∨ ∃ error, station.plan rootName = .refuse error := by
  cases station with
  | enter site location => exact enterPlan_cases rootName site location.reverse
  | choose union location front chosen => exact choosePlan_cases rootName union location front chosen
  | leave site location => exact absurd rfl (stays site location)

/-- What is done at a station is done at once. -/
theorem plan_simple (rootName : Option String) (station : Station) : (station.plan rootName).Simple := by
  by_cases leaves : ∃ site location, station = .leave site location
  case pos =>
    rcases leaves with ⟨site, location, rfl⟩
    rw [plan, leavePlan]
    split
    · exact .register _ _
    · exact .nothing
  case neg =>
    rcases plan_cases rootName fun site location same => leaves ⟨site, location, same⟩
      with same | ⟨error, same⟩
    · rw [same]
      exact .nothing
    · rw [same]
      exact .refuse error

/-- Declarations are registered where their nodes are left. -/
theorem plan_eq_register_iff :
    station.plan rootName = .register name text ↔
      ∃ site location, station = .leave site location ∧
        site.declaration? rootName = some (name, text) := by
  constructor
  · intro registers
    by_cases leaves : ∃ site location, station = .leave site location
    case pos =>
      rcases leaves with ⟨site, location, rfl⟩
      refine ⟨site, location, rfl, ?_⟩
      rw [plan, leavePlan] at registers
      split at registers
      case h_1 declares =>
        cases registers
        exact declares
      case h_2 => cases registers
    case neg =>
      rcases plan_cases rootName fun site location same => leaves ⟨site, location, same⟩
        with same | ⟨error, same⟩
      · cases same.symm.trans registers
      · cases same.symm.trans registers
  · rintro ⟨site, location, rfl, declares⟩
    rw [plan, leavePlan, declares]

theorem mem_map_plan_iff {stations : List Station} :
    .register name text ∈ stations.map (plan rootName) ↔
      ∃ site location, .leave site location ∈ stations ∧
        site.declaration? rootName = some (name, text) := by
  rw [List.mem_map]
  constructor
  · rintro ⟨station, listed, registers⟩
    rcases plan_eq_register_iff.mp registers with ⟨site, location, rfl, declares⟩
    exact ⟨site, location, listed, declares⟩
  · rintro ⟨site, location, listed, declares⟩
    exact ⟨_, listed, plan_eq_register_iff.mpr ⟨site, location, rfl, declares⟩⟩

/-- A station offends exactly if what is done there fails behind what was done at the stations in front
of it. -/
theorem offends_iff :
    Offends rootName front station error ↔
      Plan.Fails (.empty .strict) (front.map (plan rootName)) (station.plan rootName) error := by
  have unknown (name other : String) : (Registry.empty .strict).get? name ≠ some other := nofun
  simp only [Plan.fails_iff, unknown, false_or, plan_eq_register_iff, mem_map_plan_iff]
  cases station with
  | enter site location =>
      rw [offends_enter_iff, plan, or_iff_left]
      rintro ⟨_, _, _, ⟨_, _, leaves, _⟩, _⟩
      cases leaves
  | choose union location before chosen =>
      rw [offends_choose_iff, plan, or_iff_left]
      rintro ⟨_, _, _, ⟨_, _, leaves, _⟩, _⟩
      cases leaves
  | leave site location =>
      have accepted : (leave site location).plan rootName ≠ .refuse error := by
        rw [plan, leavePlan]
        split <;> exact nofun
      rw [or_iff_right accepted]
      constructor
      · intro offends
        cases offends with
        | conflict registered held declares differs =>
            exact ⟨_, _, _, ⟨_, _, rfl, declares⟩, ⟨_, _, registered, held⟩, differs, rfl⟩
      · rintro ⟨name, text, other, ⟨_, _, leaves, declares⟩, ⟨earlier, place, registered, held⟩,
          differs, rfl⟩
        cases leaves
        exact .conflict registered held declares differs

end Station

/-! ## The first station that offends -/

/-- An emission fails as its plan does. -/
theorem run_answering_error_iff {plan : Plan} {type : String} {before : Registry}
    {error : EmissionError} :
    ((plan.answering type).run before).1 = .error error ↔
      ∃ after, plan.perform.run before = (.error error, after) := by
  rw [Plan.answering, Emitting.run_bind]
  rcases plan.perform.run before with ⟨result, after⟩
  cases result with
  | ok done =>
      constructor
      · intro failed
        cases failed
      · rintro ⟨_, failed⟩
        cases failed
  | error found =>
      constructor
      · intro failed
        cases failed
        exact ⟨after, rfl⟩
      · rintro ⟨_, failed⟩
        cases failed
        rfl

/-- On an empty strict registry an emission fails as the first station that offends. -/
theorem emit_fails_iff (rootName : Option String) (shape : Shape) {error : EmissionError} :
    ((emit rootName shape).run (.empty .strict)).1 = .error error ↔
      FirstOffence (Station.Offends rootName) (stations shape .type []) error := by
  have alike : (typePlan rootName shape []).Alike (stationPlan rootName (stations shape .type [])) :=
    (shape_traversed rootName shape).untagged .type rfl []
  rw [emit_eq, run_answering_error_iff, alike (.empty .strict) rfl, stationPlan,
    Plan.run_all_error_iff (List.forall_mem_map.mpr fun station _ => station.plan_simple rootName) rfl]
  refine firstOffence_congr (List.length_map _) ?_ error
  intro plansFront plan plansRest front station rest plansSplit split beside another
  rw [split, List.map_append, List.map_cons] at plansSplit
  have sameLength : (front.map (Station.plan rootName)).length = plansFront.length := by
    rw [List.length_map, beside]
  rcases List.append_inj plansSplit sameLength with ⟨rfl, same⟩
  cases same
  exact Station.offends_iff.symm

end Nominal

namespace Schema

open Nominal

/-- Emission is refused exactly where its walk meets an offence, and for the first one.  The walk
enters every node that steps lead to, and the location of a station is made of the steps that lead to
its node. -/
theorem emission_refused_at_first_offence (schema : Schema) (rootName : Option String)
    (id : NodeId) :
    let start : Site := ⟨schema.shape id, .type⟩
    let walk := stations (schema.shape id) .type []
    let result := ((emit rootName (schema.shape id)).run (.empty .strict)).1
    (∀ error, result = .error error ↔ FirstOffence (Station.Offends rootName) walk error) ∧
    ((∃ error, result = .error error) ↔ ∃ front station rest error, walk = front ++ station :: rest ∧
      station.Offends rootName front error) ∧
    (∀ site location, .enter site location ∈ walk ↔ start.Leads location site) ∧
    (∀ station ∈ walk, start.Leads station.location station.site) ∧
    ∀ union location front chosen, .choose union location front chosen ∈ walk →
      ∃ tag, Site.Step (.alternative front.length) union ⟨chosen.1, .member chosen.struct tag⟩ := by
  intro start walk result
  have refused (error : EmissionError) :
      result = .error error ↔ FirstOffence (Station.Offends rootName) walk error :=
    emit_fails_iff rootName (schema.shape id)
  refine ⟨refused, ?some, ?entered, ?placed, fun _ _ _ _ => step_of_choose_mem_stations⟩
  case some =>
    simp only [refused]
    exact exists_firstOffence_iff
  case placed =>
    intro station listed
    rcases leads_of_mem_stations listed with ⟨down, place, leads⟩
    rw [place]
    exact leads
  case entered =>
    intro site location
    constructor
    · intro listed
      rcases leads_of_mem_stations listed with ⟨down, place, leads⟩
      have same : location = down := place
      rw [same]
      exact leads
    · exact fun leads => leads.enter_mem_stations []

/-- A union of two alternatives whose variants have one name.  The first of them has a field without
a type. -/
def twins : Schema :=
  ⟨#[⟨.leaf (.exact "a"), true, false, none, none⟩,
      ⟨.leaf (.exact "b"), true, false, none, none⟩,
      ⟨.leaf (.buffer .unbounded), true, false, none, none⟩,
      ⟨.object [("kind", 0), ("data", 2)], true, false, none, some "Twin"⟩,
      ⟨.object [("kind", 1)], true, false, none, some "Twin"⟩,
      ⟨.union [3, 4], true, false, some "Twins", none⟩],
    5, by decide, by decide⟩

/-- The variants of a union are compared one by one, each behind the structs of those in front of
it.  The union of twins has two variants of one name, and still it is refused for what is inside of
the first of them. -/
theorem twins_refused_inside :
    let union : Site := ⟨twins.shape 5, .type⟩
    let clash : Station := .choose union [] [(twins.shape 3, "a")] (twins.shape 4, "b")
    clash ∈ stations (twins.shape 5) .type [] ∧
      clash.Offends none [] (.repeatedIdentifier .variant "Twin" "a" "b" []) ∧
      ((emit none (twins.shape 5)).run (.empty .strict)).1 =
        .error (.noNominalForm "buffer" [.alternative 0, .field "data"]) := by
  intro union clash
  have unfolded : twins.shape 5 = .node ⟨true, false, some "Twins", none, true⟩
      (.union ([3, 4].map twins.shape)) :=
    twins.shape_eq (show twins.nodes[5]? = some twins.nodes[5] from rfl)
  have tagged : discriminant? ([3, 4].map twins.shape) = some ("kind", ["a", "b"]) := by
    decide +kernel
  refine ⟨?listed, ?offends, by decide +kernel⟩
  case listed =>
    rw [show clash = .choose ⟨_, .type⟩ [] _ _ from rfl, unfolded]
    exact mem_stations.mpr (.inr (.inr (mem_stationsBelow.mpr
      (.inr ⟨_, "kind", ["a", "b"], 1, _, rfl, tagged, rfl, rfl⟩))))
  case offends =>
    change Station.Offends none []
      (.choose union [] ([] ++ (twins.shape 3, "a") :: []) (twins.shape 4, "b")) _
    exact .repeatedVariant (by decide +kernel) nofun

end Schema
end Conformance
