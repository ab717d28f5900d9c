import Conformance.Proofs.Emission.Sites
import Conformance.Proofs.FirstOffence

namespace Conformance
namespace Nominal

/-!
# The order of an emission

The walk of an emission stops twice at every node, before and after all that is below it, and at a
union also before each of its alternatives.  At these stations it finds everything that keeps a
type from being emitted.  A node is looked at by itself when the walk enters it, an alternative
when it is chosen, and a declaration when the walk leaves its node, because it is registered
behind everything that it refers to.

A station tells where it is.  What is wrong at a station depends on the station, and for a
declaration on the stations in front of it.  Their order depends on nothing but the tree.
-/

/-! ## Steps -/

namespace Site

/-- The step from a node to another one directly below, with the label that it has in locations. -/
inductive Step : LocationStep → Site → Site → Prop where
  | field {header : Header} {role : Role} {fields : List (String × Shape)} {name : String}
      {shape : Shape} (listed : (name, shape) ∈ fields) (notTag : some name ≠ role.tag?) :
      Step (.field name) ⟨.node header (.object fields), role⟩ ⟨shape, .field⟩
  | item {header : Header} {role : Role} {item : Shape} {length : LengthBounds} :
      Step .items ⟨.node header (.array item length), role⟩ ⟨item, .type⟩
  | position {header : Header} {role : Role} {items : List Shape} {index : Nat} {shape : Shape}
      (listed : items[index]? = some shape) :
      Step (.position index) ⟨.node header (.tuple items), role⟩ ⟨shape, .type⟩
  | value {header : Header} {role : Role} {value : Shape} {keys : LengthBounds} :
      Step .values ⟨.node header (.record value keys), role⟩ ⟨value, .type⟩
  | member {header : Header} {role : Role} {alternatives : List Shape} {tag : String}
      {literals : List String} {index : Nat} {shape : Shape} {literal : String}
      (tagged : discriminant? alternatives = some (tag, literals))
      (listed : (alternatives.zip literals)[index]? = some (shape, literal)) :
      Step (.alternative index) ⟨.node header (.union alternatives), role⟩
        ⟨shape, .member (structName shape.header literal) tag⟩

theorem Step.mem_children {label : LocationStep} {header : Header} {form : Form Shape} {role : Role}
    {next : Site} (step : Step label ⟨.node header form, role⟩ next) :
    next.shape ∈ form.children := by
  cases step with
  | field listed => exact List.mem_map_of_mem listed
  | item | value => exact List.mem_cons_self
  | position listed => exact List.mem_of_getElem? listed
  | member _ listed => exact (List.of_mem_zip (List.mem_of_getElem? listed)).1

/-- The steps of a location lead from a node down to another one. -/
inductive Leads : Site → Location → Site → Prop where
  | here {site : Site} : Leads site [] site
  | step {start middle site : Site} {label : LocationStep} {location : Location}
      (first : Step label start middle) (later : Leads middle location site) :
      Leads start (label :: location) site

/-- The name that a node is declared under. -/
def name? (rootName : Option String) (site : Site) : Option String :=
  site.role.name? rootName site.shape.header

end Site

/-! ## Stations -/

/-- An alternative of a tagged union with its literal. -/
abbrev Tagged : Type := Shape × String

namespace Tagged

/-- The name of the variant of an alternative. -/
def variant (tagged : Tagged) : String := variantName tagged.1.header tagged.2

/-- The name of the struct of an alternative. -/
def struct (tagged : Tagged) : String := structName tagged.1.header tagged.2

end Tagged

/-- What the walk does at a node.  An alternative is chosen after those in front of it. -/
inductive Station where
  | enter (site : Site) (location : Location)
  | choose (union : Site) (location : Location) (front : List Tagged) (chosen : Tagged)
  | leave (site : Site) (location : Location)

namespace Station

/-- The node of a station. -/
def site : Station → Site
  | .enter site _ | .choose site _ _ _ | .leave site _ => site

/-- The place of a station. -/
def location : Station → Location
  | .enter _ location | .choose _ location _ _ | .leave _ location => location

/-- What keeps a type from being emitted at a station, after the stations in front of it.  An
alternative clashes with the nearest one in front of it that has the same variant. -/
inductive Offends (rootName : Option String) (front : List Station) :
    Station → EmissionError → Prop where
  | unnamedObject {header : Header} {fields : List (String × Shape)} {role : Role} {location : Location}
      (unnamed : role.name? rootName header = none) :
      Offends rootName front (.enter ⟨.node header (.object fields), role⟩ location)
        (.missingName "object" location)
  | unnamedUnion {header : Header} {alternatives : List Shape} {role : Role} {location : Location}
      (unnamed : role.name? rootName header = none) :
      Offends rootName front (.enter ⟨.node header (.union alternatives), role⟩ location)
        (.missingName "union" location)
  | untagged {header : Header} {alternatives : List Shape} {role : Role} {location : Location}
      {name : String} (named : role.name? rootName header = some name)
      (untagged : discriminant? alternatives = none) :
      Offends rootName front (.enter ⟨.node header (.union alternatives), role⟩ location)
        (.untaggedUnion location)
  | buffer {header : Header} {length : LengthBounds} {role : Role} {location : Location} :
      Offends rootName front (.enter ⟨.node header (.leaf (.buffer length)), role⟩ location)
        (.noNominalForm "buffer" location)
  | standaloneExact {header : Header} {expected : String} {role : Role} {location : Location}
      (notField : role ≠ .field) :
      Offends rootName front (.enter ⟨.node header (.leaf (.exact expected)), role⟩ location)
        (.standaloneExact expected location)
  | optionalExact {header : Header} {expected : String} {location : Location}
      (optional : header.required = false) :
      Offends rootName front (.enter ⟨.node header (.leaf (.exact expected)), .field⟩ location)
        (.optionalExact location)
  | repeatedField {header : Header} {fields : List (String × Shape)} {role : Role}
      {location : Location} {name first second : String} {earlier later : List String}
      (named : role.name? rootName header = some name)
      (split : (fieldsWithout role.tag? fields).map Prod.fst = earlier ++ second :: later)
      (distinct : (earlier.map Naming.field).Nodup) (listed : first ∈ earlier)
      (same : Naming.field first = Naming.field second) :
      Offends rootName front (.enter ⟨.node header (.object fields), role⟩ location)
        (.repeatedIdentifier .field (Naming.field second) first second location)
  | repeatedVariant {union : Site} {location : Location} {chosen first : Tagged}
      {earlier between : List Tagged} (same : first.variant = chosen.variant)
      (nearest : ∀ other ∈ between, other.variant ≠ chosen.variant) :
      Offends rootName front (.choose union location (earlier ++ first :: between) chosen)
        (.repeatedIdentifier .variant chosen.variant first.2 chosen.2 location)
  | memberNamedAfterUnion {union : Site} {location : Location} {before : List Tagged} {chosen : Tagged}
      (distinct : ∀ other ∈ before, other.variant ≠ chosen.variant)
      (same : union.name? rootName = some chosen.struct) :
      Offends rootName front (.choose union location before chosen)
        (.memberNamedAfterUnion chosen.struct (location ++ [.alternative before.length]))
  | conflict {site earlier : Site} {location place : Location} {name text other : String}
      (registered : .leave earlier place ∈ front)
      (held : earlier.declaration? rootName = some (name, other))
      (declares : site.declaration? rootName = some (name, text)) (differs : other ≠ text) :
      Offends rootName front (.leave site location) (.conflictingDefinition name)

end Station

mutual

/-- The stations at a node and at all below it.  The trail tells the steps to the node, innermost
first. -/
def stations : Shape → Role → Location → List Station
  | .node header form, role, trail =>
      .enter ⟨.node header form, role⟩ trail.reverse ::
        (stationsBelow header role form trail ++ [.leave ⟨.node header form, role⟩ trail.reverse])

/-- The stations at everything below a node. -/
def stationsBelow (header : Header) (role : Role) : Form Shape → Location → List Station
  | .leaf _, _ => []
  | .object fields, trail => fieldStations role.tag? fields trail
  | .array item _, trail => stations item .type (.items :: trail)
  | .tuple items, trail => positionStations items 0 trail
  | .record value _, trail => stations value .type (.values :: trail)
  | .union alternatives, trail =>
      match discriminant? alternatives with
      | none => []
      | some (tag, literals) =>
          memberStations ⟨.node header (.union alternatives), role⟩ tag [] alternatives literals trail

/-- The stations at the fields of a struct, without the field that is the tag. -/
def fieldStations (tag : Option String) : List (String × Shape) → Location → List Station
  | [], _ => []
  | (name, shape) :: rest, trail =>
      if some name = tag then fieldStations tag rest trail
      else stations shape .field (.field name :: trail) ++ fieldStations tag rest trail

/-- The stations at the positions of a tuple, the first of them numbered. -/
def positionStations : List Shape → Nat → Location → List Station
  | [], _, _ => []
  | shape :: rest, index, trail =>
      stations shape .type (.position index :: trail) ++ positionStations rest (index + 1) trail

/-- The stations at the alternatives of a union behind those in front. -/
def memberStations (union : Site) (tag : String) (front : List Tagged) :
    List Shape → List String → Location → List Station
  | shape :: rest, literal :: literals, trail =>
      .choose union trail.reverse front (shape, literal) ::
        (stations shape (.member (structName shape.header literal) tag)
            (.alternative front.length :: trail) ++
          memberStations union tag (front ++ [(shape, literal)]) rest literals trail)
  | _, _, _ => []

end

/-! ### Every station is where it says -/

section

variable {station : Station} {tag : Option String} {trail : Location}

theorem mem_fieldStations {fields : List (String × Shape)} :
    station ∈ fieldStations tag fields trail ↔
      ∃ name shape, (name, shape) ∈ fields ∧ some name ≠ tag ∧
        station ∈ stations shape .field (.field name :: trail) := by
  induction fields with
  | nil => simp [fieldStations]
  | cons field rest inductionHypothesis =>
      rcases field with ⟨name, shape⟩
      rw [fieldStations]
      split
      case isTrue isTag =>
        rw [inductionHypothesis]
        grind
      case isFalse notTag =>
        rw [List.mem_append, inductionHypothesis]
        grind

theorem mem_positionStations {items : List Shape} : ∀ {index : Nat},
    station ∈ positionStations items index trail ↔
      ∃ (offset : Nat) (shape : Shape), items[offset]? = some shape ∧
        station ∈ stations shape .type (.position (index + offset) :: trail) := by
  induction items with
  | nil => simp [positionStations]
  | cons first rest inductionHypothesis =>
      intro index
      rw [positionStations, List.mem_append, inductionHypothesis]
      constructor
      · rintro (here | ⟨offset, shape, listed, inside⟩)
        · exact ⟨0, first, rfl, here⟩
        · rw [Nat.add_assoc, Nat.add_comm 1] at inside
          exact ⟨offset + 1, shape, listed, inside⟩
      · rintro ⟨offset, shape, listed, inside⟩
        cases offset with
        | zero =>
            cases listed
            exact .inl inside
        | succ offset =>
            rw [← Nat.add_assoc, Nat.add_right_comm] at inside
            exact .inr ⟨offset, shape, listed, inside⟩

theorem mem_memberStations {union : Site} {tag : String} {alternatives : List Shape} :
    ∀ {literals : List String} {front : List Tagged},
    station ∈ memberStations union tag front alternatives literals trail ↔
      ∃ (offset : Nat) (shape : Shape) (literal : String),
        (alternatives.zip literals)[offset]? = some (shape, literal) ∧
        (station = .choose union trail.reverse
            (front ++ (alternatives.zip literals).take offset) (shape, literal) ∨
          station ∈ stations shape (.member (structName shape.header literal) tag)
            (.alternative (front.length + offset) :: trail)) := by
  induction alternatives with
  | nil => simp [memberStations]
  | cons first rest inductionHypothesis =>
      intro literals front
      cases literals with
      | nil => simp [memberStations]
      | cons literal literals =>
          rw [memberStations, List.mem_cons, List.mem_append, inductionHypothesis, List.zip_cons_cons,
            List.length_append, List.length_singleton]
          constructor
          · rintro (chosen | inside | ⟨offset, shape, other, listed, found⟩)
            · exact ⟨0, first, literal, rfl, .inl (by rw [chosen, List.take_zero, List.append_nil])⟩
            · exact ⟨0, first, literal, rfl, .inr inside⟩
            · refine ⟨offset + 1, shape, other, listed, ?_⟩
              rw [List.append_assoc, Nat.add_assoc, Nat.add_comm 1] at found
              exact found
          · rintro ⟨offset, shape, other, listed, found⟩
            cases offset with
            | zero =>
                cases listed
                rw [List.take_zero, List.append_nil] at found
                exact found.imp id .inl
            | succ offset =>
                refine .inr (.inr ⟨offset, shape, other, listed, ?_⟩)
                rw [List.append_assoc, Nat.add_assoc, Nat.add_comm 1]
                exact found

/-- Below a node are the stations at the nodes one step further, and at a tagged union a station for
each of its alternatives. -/
theorem mem_stationsBelow {header : Header} {role : Role} {form : Form Shape} :
    station ∈ stationsBelow header role form trail ↔
      (∃ label next, Site.Step label ⟨.node header form, role⟩ next ∧
        station ∈ stations next.shape next.role (label :: trail)) ∨
      ∃ alternatives tag literals offset chosen, form = .union alternatives ∧
        discriminant? alternatives = some (tag, literals) ∧
        (alternatives.zip literals)[offset]? = some chosen ∧
        station = .choose ⟨.node header form, role⟩ trail.reverse
          ((alternatives.zip literals).take offset) chosen := by
  cases form with
  | leaf scalar =>
      refine iff_of_false (by simp [stationsBelow]) ?_
      rintro (⟨label, next, step, _⟩ | ⟨_, _, _, _, _, isUnion, _⟩)
      · cases step
      · cases isUnion
  | object fields =>
      rw [stationsBelow, mem_fieldStations]
      constructor
      · rintro ⟨name, shape, listed, notTag, inside⟩
        exact .inl ⟨_, _, .field listed notTag, inside⟩
      · rintro (⟨_, _, step, inside⟩ | ⟨_, _, _, _, _, isUnion, _⟩)
        · cases step with
          | field listed notTag => exact ⟨_, _, listed, notTag, inside⟩
        · cases isUnion
  | array item length =>
      constructor
      · exact fun inside => .inl ⟨_, _, .item, inside⟩
      · rintro (⟨_, _, step, inside⟩ | ⟨_, _, _, _, _, isUnion, _⟩)
        · cases step
          exact inside
        · cases isUnion
  | tuple items =>
      rw [stationsBelow, mem_positionStations]
      simp only [Nat.zero_add]
      constructor
      · rintro ⟨index, shape, listed, inside⟩
        exact .inl ⟨_, _, .position listed, inside⟩
      · rintro (⟨_, _, step, inside⟩ | ⟨_, _, _, _, _, isUnion, _⟩)
        · cases step with
          | position listed => exact ⟨_, _, listed, inside⟩
        · cases isUnion
  | record value keys =>
      constructor
      · exact fun inside => .inl ⟨_, _, .value, inside⟩
      · rintro (⟨_, _, step, inside⟩ | ⟨_, _, _, _, _, isUnion, _⟩)
        · cases step
          exact inside
        · cases isUnion
  | union alternatives =>
      rw [stationsBelow]
      cases tagged : discriminant? alternatives with
      | none =>
          refine iff_of_false List.not_mem_nil ?_
          rintro (⟨_, _, step, _⟩ | ⟨_, _, _, _, _, isUnion, found, _⟩)
          · cases step with
            | member found => cases tagged.symm.trans found
          · cases isUnion
            cases tagged.symm.trans found
      | some pair =>
          rcases pair with ⟨tag, literals⟩
          rw [mem_memberStations]
          simp only [List.nil_append, List.length_nil, Nat.zero_add]
          constructor
          · rintro ⟨offset, shape, literal, listed, chosen | inside⟩
            · exact .inr ⟨_, _, _, _, _, rfl, tagged, listed, chosen⟩
            · exact .inl ⟨_, _, .member tagged listed, inside⟩
          · rintro (⟨_, _, step, inside⟩ | ⟨_, _, _, _, _, isUnion, found, listed, chosen⟩)
            · cases step with
              | member found listed =>
                  cases tagged.symm.trans found
                  exact ⟨_, _, _, listed, .inr inside⟩
            · cases isUnion
              cases tagged.symm.trans found
              exact ⟨_, _, _, listed, .inl chosen⟩

theorem mem_stations {header : Header} {role : Role} {form : Form Shape} :
    station ∈ stations (.node header form) role trail ↔
      station = .enter ⟨.node header form, role⟩ trail.reverse ∨
      station = .leave ⟨.node header form, role⟩ trail.reverse ∨
        station ∈ stationsBelow header role form trail := by
  rw [stations, List.mem_cons, List.mem_append, List.mem_singleton, or_comm (a := station ∈ _)]

end

/-- The location of a station leads to its node. -/
theorem leads_of_mem_stations {shape : Shape} : ∀ {role : Role} {trail : Location} {station : Station},
    station ∈ stations shape role trail →
      ∃ down, station.location = trail.reverse ++ down ∧ Site.Leads ⟨shape, role⟩ down station.site := by
  induction shape using Shape.induction with
  | node header form inductionHypothesis =>
      intro role trail station listed
      rcases mem_stations.mp listed with rfl | rfl | below
      · exact ⟨[], (List.append_nil _).symm, .here⟩
      · exact ⟨[], (List.append_nil _).symm, .here⟩
      · rcases mem_stationsBelow.mp below with
          ⟨label, next, step, inside⟩ | ⟨_, _, _, _, _, _, _, _, rfl⟩
        · rcases inductionHypothesis next.shape step.mem_children inside with ⟨down, place, leads⟩
          refine ⟨label :: down, ?_, .step step leads⟩
          rw [place, List.reverse_cons, List.append_assoc]
          rfl
        · exact ⟨[], (List.append_nil _).symm, .here⟩

/-- An alternative is chosen where a step leads to it. -/
theorem step_of_choose_mem_stations {shape : Shape} {union : Site} {location : Location}
    {front : List Tagged} {chosen : Tagged} : ∀ {role : Role} {trail : Location},
    .choose union location front chosen ∈ stations shape role trail →
      ∃ tag, Site.Step (.alternative front.length) union ⟨chosen.1, .member chosen.struct tag⟩ := by
  induction shape using Shape.induction with
  | node header form inductionHypothesis =>
      intro role trail listed
      rcases mem_stations.mp listed with same | same | below
      · cases same
      · cases same
      · rcases mem_stationsBelow.mp below with
          ⟨label, next, step, inside⟩ |
            ⟨alternatives, tag, literals, offset, tagged, rfl, found, here, same⟩
        · exact inductionHypothesis next.shape step.mem_children inside
        · cases same
          have bound := (List.getElem?_eq_some_iff.mp here).1
          rw [List.length_take, Nat.min_eq_left (Nat.le_of_lt bound)]
          exact ⟨tag, .member found here⟩

/-- The walk enters every node that steps lead to. -/
theorem Site.Leads.enter_mem_stations {start site : Site} {location : Location}
    (leads : start.Leads location site) : ∀ trail : Location,
    .enter site (trail.reverse ++ location) ∈ stations start.shape start.role trail := by
  induction leads with
  | @here site =>
      intro trail
      rcases site with ⟨⟨header, form⟩, role⟩
      rw [List.append_nil]
      exact mem_stations.mpr (.inl rfl)
  | @step start middle site label location first later inductionHypothesis =>
      intro trail
      have inside := inductionHypothesis (label :: trail)
      rw [List.reverse_cons, List.append_assoc] at inside
      rcases start with ⟨⟨header, form⟩, role⟩
      exact mem_stations.mpr (.inr (.inr (mem_stationsBelow.mpr (.inl ⟨label, middle, first, inside⟩))))

end Nominal
end Conformance
