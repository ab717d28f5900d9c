import Conformance.Proofs.FirstOffence
import Conformance.Proofs.Schema.Tree

namespace Conformance

/-!
# What can be wrong with a node

Finishing an arena goes through three lists one inside of another: the nodes in their order, of
every node the children, and of every object the names of its fields.  In each of them the first
offence is the one that is reported.  Here the offences are said by themselves, and the search
for errors is shown to find the first of them.

A node offends with a child that may not stand below it, or else with what it says itself.  What
it says itself has nothing to do with its children, so it stays the same when they are replaced.
-/

namespace Form

variable {Child Target : Type} {change : Child → Target} {form : Form Child}
variable {id : NodeId} {error : SchemaError}

/-- The bounds of what counts something: characters, bytes, items or keys. -/
def lengths? : Form Child → Option LengthBounds
  | .leaf (.string length) | .leaf (.buffer length) | .array _ length | .record _ length =>
      some length
  | _ => none

/-- The names of the fields in their order. -/
def fieldNames : Form Child → List String
  | .object fields => fields.map Prod.fst
  | _ => []

/-- A form that is wrong in itself, as it is reported for the node of a number. -/
inductive Offends (id : NodeId) (form : Form Child) : SchemaError → Prop where
  | length {bounds : LengthBounds} (counts : form.lengths? = some bounds)
      (inverted : bounds.max < bounds.min) : Offends id form (.invertedLength id bounds)
  | integers {range : IntegerRange} (isInteger : form = .leaf (.integer range))
      (inverted : range.max < range.min) : Offends id form (.invertedIntegers id range)
  | reals {range : RealRange} (isReal : form = .leaf (.real range))
      (inverted : range.min.isNaN = true ∨ range.max.isNaN = true ∨ range.max.lt range.min = true) :
      Offends id form (.invertedReals id range)
  | field {name : String}
      (repeated : FirstOffence (fun front name found => name ∈ front ∧ found = name)
        form.fieldNames name) :
      Offends id form (.repeatedField id name)
  | alternatives (isEmpty : form = .union []) : Offends id form (.emptyUnion id)

theorem lengths?_map : (form.map change).lengths? = form.lengths? := by
  cases form with
  | leaf scalar => cases scalar <;> rfl
  | _ => rfl

theorem fieldNames_map : (form.map change).fieldNames = form.fieldNames := by
  cases form with
  | object fields => exact List.map_map
  | _ => rfl

theorem map_eq_leaf_iff {scalar : Leaf} : form.map change = .leaf scalar ↔ form = .leaf scalar := by
  cases form with
  | leaf other => exact ⟨fun same => by cases same; rfl, fun same => by cases same; rfl⟩
  | _ => constructor <;> intro same <;> cases same

theorem map_eq_union_nil_iff : form.map change = .union [] ↔ form = .union [] := by
  cases form with
  | union alternatives => simp [map]
  | _ => constructor <;> intro same <;> cases same

/-- A form is wrong in itself whatever its children are. -/
theorem offends_map : (form.map change).Offends id error ↔ form.Offends id error := by
  constructor
  · intro offends
    cases offends with
    | length counts inverted => exact .length (lengths?_map.symm.trans counts) inverted
    | integers isInteger inverted => exact .integers (map_eq_leaf_iff.mp isInteger) inverted
    | reals isReal inverted => exact .reals (map_eq_leaf_iff.mp isReal) inverted
    | field repeated => exact .field (fieldNames_map.symm ▸ repeated)
    | alternatives isEmpty => exact .alternatives (map_eq_union_nil_iff.mp isEmpty)
  · intro offends
    cases offends with
    | length counts inverted => exact .length (lengths?_map.trans counts) inverted
    | integers isInteger inverted => exact .integers (map_eq_leaf_iff.mpr isInteger) inverted
    | reals isReal inverted => exact .reals (map_eq_leaf_iff.mpr isReal) inverted
    | field repeated => exact .field (fieldNames_map.symm ▸ repeated)
    | alternatives isEmpty => exact .alternatives (map_eq_union_nil_iff.mpr isEmpty)

end Form

namespace Node

/-- A child that may not stand below the node of a number, in an arena of `size` nodes. -/
inductive Misplaced (size : Nat) (id : NodeId) (child : NodeId) : SchemaError → Prop where
  | unknown (missing : size ≤ child) : Misplaced size id child (.unknownNode child)
  | forward (known : child < size) (late : id ≤ child) :
      Misplaced size id child (.forwardReference id child)

/-- A node that offends, in an arena of `size` nodes.  Its children come first. -/
inductive Offends (size : Nat) (id : NodeId) (node : Node) : SchemaError → Prop where
  | child {error : SchemaError}
      (misplaced : FirstOffence (fun _ => Misplaced size id) node.form.children error) :
      Offends size id node error
  | own {error : SchemaError} (placed : ∀ child ∈ node.form.children, child < id)
      (offends : node.form.Offends id error) : Offends size id node error

end Node

/-! ## The searches find the first offence -/

theorem repeatedName?_eq_some_iff {found : String} {names : List String} : ∀ {seen : List String},
    repeatedName? seen names = some found ↔
      FirstOffence (fun front name found => (name ∈ front ∨ name ∈ seen) ∧ found = name)
        names found := by
  induction names with
  | nil =>
      intro seen
      exact iff_of_false nofun not_firstOffence_nil
  | cons first rest inductionHypothesis =>
      intro seen
      rw [firstOffence_cons, repeatedName?, List.contains_eq_mem]
      by_cases listed : first ∈ seen
      · simp [listed, eq_comm]
      · have later := @inductionHypothesis (first :: seen)
        simp only [List.mem_cons, or_left_comm] at later
        simp [listed, later, or_assoc]

namespace Node

variable {size : Nat} {id : NodeId} {error : SchemaError}

theorem lengthError?_eq_some_iff {bounds : LengthBounds} :
    lengthError? id bounds = some error ↔
      bounds.max < bounds.min ∧ error = .invertedLength id bounds := by
  rw [lengthError?]
  split <;> simp_all [eq_comm]

/-- Of a form with lengths nothing is checked but the lengths. -/
theorem ownError?_of_lengths {form : Form NodeId} {bounds : LengthBounds}
    (counts : form.lengths? = some bounds) : ownError? id form = lengthError? id bounds := by
  cases form with
  | leaf scalar =>
      cases scalar with
      | string | buffer =>
          cases counts
          rfl
      | _ => cases counts
  | array | record =>
      cases counts
      rfl
  | _ => cases counts

/-- A node is reported for what it is itself exactly if it is wrong in itself. -/
theorem ownError?_eq_some_iff {form : Form NodeId} :
    ownError? id form = some error ↔ form.Offends id error := by
  constructor
  · intro reported
    have counted {bounds : LengthBounds} (counts : form.lengths? = some bounds) :
        form.Offends id error := by
      rw [ownError?_of_lengths counts, lengthError?_eq_some_iff] at reported
      rw [reported.2]
      exact .length counts reported.1
    cases form with
    | leaf scalar =>
        cases scalar with
        | string | buffer => exact counted rfl
        | integer range =>
            rcases Option.ite_none_right_eq_some.mp reported with ⟨inverted, same⟩
            cases same
            exact .integers rfl inverted
        | real range =>
            rcases Option.ite_none_right_eq_some.mp reported with ⟨inverted, same⟩
            cases same
            exact .reals rfl (by simpa [or_assoc] using inverted)
        | _ => cases reported
    | object fields =>
        rcases Option.map_eq_some_iff.mp reported with ⟨name, repeated, rfl⟩
        have first := repeatedName?_eq_some_iff.mp repeated
        simp only [List.not_mem_nil, or_false] at first
        exact .field first
    | array | record => exact counted rfl
    | tuple items => cases reported
    | union alternatives =>
        rcases Option.ite_none_right_eq_some.mp reported with ⟨isEmpty, same⟩
        cases same
        exact .alternatives (congrArg Form.union (List.isEmpty_iff.mp isEmpty))
  · intro offends
    cases offends with
    | length counts inverted =>
        rw [ownError?_of_lengths counts, lengthError?_eq_some_iff]
        exact ⟨inverted, rfl⟩
    | integers isInteger inverted =>
        rw [isInteger]
        exact if_pos inverted
    | reals isReal inverted =>
        rw [isReal]
        exact if_pos (by simpa [or_assoc] using inverted)
    | field repeated =>
        cases form with
        | object fields =>
            refine Option.map_eq_some_iff.mpr ⟨_, repeatedName?_eq_some_iff.mpr ?_, rfl⟩
            simp only [List.not_mem_nil, or_false]
            exact repeated
        | _ => exact absurd repeated not_firstOffence_nil
    | alternatives isEmpty =>
        rw [isEmpty]
        rfl

theorem misplaced_of_unknown {child : NodeId} (missing : size ≤ child) :
    Misplaced size id child error ↔ error = .unknownNode child := by
  constructor
  · rintro (_ | ⟨known, _⟩)
    · rfl
    · exact absurd missing (Nat.not_le.mpr known)
  · rintro rfl
    exact .unknown missing

theorem misplaced_of_late {child : NodeId} (known : child < size) (late : id ≤ child) :
    Misplaced size id child error ↔ error = .forwardReference id child := by
  constructor
  · rintro (missing | _)
    · exact absurd missing (Nat.not_le.mpr known)
    · rfl
  · rintro rfl
    exact .forward known late

theorem not_misplaced {child : NodeId} (bound : id ≤ size) (placed : child < id) :
    ¬ Misplaced size id child error := by
  rintro (missing | ⟨_, late⟩)
  · exact absurd (Nat.le_trans bound missing) (Nat.not_le.mpr placed)
  · exact absurd late (Nat.not_le.mpr placed)

/-- The first child that may not stand below a node is reported. -/
theorem referenceError?_eq_some_iff (bound : id ≤ size) {children : List NodeId} :
    referenceError? size id children = some error ↔
      FirstOffence (fun _ => Misplaced size id) children error := by
  induction children with
  | nil => exact iff_of_false nofun not_firstOffence_nil
  | cons child rest inductionHypothesis =>
      rw [firstOffence_cons, ← inductionHypothesis, referenceError?]
      by_cases missing : size ≤ child
      · simp [missing, misplaced_of_unknown missing, eq_comm]
      · have known := Nat.lt_of_not_le missing
        by_cases late : id ≤ child
        · simp [missing, late, misplaced_of_late known late, eq_comm]
        · simp [missing, late, not_misplaced bound (Nat.lt_of_not_le late)]

/-- A node is reported exactly if it offends. -/
theorem error?_eq_some_iff (bound : id ≤ size) {node : Node} :
    node.error? size id = some error ↔ node.Offends size id error := by
  rw [error?, Option.orElse_eq_some, referenceError?_eq_some_iff bound,
    referenceError?_eq_none_iff bound, ownError?_eq_some_iff]
  constructor
  · rintro (misplaced | ⟨placed, offends⟩)
    · exact .child misplaced
    · exact .own placed offends
  · rintro (misplaced | ⟨placed, offends⟩)
    · exact .inl misplaced
    · exact .inr ⟨placed, offends⟩

end Node

/-- The first node that offends is reported. -/
theorem nodesError?_eq_some_iff {size : Nat} {error : SchemaError} {nodes : List Node} :
    ∀ {first : Nat}, first + nodes.length ≤ size →
      (nodesError? size first nodes = some error ↔
        FirstOffence (fun front node => node.Offends size (first + front.length)) nodes error) := by
  induction nodes with
  | nil =>
      intro first _
      exact iff_of_false nofun not_firstOffence_nil
  | cons node rest inductionHypothesis =>
      intro first bound
      rw [List.length_cons] at bound
      have here : first ≤ size := by omega
      have later := @inductionHypothesis (first + 1) (by omega)
      have none : node.error? size first = none ↔ ∀ another, ¬ node.Offends size first another := by
        simp only [Option.eq_none_iff_forall_ne_some, ne_eq, Node.error?_eq_some_iff here]
      simp only [Nat.add_assoc, Nat.add_comm 1] at later
      rw [firstOffence_cons, nodesError?, Option.orElse_eq_some, Node.error?_eq_some_iff here, none,
        later]
      rfl

end Conformance
