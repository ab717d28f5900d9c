import Conformance.Check.LeafCheck
import Conformance.Check.Presence
import Conformance.Failure.Finding

namespace Conformance

/-!
# Walks

A walk checks a value against the tree of a schema.  It adds what it finds to
the findings so far.  A walk that halts stops at its first finding and says so;
callers then stop as well.

A composite either reports itself and nothing below, or goes through all its
children in their order.  A union tries its alternatives one after another.  Once
an alternative finds nothing the findings of all others are dropped.  Otherwise
the union says in its own words that nothing matched or keeps what every
alternative found, as the mode tells; in the first case an alternative stops at
its first finding, since only its verdict matters.
-/

/-- What a union reports when no alternative accepts a value. -/
inductive UnionMode where
  | synthesized
  | all
deriving DecidableEq, Repr

/-- How a single check is reported. -/
structure CheckOptions where
  path : String := ""
  earlyFail : Bool := false
deriving DecidableEq, Repr

/-- Where a walk ended. -/
structure Walked where
  found : Array Finding
  halted : Bool

namespace Walked

/-- A walk that found nothing more. -/
def pass (found : Array Finding) : Walked := ⟨found, false⟩

/-- A walk that ends with a finding. -/
def raise (template : Template) (value : Option Value) (count : Option Nat)
    (trail : List Segment) (halt : Bool) (found : Array Finding) : Walked :=
  ⟨found.push (template.finding value count trail.reverse), halt⟩

end Walked

/-- A walk on a value that may be absent.  The trail tells the steps to the
value, innermost first. -/
abbrev Visit : Type := Option Value → List Segment → Bool → Array Finding → Walked

/-- Visits values below a trail, until a visit halts. -/
def visitEach (visit : Visit) (trail : List Segment) (halt : Bool) :
    List (Segment × Value) → Array Finding → Walked
  | [], found => .pass found
  | (segment, value) :: rest, found =>
      let walked := visit (some value) (segment :: trail) halt found
      if walked.halted then walked else visitEach visit trail halt rest walked.found

/-- Checks a leaf. -/
def walkLeaf (scalar : Leaf) (value : Value) (trail : List Segment) (halt : Bool)
    (found : Array Finding) : Walked :=
  match scalar.violation? value with
  | none => .pass found
  | some violation =>
      match scalar.template? violation.kind with
      | some template => .raise template (some value) violation.found trail halt found
      | none => .pass found

/-- Ends a union whose alternatives all failed, `mark` being the count of
findings before it. -/
def closeUnion (mode : UnionMode) (alternatives mark : Nat) (value : Value)
    (trail : List Segment) (halt : Bool) (found : Array Finding) : Walked :=
  match mode with
  | .synthesized =>
      .raise (.unionMismatch alternatives) (some value) none trail halt (found.shrink mark)
  | .all => if halt then ⟨found.shrink (mark + 1), true⟩ else .pass found

mutual

/-- Checks a value against a tree. -/
def walk (mode : UnionMode) : Shape → Visit
  | .node header form, value, trail, halt, found =>
      match presence header.required header.nullable (Form.nullIsValue form) value with
      | .missing => .raise .required value none trail halt found
      | .skip => .pass found
      | .check =>
          match value with
          | some value => walkForm mode form value trail halt found
          | none => .pass found

/-- Checks a value that passed the gate. -/
def walkForm (mode : UnionMode) : Form Shape → Value → List Segment → Bool →
    Array Finding → Walked
  | .leaf scalar, value, trail, halt, found => walkLeaf scalar value trail halt found
  | .object fields, value, trail, halt, found =>
      match value with
      | .record entries => walkFields mode fields entries trail halt found
      | _ => .raise .notObject (some value) none trail halt found
  | .array item length, value, trail, halt, found =>
      match value with
      | .list items =>
          if length.contains items.length then
            visitEach (walk mode item) trail halt (Value.indexed items) found
          else
            .raise (.length length "items") (some value) (some items.length) trail halt found
      | _ => .raise .notArray (some value) none trail halt found
  | .tuple shapes, value, trail, halt, found =>
      match value with
      | .list items =>
          if items.length = shapes.length then
            walkTuple mode shapes (Value.indexed items) trail halt found
          else
            .raise (.tupleArity shapes.length) (some value) (some items.length) trail halt found
      | _ => .raise .notArray (some value) none trail halt found
  | .record shape keys, value, trail, halt, found =>
      match value with
      | .record entries =>
          if keys.contains entries.length then
            visitEach (walk mode shape) trail halt (Value.keyed entries) found
          else
            .raise (.length keys "keys") (some value) (some entries.length) trail halt found
      | _ => .raise .notObject (some value) none trail halt found
  | .union alternatives, value, trail, halt, found =>
      let (accepted, after) :=
        walkAlternatives mode alternatives value trail (halt || mode == .synthesized) found
      if accepted then .pass (after.shrink found.size)
      else closeUnion mode alternatives.length found.size value trail halt after

/-- Checks the fields of an object in the order of their declaration. -/
def walkFields (mode : UnionMode) : List (String × Shape) → List (String × Value) →
    List Segment → Bool → Array Finding → Walked
  | [], _, _, _, found => .pass found
  | (name, shape) :: rest, entries, trail, halt, found =>
      let walked := walk mode shape (Value.lookup? name entries) (.key name :: trail) halt found
      if walked.halted then walked else walkFields mode rest entries trail halt walked.found

/-- Checks the positions of a tuple. -/
def walkTuple (mode : UnionMode) : List Shape → List (Segment × Value) → List Segment → Bool →
    Array Finding → Walked
  | shape :: rest, (segment, value) :: values, trail, halt, found =>
      let walked := walk mode shape (some value) (segment :: trail) halt found
      if walked.halted then walked else walkTuple mode rest values trail halt walked.found
  | _, _, _, _, found => .pass found

/-- Tries alternatives until one finds nothing, and tells whether one did. -/
def walkAlternatives (mode : UnionMode) : List Shape → Value → List Segment → Bool →
    Array Finding → Bool × Array Finding
  | [], _, _, _, found => (false, found)
  | alternative :: rest, value, trail, halt, found =>
      let walked := walk mode alternative (some value) trail halt found
      if walked.found.size = found.size then (true, walked.found)
      else walkAlternatives mode rest value trail halt walked.found

end

/-- What a tree finds in a value. -/
def Shape.findings (mode : UnionMode) (halt : Bool) (value : Option Value) (shape : Shape) :
    List Finding :=
  (walk mode shape value [] halt #[]).found.toList

/-- The failures of a value under a schema. -/
def Schema.interpret (schema : Schema) (mode : UnionMode) (options : CheckOptions)
    (value : Option Value) : List Failure :=
  (schema.rootShape.findings mode options.earlyFail value).map (·.failure options.path)

end Conformance
