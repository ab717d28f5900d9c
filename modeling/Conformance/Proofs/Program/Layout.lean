import Conformance.Program.Assembly
import Conformance.Proofs.Check.Judgement

namespace Conformance

/-!
# Layout

Assembly does two things at once: it writes the block of a tree and it watches a
budget.  The layout of a tree is the block alone, together with the tables it
leaves.  It exists for every tree, and no budget occurs in it.

Assembly answers the layout if the layout ends within the budget and is refused
otherwise.  The positions that it reserves one by one come to nothing else, since
every block fills the positions from its start without a gap.
-/

namespace Tables

/-- The index of a template and the tables that list it. -/
def withTemplate (tables : Tables) (entry : Template) : Nat × Tables :=
  let (index, templates) := intern tables.templates entry
  (index, { tables with templates := templates })

/-- The index of a string and the tables that list it. -/
def withString (tables : Tables) (entry : String) : Nat × Tables :=
  let (index, strings) := intern tables.strings entry
  (index, { tables with strings := strings })

/-- The index of a pattern and the tables that list it. -/
def withPattern (tables : Tables) (entry : Pattern) : Nat × Tables :=
  (tables.patterns.size, { tables with patterns := tables.patterns.push entry })

/-- The tables with one more slot. -/
def withSlot (tables : Tables) : Tables := { tables with slots := tables.slots + 1 }

/-- The tables with one more cursor. -/
def withCursor (tables : Tables) : Tables := { tables with cursors := tables.cursors + 1 }

@[simp] theorem withCursor_slots (tables : Tables) : tables.withCursor.slots = tables.slots := rfl

end Tables

namespace Layout

/-- The bounds of a count with their template, if they bind. -/
def count (bounds : LengthBounds) (unit : String) (tables : Tables) :
    Option (LengthBounds × Nat) × Tables :=
  if bounds.isUnbounded then (none, tables)
  else
    let (index, tables) := tables.withTemplate (.length bounds unit)
    (some (bounds, index), tables)

/-- The template of the bounds of a leaf, if they take part. -/
def constraint (scalar : Leaf) (tables : Tables) : Option Nat × Tables :=
  match scalar.template? .constraint with
  | some entry =>
      if scalar.countsWith .binding then
        let (index, tables) := tables.withTemplate entry
        (some index, tables)
      else (none, tables)
  | none => (none, tables)

/-- The test of a leaf. -/
def leafTest (scalar : Leaf) (tables : Tables) : Option LeafTest × Tables :=
  match scalar with
  | .string length => (some (.string length), tables)
  | .integer range => (some (.integer range), tables)
  | .real range => (some (.real range), tables)
  | .boolean => (some .boolean, tables)
  | .null => (some .null, tables)
  | .undefined => (some .undefined, tables)
  | .date => (some .date, tables)
  | .timestamp format => (some (.timestamp format), tables)
  | .exact expected =>
      let (index, tables) := tables.withString expected
      (some (.exact index), tables)
  | .pattern expected =>
      let (index, tables) := tables.withPattern expected
      (some (.pattern index), tables)
  | .buffer length => (some (.buffer length), tables)
  | .unknown => (none, tables)

/-- The block of a leaf. -/
def leaf (slot : Nat) (scalar : Leaf) (tables : Tables) : List Op × Tables :=
  match scalar.template? .wrongType with
  | none => ([], tables)
  | some entry =>
      let (wrongType, tables) := tables.withTemplate entry
      let (constraint, tables) := constraint scalar tables
      match leafTest scalar tables with
      | (none, tables) => ([], tables)
      | (some test, tables) => ([.test slot test wrongType constraint], tables)

mutual

/-- The block of a node. -/
def node (mode : UnionMode) : Shape → Nat → Nat → Tables → List Op × Tables
  | .node header shapes, start, slot, tables =>
      let (missing, tables) := tables.withTemplate .required
      let (block, tables) := form mode shapes (start + 1) slot tables
      (.gate slot header.required header.nullable (Form.nullIsValue shapes) missing
        (start + 1 + block.length) :: block, tables)

/-- The operations of a node behind its gate. -/
def form (mode : UnionMode) : Form Shape → Nat → Nat → Tables → List Op × Tables
  | .leaf scalar, _, slot, tables => leaf slot scalar tables
  | .object shapes, start, slot, tables =>
      let (notObject, tables) := tables.withTemplate .notObject
      let (block, tables) := fields mode shapes (start + 1) slot tables
      (.object slot notObject (start + 1 + block.length) :: block, tables)
  | .array item length, start, slot, tables =>
      let (notArray, tables) := tables.withTemplate .notArray
      let (length, tables) := count length "items" tables
      let (block, after) :=
        node mode item (start + 3) tables.slots tables.withCursor.withSlot
      (.array slot notArray length (start + 4 + block.length) :: .items slot tables.cursors ::
        .next slot tables.cursors tables.slots (start + 4 + block.length) ::
        block ++ [.jump (start + 2)], after)
  | .tuple shapes, start, slot, tables =>
      let (notArray, tables) := tables.withTemplate .notArray
      let (wrongLength, tables) := tables.withTemplate (.tupleArity shapes.length)
      let (block, tables) := positions mode shapes 0 (start + 1) slot tables
      (.tuple slot notArray shapes.length wrongLength (start + 1 + block.length) :: block, tables)
  | .record value keys, start, slot, tables =>
      let (notObject, tables) := tables.withTemplate .notObject
      let (keys, tables) := count keys "keys" tables
      let (block, after) :=
        node mode value (start + 3) tables.slots tables.withCursor.withSlot
      (.record slot notObject keys (start + 4 + block.length) :: .entries slot tables.cursors ::
        .next slot tables.cursors tables.slots (start + 4 + block.length) ::
        block ++ [.jump (start + 2)], after)
  | .union shapes, start, slot, tables =>
      let (mismatch, tables) := tables.withTemplate (.unionMismatch shapes.length)
      let (blocks, tables) := alternatives mode shapes (start + 1) slot tables
      (.openUnion (mode == .synthesized) ::
        Assembler.layAlternatives (start + 1 + Assembler.sizeAlternatives blocks + 1) (start + 1)
          blocks ++ [.closeUnion slot mismatch], tables)

/-- The fields of an object. -/
def fields (mode : UnionMode) :
    List (String × Shape) → Nat → Nat → Tables → List Op × Tables
  | [], _, _, tables => ([], tables)
  | (key, shape) :: rest, start, source, tables =>
      let target := tables.slots
      let (name, tables) := tables.withSlot.withString key
      let (block, tables) := node mode shape (start + 1) target tables
      let (others, tables) := fields mode rest (start + 1 + block.length) source tables
      (.field source target name :: block ++ others, tables)

/-- The positions of a tuple, the first of them numbered. -/
def positions (mode : UnionMode) :
    List Shape → Nat → Nat → Nat → Tables → List Op × Tables
  | [], _, _, _, tables => ([], tables)
  | shape :: rest, position, start, source, tables =>
      let (block, after) := node mode shape (start + 1) tables.slots tables.withSlot
      let (others, after) := positions mode rest (position + 1) (start + 1 + block.length) source after
      (.element source tables.slots position :: block ++ others, after)

/-- The blocks of the alternatives of a union. -/
def alternatives (mode : UnionMode) :
    List Shape → Nat → Nat → Tables → List (List Op) × Tables
  | [], _, _, tables => ([], tables)
  | shape :: rest, start, slot, tables =>
      let (block, tables) := node mode shape (start + 1) slot tables
      let (blocks, tables) := alternatives mode rest (start + 2 + block.length) slot tables
      (block :: blocks, tables)

end

end Layout

theorem Assembler.layAlternatives_length (done : Nat) (blocks : List (List Op)) : ∀ start : Nat,
    (layAlternatives done start blocks).length = sizeAlternatives blocks := by
  induction blocks with
  | nil =>
      intro start
      rfl
  | cons block rest inductionHypothesis =>
      intro start
      simp only [layAlternatives, sizeAlternatives, List.length_append, List.length_cons,
        inductionHypothesis]
      omega

end Conformance
