import Conformance.Check.Walk
import Conformance.Program.Operation

namespace Conformance

/-!
# Assembly

A program is assembled from the tree of a schema in one walk.  The block of a
node is a list of operations whose positions in the program are known from its
start, so jump targets follow from the lengths of the blocks that are jumped
over.  Every block reads its value from one slot; fields, tuple positions and
loop elements get a slot of their own, while the alternatives of a union share
the slot of the union.

No operation is placed at or beyond the budget.  Positions are reserved before
anything behind them is assembled, so a tree that is far too large is refused
early.
-/

/-- A program would need more operations than it may have. -/
structure TooLarge where
  limit : Nat
deriving DecidableEq, Repr

/-- The text of the refusal. -/
def TooLarge.message (refusal : TooLarge) : String :=
  "Compiled routine would exceed " ++ toString refusal.limit ++ " operations"

/-- The tables and counters of a program in the making. -/
structure Tables where
  templates : Array Template
  strings : Array String
  patterns : Array Pattern
  slots : Nat
  cursors : Nat

/-- The tables before assembly.  Slot 0 holds the value that is checked. -/
def Tables.initial : Tables := ⟨#[], #[], #[], 1, 0⟩

/-- The index of an entry of a table.  An entry that is new is added. -/
def intern {Entry : Type} [BEq Entry] (table : Array Entry) (entry : Entry) :
    Nat × Array Entry :=
  match table.idxOf? entry with
  | some index => (index, table)
  | none => (table.size, table.push entry)

/-- A step of assembly. -/
abbrev Assembler : Type → Type := StateT Tables (Except TooLarge)

namespace Assembler

/-- The index of a template. -/
def template (entry : Template) : Assembler Nat := do
  let tables ← get
  let (index, templates) := intern tables.templates entry
  set { tables with templates := templates }
  return index

/-- The index of a string. -/
def string (entry : String) : Assembler Nat := do
  let tables ← get
  let (index, strings) := intern tables.strings entry
  set { tables with strings := strings }
  return index

/-- The index of a pattern.  Every use of a pattern has an index of its own. -/
def pattern (entry : Pattern) : Assembler Nat := do
  let tables ← get
  set { tables with patterns := tables.patterns.push entry }
  return tables.patterns.size

/-- A new slot. -/
def slot : Assembler Nat := do
  let tables ← get
  set { tables with slots := tables.slots + 1 }
  return tables.slots

/-- A new cursor. -/
def cursor : Assembler Nat := do
  let tables ← get
  set { tables with cursors := tables.cursors + 1 }
  return tables.cursors

/-- Reserves a position. -/
def reserve (budget position : Nat) : Assembler Unit :=
  if position < budget then pure () else throw ⟨budget⟩

/-- The bounds of a count with their template.  Bounds that bind nothing are
dropped. -/
def count (bounds : LengthBounds) (unit : String) : Assembler (Option (LengthBounds × Nat)) :=
  if bounds.isUnbounded then return none
  else return some (bounds, ← template (.length bounds unit))

/-- The template of the bounds of a leaf.  Lengths that are not bounded need
none. -/
def constraint (scalar : Leaf) : Assembler (Option Nat) :=
  let bounded :=
    match scalar with
    | .string length | .buffer length => !length.isUnbounded
    | _ => true
  match scalar.template? .constraint with
  | some entry => if bounded then return some (← template entry) else return none
  | none => return none

/-- The test of a leaf.  The unknown leaf needs none. -/
def leafTest : Leaf → Assembler (Option LeafTest)
  | .string length => return some (.string length)
  | .integer range => return some (.integer range)
  | .real range => return some (.real range)
  | .boolean => return some .boolean
  | .null => return some .null
  | .undefined => return some .undefined
  | .date => return some .date
  | .timestamp format => return some (.timestamp format)
  | .exact expected => return some (.exact (← string expected))
  | .pattern expected => return some (.pattern (← pattern expected))
  | .buffer length => return some (.buffer length)
  | .unknown => return none

/-- The operation of a leaf. -/
def leaf (budget start slot : Nat) (scalar : Leaf) : Assembler (List Op) := do
  match scalar.template? .wrongType with
  | none => return []
  | some entry =>
      let wrongType ← template entry
      let constraint ← constraint scalar
      match ← leafTest scalar with
      | none => return []
      | some test =>
          reserve budget start
          return [.test slot test wrongType constraint]

/-- The alternatives of a union one after another, each between its opening and
its closing operation. -/
def layAlternatives (done start : Nat) : List (List Op) → List Op
  | [] => []
  | block :: rest =>
      let closing := start + 1 + block.length
      .openAlternative closing :: block ++
        .closeAlternative done :: layAlternatives done (closing + 1) rest

/-- The count of operations that the alternatives of a union take. -/
def sizeAlternatives : List (List Op) → Nat
  | [] => 0
  | block :: rest => block.length + 2 + sizeAlternatives rest

mutual

/-- The block of a node. -/
def node (mode : UnionMode) (budget : Nat) : Shape → Nat → Nat → Assembler (List Op)
  | .node header form, start, slot => do
      let missing ← template .required
      reserve budget start
      let block ← body mode budget form (start + 1) slot
      return .gate slot header.required header.nullable (Form.nullIsValue form) missing
        (start + 1 + block.length) :: block

/-- The operations of a node behind its gate. -/
def body (mode : UnionMode) (budget : Nat) : Form Shape → Nat → Nat → Assembler (List Op)
  | .leaf scalar, start, slot => leaf budget start slot scalar
  | .object shapes, start, slot => do
      let notObject ← template .notObject
      reserve budget start
      let block ← fields mode budget shapes (start + 1) slot
      return .object slot notObject (start + 1 + block.length) :: block
  | .array item length, start, slot => do
      let notArray ← template .notArray
      let length ← count length "items"
      reserve budget start
      let cursor ← cursor
      reserve budget (start + 1)
      let target ← Assembler.slot
      reserve budget (start + 2)
      let block ← node mode budget item (start + 3) target
      let done := start + 4 + block.length
      reserve budget (start + 3 + block.length)
      return .array slot notArray length done :: .items slot cursor ::
        .next slot cursor target done :: block ++ [.jump (start + 2)]
  | .tuple shapes, start, slot => do
      let notArray ← template .notArray
      let wrongLength ← template (.tupleArity shapes.length)
      reserve budget start
      let block ← positions mode budget shapes 0 (start + 1) slot
      return .tuple slot notArray shapes.length wrongLength (start + 1 + block.length) :: block
  | .record value keys, start, slot => do
      let notObject ← template .notObject
      let keys ← count keys "keys"
      reserve budget start
      let cursor ← cursor
      reserve budget (start + 1)
      let target ← Assembler.slot
      reserve budget (start + 2)
      let block ← node mode budget value (start + 3) target
      let done := start + 4 + block.length
      reserve budget (start + 3 + block.length)
      return .record slot notObject keys done :: .entries slot cursor ::
        .next slot cursor target done :: block ++ [.jump (start + 2)]
  | .union shapes, start, slot => do
      let mismatch ← template (.unionMismatch shapes.length)
      reserve budget start
      let blocks ← alternatives mode budget shapes (start + 1) slot
      let closing := start + 1 + sizeAlternatives blocks
      reserve budget closing
      return .openUnion (mode == .synthesized) ::
        layAlternatives (closing + 1) (start + 1) blocks ++ [.closeUnion slot mismatch]

/-- The fields of an object. -/
def fields (mode : UnionMode) (budget : Nat) :
    List (String × Shape) → Nat → Nat → Assembler (List Op)
  | [], _, _ => return []
  | (key, shape) :: rest, start, source => do
      let target ← Assembler.slot
      let name ← string key
      reserve budget start
      let block ← node mode budget shape (start + 1) target
      let others ← fields mode budget rest (start + 1 + block.length) source
      return .field source target name :: block ++ others

/-- The positions of a tuple, the first of them numbered. -/
def positions (mode : UnionMode) (budget : Nat) :
    List Shape → Nat → Nat → Nat → Assembler (List Op)
  | [], _, _, _ => return []
  | shape :: rest, position, start, source => do
      let target ← Assembler.slot
      reserve budget start
      let block ← node mode budget shape (start + 1) target
      let others ← positions mode budget rest (position + 1) (start + 1 + block.length) source
      return .element source target position :: block ++ others

/-- The blocks of the alternatives of a union. -/
def alternatives (mode : UnionMode) (budget : Nat) :
    List Shape → Nat → Nat → Assembler (List (List Op))
  | [], _, _ => return []
  | shape :: rest, start, slot => do
      reserve budget start
      let block ← node mode budget shape (start + 1) slot
      reserve budget (start + 1 + block.length)
      let others ← alternatives mode budget rest (start + 2 + block.length) slot
      return block :: others

end

end Assembler

/-- The program of a schema, with at most `budget` operations. -/
def Schema.assemble (schema : Schema) (mode : UnionMode) (budget : Nat) :
    Except TooLarge Program := do
  let (ops, tables) ← (Assembler.node mode budget schema.rootShape 0 0).run .initial
  return ⟨ops.toArray, tables.templates, tables.strings, tables.patterns,
    tables.slots, tables.cursors⟩

end Conformance
