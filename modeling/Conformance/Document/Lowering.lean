import Conformance.Document.Basic
import Conformance.Schema.Arena

namespace Conformance

/-!
# Schemas of documents

A document becomes a schema by adding its nodes to an arena, every node after its
children.  A malformed pattern is found on the way and ends it; all other errors
are found when the arena is finished.
-/

namespace Document

/-- Adds a node with its marks. -/
def addNode (marks : Marks) (form : Form NodeId) : StateT Arena (Except SchemaError) NodeId := do
  let node : Node :=
    ⟨form, Node.defaultRequired form && !marks.optional, marks.nullable, marks.name,
      marks.rename⟩
  let (arena, id) := (← get).push node
  set arena
  return id

mutual

/-- Adds the nodes of a document and answers the number of the outermost. -/
def lower : Document → StateT Arena (Except SchemaError) NodeId
  | .node marks description => do addNode marks (← lowerDescription description)

/-- Adds the children of a node and answers its form. -/
def lowerDescription : Description Document → StateT Arena (Except SchemaError) (Form NodeId)
  | .string min max => return .leaf (.string (.ofOptions min max))
  | .integer min max => return .leaf (.integer (.ofOptions min max))
  | .float min max => return .leaf (.real (.ofOptions min max))
  | .boolean => return .leaf .boolean
  | .null => return .leaf .null
  | .undefined => return .leaf .undefined
  | .date => return .leaf .date
  | .dateTime format => return .leaf (.timestamp format)
  | .exact value => return .leaf (.exact value)
  | .regex source =>
      match Pattern.ofSource? source with
      | some pattern => return .leaf (.pattern pattern)
      | none => throw (.invalidPattern source)
  | .unknown => return .leaf .unknown
  | .buffer min max => return .leaf (.buffer (.ofOptions min max))
  | .object fields => return .object (← lowerFields fields)
  | .array items min max => return .array (← lower items) (.ofOptions min max)
  | .tuple items => return .tuple (← lowerItems items)
  | .record values min max => return .record (← lower values) (.ofOptions min max)
  | .union anyOf => return .union (← lowerItems anyOf)

/-- Adds the fields of an object one after another. -/
def lowerFields : List (String × Document) →
    StateT Arena (Except SchemaError) (List (String × NodeId))
  | [] => return []
  | (name, child) :: rest => do
      let id ← lower child
      return (name, id) :: (← lowerFields rest)

/-- Adds a list of documents one after another. -/
def lowerItems : List Document → StateT Arena (Except SchemaError) (List NodeId)
  | [] => return []
  | child :: rest => do
      let id ← lower child
      return id :: (← lowerItems rest)

end

/-- The schema of a document. -/
def toSchema (document : Document) : Except SchemaError Schema := do
  let (root, arena) ← (lower document).run .empty
  arena.finish root

end Document
end Conformance
