import Conformance.Value

namespace Conformance
namespace Json

/-!
# JSON trees

A tree is data as it is written: the entries of a map stay in their order and
keys may repeat.  Making a value of a tree sorts the entries and keeps the last
of those with one key.
-/

/-- A JSON tree. -/
inductive Tree where
  | null
  | boolean (value : Bool)
  | number (value : Number)
  | text (value : String)
  | list (items : List Tree)
  | map (entries : List (String × Tree))
deriving Repr

namespace Tree

mutual

/-- The tree of a value. -/
def ofValue : Value → Tree
  | .null => .null
  | .boolean value => .boolean value
  | .number value => .number value
  | .text value => .text value
  | .list items => .list (ofValues items)
  | .record entries => .map (ofEntries entries)

/-- The trees of a list of values. -/
def ofValues : List Value → List Tree
  | [] => []
  | value :: rest => ofValue value :: ofValues rest

/-- The trees of the entries of a record. -/
def ofEntries : List (String × Value) → List (String × Tree)
  | [] => []
  | (key, value) :: rest => (key, ofValue value) :: ofEntries rest

end

mutual

/-- The value that a tree spells. -/
def toValue : Tree → Value
  | .null => .null
  | .boolean value => .boolean value
  | .number value => .number value
  | .text value => .text value
  | .list items => .list (toValues items)
  | .map entries => .record (Value.sortEntries (toEntries entries))

/-- The values of a list of trees. -/
def toValues : List Tree → List Value
  | [] => []
  | tree :: rest => toValue tree :: toValues rest

/-- The entries of a map, in the order of writing. -/
def toEntries : List (String × Tree) → List (String × Value)
  | [] => []
  | (key, tree) :: rest => (key, toValue tree) :: toEntries rest

end

end Tree
end Json
end Conformance
