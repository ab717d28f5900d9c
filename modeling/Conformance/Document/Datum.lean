import Conformance.Json.Tree

namespace Conformance

/-!
# Data of a document

A document is read from data in one of several notations.  A datum is what they
have in common.  Unlike a value it keeps the entries of a map as they were
written, and its keys may be any data.
-/

/-- A datum. -/
inductive Datum where
  | null
  | boolean (value : Bool)
  | number (value : Number)
  | text (value : String)
  | list (items : List Datum)
  | map (entries : List (Datum × Datum))
deriving Repr

namespace Datum

mutual

/-- The datum of a JSON tree. -/
def ofTree : Json.Tree → Datum
  | .null => .null
  | .boolean value => .boolean value
  | .number value => .number value
  | .text value => .text value
  | .list items => .list (ofTrees items)
  | .map entries => .map (ofEntries entries)

/-- The data of a list of trees. -/
def ofTrees : List Json.Tree → List Datum
  | [] => []
  | tree :: rest => ofTree tree :: ofTrees rest

/-- The data of the entries of a map. -/
def ofEntries : List (String × Json.Tree) → List (Datum × Datum)
  | [] => []
  | (key, tree) :: rest => (.text key, ofTree tree) :: ofEntries rest

end

mutual

/-- How deep the values of a datum are nested. -/
def depth : Datum → Nat
  | .list items => 1 + depthItems items
  | .map entries => 1 + depthEntries entries
  | _ => 0

/-- How deep the deepest item is nested. -/
def depthItems : List Datum → Nat
  | [] => 0
  | item :: rest => max (depth item) (depthItems rest)

/-- How deep the deepest value of an entry is nested. -/
def depthEntries : List (Datum × Datum) → Nat
  | [] => 0
  | (_, value) :: rest => max (depth value) (depthEntries rest)

end

/-- The text that a datum is. -/
def text? : Datum → Option String
  | .text value => some value
  | _ => none

/-- The truth value that a datum is. -/
def boolean? : Datum → Option Bool
  | .boolean value => some value
  | _ => none

/-- The unsigned word that a datum is. -/
def word? : Datum → Option Nat
  | .number value => value.toWord?
  | _ => none

/-- The signed word that a datum is. -/
def signed? : Datum → Option Int
  | .number (.integer value) =>
      if Number.signedMin ≤ value ∧ value ≤ Number.signedMax then some value else none
  | _ => none

/-- The binary64 number nearest to a datum. -/
def real? : Datum → Option Binary64
  | .number value => some value.toBinary64
  | _ => none

/-- The items that a datum has. -/
def list? : Datum → Option (List Datum)
  | .list items => some items
  | _ => none

/-- The entries that a datum has. -/
def map? : Datum → Option (List (Datum × Datum))
  | .map entries => some entries
  | _ => none

end Datum
end Conformance
