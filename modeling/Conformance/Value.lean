import Conformance.Number.Basic

namespace Conformance

/-!
# Data values

A value is what a schema judges.  Records keep their entries sorted by key, in
the order of code points, with every key once; walks over a record and its
printed form follow that order.  `Value.sortEntries` establishes it when a value
is made from written data, where keys may repeat in any order.
-/

/-- A data value. -/
inductive Value where
  | null
  | boolean (value : Bool)
  | number (value : Number)
  | text (value : String)
  | list (items : List Value)
  | record (entries : List (String × Value))
deriving Repr

namespace Value

mutual

/-- Equality of values; numbers are compared as numbers. -/
def same : Value → Value → Bool
  | .null, .null => true
  | .boolean left, .boolean right => left == right
  | .number left, .number right => left == right
  | .text left, .text right => left == right
  | .list left, .list right => sameItems left right
  | .record left, .record right => sameEntries left right
  | _, _ => false

/-- Equality of lists of values, position by position. -/
def sameItems : List Value → List Value → Bool
  | [], [] => true
  | left :: lefts, right :: rights => same left right && sameItems lefts rights
  | _, _ => false

/-- Equality of lists of entries, position by position. -/
def sameEntries : List (String × Value) → List (String × Value) → Bool
  | [], [] => true
  | (key, left) :: lefts, (key', right) :: rights =>
      key == key' && same left right && sameEntries lefts rights
  | _, _ => false

end

instance : BEq Value := ⟨same⟩

mutual

/-- The count of values inside a value, itself included. -/
def size : Value → Nat
  | .list items => 1 + sizeItems items
  | .record entries => 1 + sizeEntries entries
  | _ => 1

/-- The count of values inside the items of a list. -/
def sizeItems : List Value → Nat
  | [] => 0
  | item :: rest => size item + sizeItems rest

/-- The count of values inside the entries of a record. -/
def sizeEntries : List (String × Value) → Nat
  | [] => 0
  | (_, value) :: rest => size value + sizeEntries rest

end

/-- The value under a key. -/
def lookup? (key : String) : List (String × Value) → Option Value
  | [] => none
  | (name, value) :: rest => if name = key then some value else lookup? key rest

/-- Puts a value under a key of a sorted list of entries, in place of the value
that the key had. -/
def insertEntry (key : String) (value : Value) :
    List (String × Value) → List (String × Value)
  | [] => [(key, value)]
  | (name, old) :: rest =>
      if key = name then (key, value) :: rest
      else if key < name then (key, value) :: (name, old) :: rest
      else (name, old) :: insertEntry key value rest

/-- Sorts entries by key; of entries with one key the last one stays. -/
def sortEntries (entries : List (String × Value)) : List (String × Value) :=
  entries.foldl (fun sorted (key, value) => insertEntry key value sorted) []

/-- Whether a value is null. -/
def isNull : Value → Bool
  | .null => true
  | _ => false

/-- The text that a value is. -/
def text? : Value → Option String
  | .text value => some value
  | _ => none

end Value
end Conformance
