namespace Conformance
namespace Text

/-!
# Sets and maps of code points

A property of characters is a table of ranges.  The tables are written as texts,
because a text of ten thousand characters is read faster than a list of two
thousand pairs: ranges are separated by blanks or breaks, `41-5a` is a range of
hexadecimal code points with both ends, and `aa` a range of one.  A map is
written in the same way, `df:53+53` for a code point and its images.
-/

/-- A set of code points, as disjoint ranges in increasing order.  Both ends of
a range belong to it. -/
structure Ranges where
  bounds : Array (Nat × Nat)

/-- The value of a lowercase hexadecimal digit. -/
def hexValue (c : Char) : Nat :=
  if c.toNat < 58 then c.toNat - 48 else c.toNat - 87

/-- The reader of a table: finished entries, the finished numbers of the entry in
progress, newest first, and the number in progress. -/
structure TableReader where
  entries : Array (List Nat)
  numbers : List Nat
  current : Option Nat

/-- Reads one character of a table.  Every mark between numbers ends the one in
progress, and blanks end the entry too. -/
def TableReader.step (reader : TableReader) (c : Char) : TableReader :=
  match reader.current with
  | none =>
      if c = ' ' || c = '\n' then reader else { reader with current := some (hexValue c) }
  | some number =>
      if c = ' ' || c = '\n' then
        ⟨reader.entries.push (number :: reader.numbers).reverse, [], none⟩
      else if c = '-' || c = ':' || c = '+' then
        ⟨reader.entries, number :: reader.numbers, none⟩
      else { reader with current := some (16 * number + hexValue c) }

/-- The entries of a table. -/
def readTable (table : String) : Array (List Nat) :=
  (table.toList.foldl TableReader.step ⟨#[], [], none⟩ |>.step ' ').entries

/-- The set that a table describes. -/
def Ranges.ofTable (table : String) : Ranges :=
  ⟨(readTable table).map fun
    | [first] => (first, first)
    | first :: last :: _ => (first, last)
    | [] => (0, 0)⟩

/-- Searches the ranges from `low` up to `high`, the latter left out. -/
def Ranges.search (ranges : Ranges) (code low high : Nat) : Bool :=
  if low < high then
    let middle := (low + high) / 2
    match ranges.bounds[middle]? with
    | none => false
    | some (first, last) =>
        if code < first then ranges.search code low middle
        else if last < code then ranges.search code (middle + 1) high
        else true
  else false
termination_by high - low

/-- Whether a code point belongs to the set. -/
def Ranges.contains (ranges : Ranges) (code : Nat) : Bool :=
  ranges.search code 0 ranges.bounds.size

/-- A map from code points to lists of code points, in increasing order. -/
structure CodeMap where
  entries : Array (Nat × List Nat)

/-- The map that a table describes. -/
def CodeMap.ofTable (table : String) : CodeMap :=
  ⟨(readTable table).map fun
    | code :: images => (code, images)
    | [] => (0, [])⟩

/-- Searches the entries from `low` up to `high`, the latter left out. -/
def CodeMap.search (map : CodeMap) (code low high : Nat) : Option (List Nat) :=
  if low < high then
    let middle := (low + high) / 2
    match map.entries[middle]? with
    | none => none
    | some (key, images) =>
        if code < key then map.search code low middle
        else if key < code then map.search code (middle + 1) high
        else some images
  else none
termination_by high - low

/-- The images of a code point, if the map moves it. -/
def CodeMap.find? (map : CodeMap) (code : Nat) : Option (List Nat) :=
  map.search code 0 map.entries.size

end Text
end Conformance
