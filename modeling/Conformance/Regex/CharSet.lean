import Conformance.Regex.Folding

namespace Conformance
namespace Regex

/-!
# Sets of characters

The classes of a pattern are sets of code points, kept as disjoint ranges in
increasing order.  Every operation ends by putting ranges in order and joining
those that overlap or touch, so a set has one form.
-/

/-- A set of characters. -/
abbrev CharSet := Text.Ranges

namespace CharSet

/-- The largest code point. -/
def lastCode : Nat := 0x10FFFF

/-- Joins ranges, given in the order of their first ends, that overlap or touch.
The range in progress is `first` to `last`. -/
def joinRanges (first last : Nat) : List (Nat × Nat) → List (Nat × Nat)
  | [] => [(first, last)]
  | (low, high) :: rest =>
      if low ≤ last + 1 then joinRanges first (max last high) rest
      else (first, last) :: joinRanges low high rest

/-- The set that a list of ranges covers. -/
def ofRanges (ranges : List (Nat × Nat)) : CharSet :=
  match ranges.mergeSort (fun left right => left.1 ≤ right.1) with
  | [] => ⟨#[]⟩
  | (first, last) :: rest => ⟨(joinRanges first last rest).toArray⟩

/-- The ranges of a set. -/
def ranges (set : CharSet) : List (Nat × Nat) := set.bounds.toList

/-- The set of one character. -/
def single (c : Char) : CharSet := ⟨#[(c.toNat, c.toNat)]⟩

/-- The set of the characters between two, both included. -/
def between (first last : Char) : CharSet := ⟨#[(first.toNat, last.toNat)]⟩

/-- All characters in one of two sets. -/
def union (left right : CharSet) : CharSet := ofRanges (ranges left ++ ranges right)

/-- The gaps between ranges, from `next` on. -/
def gaps (next : Nat) : List (Nat × Nat) → List (Nat × Nat)
  | [] => if next ≤ lastCode then [(next, lastCode)] else []
  | (first, last) :: rest =>
      if next < first then (next, first - 1) :: gaps (last + 1) rest else gaps (last + 1) rest

/-- All characters outside a set. -/
def complement (set : CharSet) : CharSet := ⟨(gaps 0 (ranges set)).toArray⟩

/-- All characters in both sets. -/
def intersection (left right : CharSet) : CharSet :=
  complement (union (complement left) (complement right))

/-- All characters in the first set and not in the second. -/
def difference (left right : CharSet) : CharSet :=
  intersection left (complement right)

/-- All characters in exactly one of two sets. -/
def symmetricDifference (left right : CharSet) : CharSet :=
  union (difference left right) (difference right left)

/-- A set together with the case partners of its characters. -/
def foldCase (set : CharSet) : CharSet :=
  let partners := folding.entries.toList.flatMap fun (code, images) =>
    if set.contains code then images.map fun image => (image, image) else []
  if partners.isEmpty then set else ofRanges (ranges set ++ partners)

/-- A set together with the case partners that its ASCII letters have within
ASCII. -/
def foldAsciiCase (set : CharSet) : CharSet :=
  let partners := (List.range 26).flatMap fun letter =>
    let upper := 65 + letter
    let lower := 97 + letter
    if set.contains upper || set.contains lower then [(upper, upper), (lower, lower)] else []
  ofRanges (ranges set ++ partners)

/-- Whether a set has ASCII characters only. -/
def isAscii (set : CharSet) : Bool :=
  (ranges set).all fun (_, last) => last < 128

end CharSet
end Regex
end Conformance
