import Conformance.Text.Ranges
import Mathlib.Data.List.Basic

namespace Conformance
namespace Text

/-!
# What tables of code points say

A table is read character by character, and searched by halving.  The search of a set finds
nothing but what is in one of its ranges, and all of that if the ranges are in increasing order.
The same holds of maps.

Whether the ranges of a table are in order is a computation on its text, and so is whether they
cover other code points.  Both go through the ranges once, from the first to the last.
-/

/-! ## Reading a table -/

/-- The entries of the rest of a table, behind the beginning of one entry. -/
def entriesFrom (numbers : List Nat) (current : Option Nat) : List Char → List (List Nat)
  | [] =>
      match current with
      | none => []
      | some number => [(number :: numbers).reverse]
  | c :: rest =>
      match current with
      | none =>
          if c = ' ' || c = '\n' then entriesFrom numbers none rest
          else entriesFrom numbers (some (hexValue c)) rest
      | some number =>
          if c = ' ' || c = '\n' then (number :: numbers).reverse :: entriesFrom [] none rest
          else if c = '-' || c = ':' || c = '+' then entriesFrom (number :: numbers) none rest
          else entriesFrom numbers (some (16 * number + hexValue c)) rest

theorem foldl_step (characters : List Char) (reader : TableReader) :
    ((characters.foldl TableReader.step reader).step ' ').entries.toList =
      reader.entries.toList ++ entriesFrom reader.numbers reader.current characters := by
  induction characters generalizing reader with
  | nil =>
      rcases reader with ⟨entries, numbers, current⟩
      cases current <;> simp [TableReader.step, entriesFrom]
  | cons c rest inductionHypothesis =>
      rcases reader with ⟨entries, numbers, current⟩
      rw [List.foldl_cons, inductionHypothesis]
      cases current with
      | none =>
          simp only [TableReader.step, entriesFrom]
          split <;> rfl
      | some number =>
          simp only [TableReader.step, entriesFrom]
          split
          case isTrue => simp
          case isFalse => split <;> rfl

theorem readTable_ofList (characters : List Char) :
    (readTable (String.ofList characters)).toList = entriesFrom [] none characters := by
  rw [readTable, String.toList_ofList, foldl_step]
  rfl

/-- The range that an entry of a set stands for. -/
def rangeOf : List Nat → Nat × Nat
  | [first] => (first, first)
  | first :: last :: _ => (first, last)
  | [] => (0, 0)

/-- The code point and its images that an entry of a map stands for. -/
def imagesOf : List Nat → Nat × List Nat
  | code :: images => (code, images)
  | [] => (0, [])

theorem Ranges.ofTable_ofList (characters : List Char) :
    (Ranges.ofTable (String.ofList characters)).bounds.toList =
      (entriesFrom [] none characters).map rangeOf := by
  rw [Ranges.ofTable, Array.toList_map, readTable_ofList]
  refine List.map_congr_left fun entry _ => ?_
  match entry with
  | [] | [_] | _ :: _ :: _ => rfl

theorem CodeMap.ofTable_ofList (characters : List Char) :
    (CodeMap.ofTable (String.ofList characters)).entries.toList =
      (entriesFrom [] none characters).map imagesOf := by
  rw [CodeMap.ofTable, Array.toList_map, readTable_ofList]
  refine List.map_congr_left fun entry _ => ?_
  match entry with
  | [] | _ :: _ => rfl

/-- Where a list is in order, so are the items at two positions of it. -/
theorem pairwise_getElem? {Item : Type} {order : Item → Item → Prop} {items : Array Item}
    (ordered : items.toList.Pairwise order) {first second : Nat} {left right : Item}
    (before : first < second) (here : items[first]? = some left)
    (there : items[second]? = some right) : order left right := by
  rw [← Array.getElem?_toList] at here there
  rcases List.getElem?_eq_some_iff.mp here with ⟨_, rfl⟩
  rcases List.getElem?_eq_some_iff.mp there with ⟨bound, rfl⟩
  exact List.pairwise_iff_getElem.mp ordered first second _ bound before

/-! ## Searching a set -/

namespace Ranges

variable {ranges : Ranges} {code low high : Nat}

/-- A code point is in one of the ranges. -/
def Lists (ranges : Ranges) (code : Nat) : Prop :=
  ∃ range ∈ ranges.bounds.toList, range.1 ≤ code ∧ code ≤ range.2

/-- The ranges are disjoint and in increasing order. -/
def IsOrdered (ranges : Ranges) : Prop :=
  ranges.bounds.toList.Pairwise fun left right => left.1 ≤ left.2 ∧ left.2 < right.1

theorem lists_of_search (found : ranges.search code low high = true) : ranges.Lists code := by
  fun_induction Ranges.search ranges code low high with
  | case1 => cases found
  | case2 low high _ middle first last _ _ inductionHypothesis => exact inductionHypothesis found
  | case3 low high _ middle first last _ _ _ inductionHypothesis => exact inductionHypothesis found
  | case4 low high _ middle first last here notBelow notAbove =>
      rw [← Array.getElem?_toList] at here
      exact ⟨(first, last), List.mem_of_getElem? here, Nat.not_lt.mp notBelow,
        Nat.not_lt.mp notAbove⟩
  | case5 => cases found

theorem search_of_ordered (ordered : ranges.IsOrdered) (bound : high ≤ ranges.bounds.size)
    {index : Nat} {range : Nat × Nat} (lower : low ≤ index) (upper : index < high)
    (listed : ranges.bounds[index]? = some range) (within : range.1 ≤ code ∧ code ≤ range.2) :
    ranges.search code low high = true := by
  fun_induction Ranges.search ranges code low high with
  | case1 low high _ middle nothing =>
      rw [Array.getElem?_eq_none_iff] at nothing
      omega
  | case2 low high _ middle first last here below inductionHypothesis =>
      refine inductionHypothesis (by omega) lower ?_
      rcases Nat.lt_trichotomy index middle with before | rfl | behind
      · exact before
      · cases here.symm.trans listed
        omega
      · have apart := pairwise_getElem? ordered behind here listed
        omega
  | case3 low high _ middle first last here notBelow above inductionHypothesis =>
      refine inductionHypothesis bound ?_ upper
      rcases Nat.lt_trichotomy index middle with before | rfl | behind
      · have apart := pairwise_getElem? ordered before listed here
        omega
      · cases here.symm.trans listed
        omega
      · exact behind
  | case4 => rfl
  | case5 => omega

/-- The search of a set in order finds exactly what is in one of its ranges. -/
theorem contains_iff (ordered : ranges.IsOrdered) :
    ranges.contains code = true ↔ ranges.Lists code := by
  refine ⟨lists_of_search, ?_⟩
  rintro ⟨range, listed, within⟩
  rcases List.getElem?_of_mem listed with ⟨index, here⟩
  rw [Array.getElem?_toList] at here
  exact search_of_ordered ordered (Nat.le_refl _) (Nat.zero_le _)
    (Array.getElem?_eq_some_iff.mp here).1 here within

/-- Whether ranges are in increasing order from a least code point on. -/
def increasing : Nat → List (Nat × Nat) → Bool
  | _, [] => true
  | least, (first, last) :: rest =>
      Nat.ble least first && (Nat.ble first last && increasing (last + 1) rest)

theorem pairwise_of_increasing {least : Nat} {bounds : List (Nat × Nat)}
    (inOrder : increasing least bounds = true) :
    (∀ range ∈ bounds, least ≤ range.1) ∧
      bounds.Pairwise fun left right => left.1 ≤ left.2 ∧ left.2 < right.1 := by
  induction bounds generalizing least with
  | nil => exact ⟨nofun, .nil⟩
  | cons range bounds inductionHypothesis =>
      simp only [increasing, Bool.and_eq_true, Nat.ble_eq] at inOrder
      rcases inOrder with ⟨lower, nonempty, others⟩
      rcases inductionHypothesis others with ⟨above, pairwise⟩
      refine ⟨List.forall_mem_cons.mpr ⟨lower, fun other listed => ?_⟩,
        List.pairwise_cons.mpr ⟨fun other listed => ⟨nonempty, above other listed⟩, pairwise⟩⟩
      have apart := above other listed
      omega

theorem isOrdered_of_increasing {least : Nat}
    (inOrder : increasing least ranges.bounds.toList = true) : ranges.IsOrdered :=
  (pairwise_of_increasing inOrder).2

/-- Whether no range meets the code points from `low` up to `high`. -/
def avoids (bounds : List (Nat × Nat)) (low high : Nat) : Bool :=
  bounds.all fun range => Nat.blt range.2 low || Nat.blt high range.1

theorem not_contains_of_avoids (avoided : avoids ranges.bounds.toList low high = true)
    (lower : low ≤ code) (upper : code ≤ high) : ¬ ranges.contains code = true := by
  intro found
  rcases lists_of_search found with ⟨range, listed, within⟩
  have outside := List.all_eq_true.mp avoided range listed
  rw [Bool.or_eq_true, Nat.blt_eq, Nat.blt_eq] at outside
  omega

/-- Whether ranges cover code points.  The search for a code point goes on where the one for the
previous code point ended, unless the code points go down. -/
def covers (bounds : List (Nat × Nat)) : List (Nat × Nat) → Nat → List Nat → Bool
  | _, _, [] => true
  | rest, previous, code :: codes =>
      match (bif Nat.ble previous code then rest else bounds).dropWhile
        (fun range => Nat.blt range.2 code) with
      | [] => false
      | (first, last) :: others =>
          Nat.ble first code && covers bounds ((first, last) :: others) code codes

theorem lists_of_covers {bounds rest : List (Nat × Nat)} {previous : Nat} {codes : List Nat}
    (part : rest ⊆ bounds) (covered : covers bounds rest previous codes = true) :
    ∀ code ∈ codes, ∃ range ∈ bounds, range.1 ≤ code ∧ code ≤ range.2 := by
  induction codes generalizing rest previous with
  | nil => nofun
  | cons code codes inductionHypothesis =>
      rw [covers] at covered
      have start : (bif Nat.ble previous code then rest else bounds) ⊆ bounds := by
        cases Nat.ble previous code with
        | true => exact part
        | false => exact List.Subset.refl bounds
      generalize (bif Nat.ble previous code then rest else bounds) = candidates at start covered
      split at covered
      case h_1 => cases covered
      case h_2 first last others found =>
        have partToo : (first, last) :: others ⊆ bounds :=
          found ▸ List.Subset.trans (List.dropWhile_sublist _).subset start
        have reached : code ≤ last := by
          have stopped := List.head?_dropWhile_not (fun range => Nat.blt range.2 code) candidates
          rw [found] at stopped
          exact Nat.not_lt.mp (Nat.blt_eq ▸ Bool.eq_false_iff.mp stopped)
        rw [Bool.and_eq_true, Nat.ble_eq] at covered
        exact List.forall_mem_cons.mpr
          ⟨⟨(first, last), partToo List.mem_cons_self, covered.1, reached⟩,
            inductionHypothesis partToo covered.2⟩

end Ranges

/-! ## Searching a map -/

namespace CodeMap

variable {map : CodeMap} {code low high : Nat} {images : List Nat}

/-- The code points of the entries are in increasing order. -/
def IsOrdered (map : CodeMap) : Prop :=
  map.entries.toList.Pairwise fun left right => left.1 < right.1

theorem isOrdered_of_increasing {least : Nat}
    (inOrder : Ranges.increasing least (map.entries.toList.map fun entry => (entry.1, entry.1))) :
    map.IsOrdered :=
  (List.pairwise_map.mp (Ranges.pairwise_of_increasing inOrder).2).imp And.right

theorem mem_of_search (found : map.search code low high = some images) :
    (code, images) ∈ map.entries.toList := by
  fun_induction CodeMap.search map code low high with
  | case1 => cases found
  | case2 low high _ middle key listed _ _ inductionHypothesis => exact inductionHypothesis found
  | case3 low high _ middle key listed _ _ _ inductionHypothesis => exact inductionHypothesis found
  | case4 low high _ middle key listed here notBelow notAbove =>
      cases found
      rw [← Array.getElem?_toList] at here
      rw [Nat.le_antisymm (Nat.not_lt.mp notAbove) (Nat.not_lt.mp notBelow)]
      exact List.mem_of_getElem? here
  | case5 => cases found

theorem search_of_ordered (ordered : map.IsOrdered) (bound : high ≤ map.entries.size)
    {index : Nat} (lower : low ≤ index) (upper : index < high)
    (listed : map.entries[index]? = some (code, images)) :
    map.search code low high = some images := by
  fun_induction CodeMap.search map code low high with
  | case1 low high _ middle nothing =>
      rw [Array.getElem?_eq_none_iff] at nothing
      omega
  | case2 low high _ middle key others here below inductionHypothesis =>
      refine inductionHypothesis (by omega) lower ?_
      rcases Nat.lt_trichotomy index middle with before | rfl | behind
      · exact before
      · cases here.symm.trans listed
        omega
      · have apart := pairwise_getElem? ordered behind here listed
        omega
  | case3 low high _ middle key others here notBelow above inductionHypothesis =>
      refine inductionHypothesis bound ?_ upper
      rcases Nat.lt_trichotomy index middle with before | rfl | behind
      · have apart := pairwise_getElem? ordered before listed here
        omega
      · cases here.symm.trans listed
        omega
      · exact behind
  | case4 low high _ middle key others here notBelow notAbove =>
      rcases Nat.lt_trichotomy index middle with before | rfl | behind
      · have apart := pairwise_getElem? ordered before listed here
        omega
      · cases here.symm.trans listed
        rfl
      · have apart := pairwise_getElem? ordered behind here listed
        omega
  | case5 => omega

/-- In a map in order, every entry is found. -/
theorem find?_of_mem (ordered : map.IsOrdered) (listed : (code, images) ∈ map.entries.toList) :
    map.find? code = some images := by
  rcases List.getElem?_of_mem listed with ⟨index, here⟩
  rw [Array.getElem?_toList] at here
  exact search_of_ordered ordered (Nat.le_refl _) (Nat.zero_le _)
    (Array.getElem?_eq_some_iff.mp here).1 here

end CodeMap

end Text
end Conformance
