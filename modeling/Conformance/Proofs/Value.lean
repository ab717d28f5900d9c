import Conformance.Value
import Mathlib.Data.String.Basic

namespace Conformance

/-!
# Ordered values

The entries of a record are sorted by key and every key occurs once.  The type of
values does not say so, since a list of entries is a list like any other; the
invariant is said here, of a value and everything inside of it.

In an ordered record an entry and the look-up of its key are one and the same.
-/

namespace Value

/-- The keys of some entries are sorted, every key once. -/
def SortedEntries (entries : List (String × Value)) : Prop :=
  (entries.map Prod.fst).Pairwise (· < ·)

/-- Every record in a value is sorted by key, with every key once. -/
inductive Ordered : Value → Prop where
  | null : Ordered .null
  | boolean (truth : Bool) : Ordered (.boolean truth)
  | number (number : Number) : Ordered (.number number)
  | text (text : String) : Ordered (.text text)
  | list (items : List Value) (inside : ∀ item ∈ items, Ordered item) : Ordered (.list items)
  | record (entries : List (String × Value)) (sorted : SortedEntries entries)
      (inside : ∀ entry ∈ entries, Ordered entry.2) : Ordered (.record entries)

/-- The look-up of a key finds the entry with that key. -/
theorem lookup?_of_mem {entries : List (String × Value)} (sorted : SortedEntries entries)
    {key : String} {value : Value} (member : (key, value) ∈ entries) :
    lookup? key entries = some value := by
  induction entries with
  | nil => cases member
  | cons entry rest inductionHypothesis =>
      rcases entry with ⟨name, other⟩
      rcases List.pairwise_cons.mp sorted with ⟨first, later⟩
      rw [lookup?]
      rcases List.mem_cons.mp member with here | there
      · cases here
        rw [if_pos rfl]
      · have before : name < key := first key (List.mem_map_of_mem there)
        rw [if_neg before.ne]
        exact inductionHypothesis later there

end Value
end Conformance
