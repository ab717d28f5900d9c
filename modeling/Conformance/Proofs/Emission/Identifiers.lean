import Conformance.Emission.Nominal
import Mathlib.Data.List.Induction
import Mathlib.Data.List.Nodup

namespace Conformance
namespace Nominal

/-!
# Names with one identifier

The search for two names that become one identifier goes through the names once and remembers
every name under its identifier.  It finds nothing if all identifiers are different.  Otherwise
it stops at the first name whose identifier was there before, together with the one name in front
of it that has the same identifier.
-/

variable {identifier : String → String} {names : List String} {target first second : String}

/-- Where all keys are different, whatever is listed under a key is found under it. -/
theorem lookup_eq_some_iff_mem {Held : Type} {held : Held} {entries : List (String × Held)}
    (distinct : (entries.map Prod.fst).Nodup) :
    entries.lookup target = some held ↔ (target, held) ∈ entries := by
  rw [List.lookup_eq_some_iff]
  constructor
  · rintro ⟨front, rest, rfl, _⟩
    exact List.mem_append_right front List.mem_cons_self
  · intro listed
    rcases List.append_of_mem listed with ⟨front, rest, rfl⟩
    refine ⟨front, rest, rfl, ?_⟩
    intro earlier member
    rw [List.map_append, List.map_cons, List.nodup_append] at distinct
    rw [bne_iff_ne]
    exact (distinct.2.2 _ (List.mem_map_of_mem member) _ List.mem_cons_self).symm

/-- What the search remembers of the names that it went through. -/
def remembered (identifier : String → String) (done : List String) : List (String × String) :=
  (done.map fun name => (identifier name, name)).reverse

theorem remembered_concat (done : List String) (name : String) :
    remembered identifier (done ++ [name]) = (identifier name, name) :: remembered identifier done := by
  rw [remembered, List.map_append, List.reverse_append]
  rfl

theorem lookup_remembered {done : List String} (distinct : (done.map identifier).Nodup) :
    (remembered identifier done).lookup target = some first ↔
      first ∈ done ∧ identifier first = target := by
  rw [lookup_eq_some_iff_mem]
  · simp [remembered, and_comm, eq_comm]
  · rw [remembered, List.map_reverse, List.nodup_reverse, List.map_map]
    exact distinct

/-- The search goes on behind names whose identifiers are all different. -/
private theorem clash?_remembered (done : List String) (distinct : (done.map identifier).Nodup) :
    clash? identifier (remembered identifier done) names = some (target, first, second) ↔
      ∃ front rest, names = front ++ second :: rest ∧ ((done ++ front).map identifier).Nodup ∧
        first ∈ done ++ front ∧ identifier first = target ∧ identifier second = target := by
  induction names generalizing done with
  | nil => simp [clash?]
  | cons name names inductionHypothesis =>
      rw [clash?]
      cases found : (remembered identifier done).lookup (identifier name) with
      | some earlier =>
          rcases (lookup_remembered distinct).mp found with ⟨listed, same⟩
          -- No name behind this one is looked at, because this one clashes.
          constructor
          · intro clashes
            cases clashes
            exact ⟨[], names, rfl, by rwa [List.append_nil], by rwa [List.append_nil], same, rfl⟩
          · rintro ⟨front, rest, split, different, member, firstTarget, secondTarget⟩
            cases front with
            | nil =>
                cases split
                rw [List.append_nil] at member
                have one := (lookup_remembered distinct).mpr ⟨member, firstTarget.trans secondTarget.symm⟩
                rw [Option.some.inj (found.symm.trans one), secondTarget]
            | cons _ front =>
                cases split
                rw [List.map_append, List.map_cons, List.nodup_append] at different
                exact absurd same
                  (different.2.2 _ (List.mem_map_of_mem listed) _ List.mem_cons_self)
      | none =>
          have new : ∀ earlier ∈ done, identifier earlier ≠ identifier name := by
            intro earlier listed same
            cases found.symm.trans ((lookup_remembered distinct).mpr ⟨listed, same⟩)
          have distinctToo : ((done ++ [name]).map identifier).Nodup := by
            rw [List.map_append, List.map_singleton, List.nodup_append]
            refine ⟨distinct, List.nodup_singleton _, ?_⟩
            intro earlier listed other single
            rcases List.mem_map.mp listed with ⟨known, member, rfl⟩
            rw [List.mem_singleton.mp single]
            exact new known member
          have later := inductionHypothesis (done ++ [name]) distinctToo
          rw [remembered_concat] at later
          refine later.trans ?_
          constructor
          · rintro ⟨front, rest, rfl, clash⟩
            rw [List.append_assoc, List.singleton_append] at clash
            exact ⟨name :: front, rest, rfl, clash⟩
          · rintro ⟨front, rest, split, different, member, firstTarget, secondTarget⟩
            cases front with
            | nil =>
                cases split
                rw [List.append_nil] at member
                exact absurd (firstTarget.trans secondTarget.symm) (new first member)
            | cons _ front =>
                cases split
                refine ⟨front, rest, rfl, ?_⟩
                rw [List.append_assoc, List.singleton_append]
                exact ⟨different, member, firstTarget, secondTarget⟩

/-- The search stops at the first name whose identifier was there before. -/
theorem clash?_eq_some_iff :
    clash? identifier [] names = some (target, first, second) ↔
      ∃ front rest, names = front ++ second :: rest ∧ (front.map identifier).Nodup ∧
        first ∈ front ∧ identifier first = target ∧ identifier second = target :=
  clash?_remembered [] List.nodup_nil

end Nominal
end Conformance
