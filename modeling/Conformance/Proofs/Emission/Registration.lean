import Conformance.Emission.Registry
import Mathlib.Data.List.Nodup

namespace Conformance
namespace Registry

/-!
# What a registration does

A registration either adds a declaration under a new name or leaves the registry as it
is.  So declarations are never lost, a name keeps the text it was given first, and no name
is ever listed twice.  In a strict registry a registration that succeeds leaves just its
own text under the name.
-/

variable {before after : Registry} {name text : String} {fresh : Bool}

/-- A registration that succeeds declares a new name or finds the name declared, in a strict
registry with the same text. -/
theorem insert_cases (inserted : before.insert name text = .ok (fresh, after)) :
    (before.get? name = none ∧
      after = { before with definitions := before.definitions ++ [(name, text)] }) ∨
    ∃ existing, before.get? name = some existing ∧ after = before ∧
      (before.mode = .strict → existing = text) := by
  rw [insert] at inserted
  split at inserted
  case h_1 unknown =>
    cases inserted
    exact .inl ⟨unknown, rfl⟩
  case h_2 existing known =>
    split at inserted
    case isTrue => cases inserted
    case isFalse agrees =>
      cases inserted
      refine .inr ⟨existing, known, rfl, ?_⟩
      intro strict
      simpa [strict] using agrees

theorem insert_unknown (unknown : before.get? name = none) (text : String) :
    before.insert name text =
      .ok (true, { before with definitions := before.definitions ++ [(name, text)] }) := by
  rw [insert, unknown]

/-- A name that is declared can be declared again, in a strict registry with its text. -/
theorem insert_known {existing : String} (known : before.get? name = some existing)
    (agrees : before.mode = .strict → existing = text) :
    before.insert name text = .ok (false, before) := by
  rw [insert, known]
  apply if_neg
  rw [Bool.and_eq_true, beq_iff_eq, bne_iff_ne]
  rintro ⟨strict, differs⟩
  exact differs (agrees strict)

/-- What a name stands for after a declaration was added at the end. -/
theorem get?_append (other : String) :
    get? { before with definitions := before.definitions ++ [(name, text)] } other =
      (before.get? other).or (if other = name then some text else none) := by
  have single : List.lookup other [(name, text)] = if other = name then some text else none := by
    by_cases same : other = name
    · rw [same, List.lookup_cons_self, if_pos rfl]
    · rw [List.lookup_cons, beq_eq_false_iff_ne.mpr same, if_neg same, List.lookup_nil]
  rw [get?, List.lookup_append, single]
  rfl

/-! ## Registries that grow -/

/-- A registry that holds what another one holds, under the same mode. -/
structure Extends (earlier later : Registry) : Prop where
  mode_eq : later.mode = earlier.mode
  keeps : ∀ {name text : String}, earlier.get? name = some text → later.get? name = some text

namespace Extends

theorem refl (registry : Registry) : registry.Extends registry := ⟨rfl, id⟩

theorem trans {first second third : Registry} (early : first.Extends second)
    (late : second.Extends third) : first.Extends third :=
  ⟨late.mode_eq.trans early.mode_eq, fun held => late.keeps (early.keeps held)⟩

/-- Names stay declared. -/
theorem contains {earlier later : Registry} (extended : earlier.Extends later)
    (known : earlier.contains name = true) : later.contains name = true := by
  rcases Option.isSome_iff_exists.mp known with ⟨held, declared⟩
  exact Option.isSome_iff_exists.mpr ⟨held, extended.keeps declared⟩

/-- Where emission can stop at a name, it can do so later as well. -/
theorem resolves {earlier later : Registry} (extended : earlier.Extends later)
    (resolved : earlier.resolves name = true) : later.resolves name = true := by
  rw [Registry.resolves, Bool.and_eq_true] at resolved ⊢
  rw [extended.mode_eq]
  exact ⟨resolved.1, extended.contains resolved.2⟩

end Extends

theorem insert_extends (inserted : before.insert name text = .ok (fresh, after)) :
    before.Extends after := by
  rcases insert_cases inserted with ⟨_, rfl⟩ | ⟨_, _, rfl, _⟩
  · refine ⟨rfl, ?_⟩
    intro other held known
    rw [get?_append, known, Option.some_or]
  · exact .refl _

/-- After its registration a name stands for something. -/
theorem exists_get?_of_insert (inserted : before.insert name text = .ok (fresh, after)) :
    ∃ held, after.get? name = some held ∧ (before.mode = .strict → held = text) := by
  rcases insert_cases inserted with ⟨unknown, rfl⟩ | ⟨existing, known, rfl, agrees⟩
  · refine ⟨text, ?_, fun _ => rfl⟩
    rw [get?_append, unknown, if_pos rfl, Option.none_or]
  · exact ⟨existing, known, agrees⟩

/-- Whatever a name stands for after a registration, it did so before or was given the
text. -/
theorem get?_of_insert (inserted : before.insert name text = .ok (fresh, after))
    {other held : String} (known : after.get? other = some held) :
    before.get? other = some held ∨ (other, held) = (name, text) := by
  rcases insert_cases inserted with ⟨_, rfl⟩ | ⟨_, _, rfl, _⟩
  · rw [get?_append, Option.or_eq_some_iff] at known
    refine known.imp id ?_
    rintro ⟨_, added⟩
    split at added
    case isTrue same =>
      cases added
      rw [same]
    case isFalse => cases added
  · exact .inl known

/-- In a strict registry a registration adds just its own declaration. -/
theorem get?_insert_iff (strict : before.mode = .strict)
    (inserted : before.insert name text = .ok (fresh, after)) (other held : String) :
    after.get? other = some held ↔
      before.get? other = some held ∨ (other, held) = (name, text) := by
  refine ⟨get?_of_insert inserted, ?_⟩
  rintro (known | same)
  · exact (insert_extends inserted).keeps known
  · cases same
    rcases exists_get?_of_insert inserted with ⟨held, known, agrees⟩
    rw [known, agrees strict]

/-- A strict registry takes a declaration unless the name stands for another text. -/
theorem exists_insert_iff (strict : before.mode = .strict) :
    (∃ fresh after, before.insert name text = .ok (fresh, after)) ↔
      ∀ held, before.get? name = some held → held = text := by
  constructor
  · rintro ⟨fresh, after, inserted⟩ held known
    rcases insert_cases inserted with ⟨unknown, _⟩ | ⟨existing, declared, _, agrees⟩
    · rw [unknown] at known
      cases known
    · rw [declared] at known
      cases known
      exact agrees strict
  · intro agrees
    cases known : before.get? name with
    | none => exact ⟨_, _, insert_unknown known text⟩
    | some existing => exact ⟨_, _, insert_known known fun _ => agrees existing known⟩

/-! ## The list of declarations -/

theorem names_nodup_of_insert (inserted : before.insert name text = .ok (fresh, after))
    (nodup : before.names.Nodup) : after.names.Nodup := by
  rcases insert_cases inserted with ⟨unknown, rfl⟩ | ⟨_, _, rfl, _⟩
  · rw [names, List.map_append, List.map_singleton, List.nodup_append]
    refine ⟨nodup, List.nodup_singleton _, ?_⟩
    intro listed member other single
    rcases List.mem_map.mp member with ⟨⟨declared, held⟩, inside, rfl⟩
    rw [List.mem_singleton.mp single]
    intro same
    have absent := List.lookup_eq_none_iff.mp unknown (declared, held) inside
    exact absurd same.symm (by simpa using absent)
  · exact nodup

/-- Where no name is listed twice, a declaration is listed exactly if its name stands for
its text. -/
theorem mem_definitions_iff (nodup : before.names.Nodup) :
    (name, text) ∈ before.definitions ↔ before.get? name = some text := by
  rw [get?, List.lookup_eq_some_iff]
  constructor
  · intro listed
    rcases List.append_of_mem listed with ⟨first, rest, split⟩
    refine ⟨first, rest, split, ?_⟩
    intro earlier member
    rw [names, split, List.map_append, List.map_cons, List.nodup_append] at nodup
    rw [bne_iff_ne]
    exact (nodup.2.2 _ (List.mem_map_of_mem member) _ List.mem_cons_self).symm
  · rintro ⟨first, rest, split, _⟩
    rw [split]
    exact List.mem_append_right first List.mem_cons_self

/-- Registries in which names stand for the same texts list the same declarations, if they
list no name twice. -/
theorem definitions_perm {first second : Registry} (firstNodup : first.names.Nodup)
    (secondNodup : second.names.Nodup)
    (same : ∀ name text, first.get? name = some text ↔ second.get? name = some text) :
    first.definitions.Perm second.definitions := by
  rw [List.perm_ext_iff_of_nodup (List.Nodup.of_map _ firstNodup) (List.Nodup.of_map _ secondNodup)]
  rintro ⟨name, text⟩
  rw [mem_definitions_iff firstNodup, mem_definitions_iff secondNodup, same]

end Registry
end Conformance
