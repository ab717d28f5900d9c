import Conformance.Proofs.Emission.Closure
import Conformance.Proofs.FirstOffence

namespace Conformance

/-!
# Where plans fail

A strict registry passes over no name, so a plan does there the same whether its parts are nested
or carried out one after another.  Said as a list of parts that each do one thing, it is plain where
a plan fails: at the first part that refuses, or whose declaration is in conflict with one that
the registry holds or that was registered by an earlier part.
-/

namespace Registry

variable {before : Registry} {name text : String} {error : EmissionError}

/-- A strict registry refuses a declaration for a name that stands for another text. -/
theorem insert_eq_error_iff (strict : before.mode = .strict) :
    before.insert name text = .error error ↔
      ∃ held, before.get? name = some held ∧ held ≠ text ∧ error = .conflictingDefinition name := by
  rw [insert]
  cases before.get? name with
  | none => simp
  | some held =>
      by_cases same : held = text
      · simp [same]
      · have refused : (before.mode == .strict && held != text) = true := by simp [strict, same]
        simp only [refused, if_true]
        constructor
        · intro failed
          cases failed
          exact ⟨held, rfl, same, rfl⟩
        · rintro ⟨_, _, _, rfl⟩
          rfl

end Registry

namespace Plan

variable {first second third plan : Plan} {plans others : List Plan} {before after : Registry}
variable {error : EmissionError}

/-! ## Plans that do the same -/

/-- Plans that do the same to every strict registry, and fail with the same errors. -/
def Alike (first second : Plan) : Prop :=
  ∀ before : Registry, before.mode = .strict → first.perform.run before = second.perform.run before

/-- Some plans one after another. -/
def all : List Plan → Plan
  | [] => .nothing
  | plan :: rest => .inOrder plan (all rest)

theorem run_inOrder :
    (inOrder first second).perform.run before =
      match first.perform.run before with
      | (.ok _, between) => second.perform.run between
      | (.error error, between) => (.error error, between) := by
  rw [perform, Emitting.run_bind]
  rcases first.perform.run before with ⟨result, between⟩
  cases result <;> rfl

/-- A strict registry stays strict. -/
theorem strict_leaves (plan : Plan) (strict : before.mode = .strict) :
    (plan.leaves before).mode = .strict :=
  leaves_preserves (motive := fun registry => registry.mode = .strict)
    (fun inserted strict => (Registry.insert_extends inserted).mode_eq.trans strict) plan strict

theorem Alike.refl (plan : Plan) : plan.Alike plan := fun _ _ => rfl

theorem Alike.symm (alike : first.Alike second) : second.Alike first :=
  fun before strict => (alike before strict).symm

theorem Alike.trans (alike : first.Alike second) (further : second.Alike third) :
    first.Alike third :=
  fun before strict => (alike before strict).trans (further before strict)

theorem Alike.inOrder {firstToo secondToo : Plan} (early : first.Alike firstToo)
    (late : second.Alike secondToo) : (inOrder first second).Alike (inOrder firstToo secondToo) := by
  intro before strict
  have strictBetween := first.strict_leaves strict
  rw [run_inOrder, run_inOrder, ← early before strict]
  rw [leaves] at strictBetween
  generalize first.perform.run before = ran at strictBetween ⊢
  rcases ran with ⟨result, between⟩
  cases result with
  | ok done => exact late between strictBetween
  | error error => rfl

theorem alike_nothing_inOrder : (inOrder nothing plan).Alike plan := fun _ _ => rfl

theorem alike_inOrder_nothing : (inOrder plan nothing).Alike plan := by
  intro before strict
  rw [run_inOrder]
  rcases plan.perform.run before with ⟨result, between⟩
  cases result <;> rfl

theorem alike_refuse_inOrder : (inOrder (refuse error) plan).Alike (refuse error) := fun _ _ => rfl

theorem alike_inOrder_assoc :
    (inOrder (inOrder first second) third).Alike (inOrder first (inOrder second third)) := by
  intro before strict
  simp only [run_inOrder]
  rcases first.perform.run before with ⟨result, between⟩
  cases result <;> rfl

theorem alike_unlessKnown {name : String} : (unlessKnown name plan).Alike plan := by
  intro before strict
  rw [perform, Nominal.run_unlessResolved, not_resolves_of_strict strict, if_neg Bool.false_ne_true]

theorem alike_all_append : (all (plans ++ others)).Alike (inOrder (all plans) (all others)) := by
  induction plans with
  | nil => exact alike_nothing_inOrder.symm
  | cons plan rest inductionHypothesis =>
      exact ((Alike.refl plan).inOrder inductionHypothesis).trans alike_inOrder_assoc.symm

theorem alike_all_singleton : (all [plan]).Alike plan := alike_inOrder_nothing

/-! ## The first plan that fails -/

/-- A plan that is carried out at once: it does nothing, refuses, or registers one declaration. -/
inductive Simple : Plan → Prop where
  | nothing : Simple .nothing
  | refuse (error : EmissionError) : Simple (.refuse error)
  | register (name text : String) : Simple (.register name text)

/-- A plan that fails behind others: it refuses, or its declaration is in conflict with one that was
registered before. -/
inductive Fails (before : Registry) (front : List Plan) : Plan → EmissionError → Prop where
  | refuse {error : EmissionError} : Fails before front (.refuse error) error
  | conflict {name text other : String}
      (held : before.get? name = some other ∨ .register name other ∈ front)
      (differs : other ≠ text) :
      Fails before front (.register name text) (.conflictingDefinition name)

theorem fails_iff {front : List Plan} :
    Fails before front plan error ↔
      plan = .refuse error ∨ ∃ name text other, plan = .register name text ∧
        (before.get? name = some other ∨ .register name other ∈ front) ∧ other ≠ text ∧
        error = .conflictingDefinition name := by
  constructor
  · rintro (_ | ⟨held, differs⟩)
    · exact .inl rfl
    · exact .inr ⟨_, _, _, rfl, held, differs, rfl⟩
  · rintro (rfl | ⟨name, text, other, rfl, held, differs, rfl⟩)
    · exact .refuse
    · exact .conflict held differs

theorem not_fails_nothing {front : List Plan} : ¬ Fails before front .nothing error := nofun

/-- What was registered counts as held from then on. -/
theorem fails_cons_iff (held : ∀ name text, after.get? name = some text ↔
      before.get? name = some text ∨ plan = .register name text) {front : List Plan}
    {later : Plan} : Fails before (plan :: front) later error ↔ Fails after front later error := by
  have moved {name other : String} :
      (before.get? name = some other ∨ .register name other ∈ plan :: front) ↔
        (after.get? name = some other ∨ .register name other ∈ front) := by
    rw [held, List.mem_cons, or_assoc, eq_comm (a := plan)]
  constructor
  · rintro (_ | ⟨known, differs⟩)
    · exact .refuse
    · exact .conflict (moved.mp known) differs
  · rintro (_ | ⟨known, differs⟩)
    · exact .refuse
    · exact .conflict (moved.mpr known) differs

/-- Simple plans one after another fail on a strict registry as the first of them that fails. -/
theorem run_all_error_iff (simple : ∀ plan ∈ plans, plan.Simple) (strict : before.mode = .strict) :
    (∃ after, (all plans).perform.run before = (.error error, after)) ↔
      FirstOffence (Fails before) plans error := by
  induction plans generalizing before with
  | nil =>
      refine iff_of_false ?_ not_firstOffence_nil
      rintro ⟨_, failed⟩
      cases failed
  | cons plan plans inductionHypothesis =>
      rw [List.forall_mem_cons] at simple
      have further (after : Registry) (held : ∀ name text, after.get? name = some text ↔
          before.get? name = some text ∨ plan = .register name text) :
          FirstOffence (fun front => Fails before (plan :: front)) plans error ↔
            FirstOffence (Fails after) plans error := by
        refine firstOffence_congr rfl ?_ error
        intro front item rest frontToo itemToo restToo split splitToo beside another
        rcases List.append_inj (split.symm.trans splitToo) beside with ⟨rfl, same⟩
        cases same
        exact fails_cons_iff held
      rw [all, run_inOrder, firstOffence_cons]
      cases simple.1 with
      | nothing =>
          rw [or_iff_right not_fails_nothing, further before (by simp)]
          exact (inductionHypothesis simple.2 strict).trans
            (and_iff_right fun _ => not_fails_nothing).symm
      | refuse refused =>
          constructor
          · rintro ⟨_, failed⟩
            cases failed
            exact .inl .refuse
          · rintro (failed | ⟨passes, _⟩)
            · cases failed
              exact ⟨before, rfl⟩
            · exact absurd .refuse (passes refused)
      | register name text =>
          rw [perform, Emitting.run_declare]
          cases inserted : before.insert name text with
          | error refused =>
              rcases (Registry.insert_eq_error_iff strict).mp inserted with ⟨other, held, differs, rfl⟩
              have conflicts : Fails before [] (.register name text) (.conflictingDefinition name) :=
                .conflict (.inl held) differs
              constructor
              · rintro ⟨_, failed⟩
                cases failed
                exact .inl conflicts
              · rintro (failed | ⟨passes, _⟩)
                · cases failed
                  exact ⟨before, rfl⟩
                · exact absurd conflicts (passes _)
          | ok result =>
              rcases result with ⟨fresh, after⟩
              have fits := (Registry.exists_insert_iff strict).mp ⟨fresh, after, inserted⟩
              have passes : ∀ another, ¬ Fails before [] (.register name text) another := by
                intro another failed
                cases failed with
                | conflict held differs =>
                    rcases held with held | listed
                    · exact differs (fits _ held)
                    · cases listed
              have strictAfter := (Registry.insert_extends inserted).mode_eq.trans strict
              rw [or_iff_right (passes error), further after ?held]
              · exact (inductionHypothesis simple.2 strictAfter).trans (and_iff_right passes).symm
              case held =>
                intro other held
                rw [Registry.get?_insert_iff strict inserted, register.injEq, Prod.mk.injEq,
                  eq_comm (a := other), eq_comm (a := held)]

end Plan
end Conformance
