import Conformance.Proofs.Emission.Answer
import Conformance.Proofs.Emission.Registration

namespace Conformance

/-!
# Plans of emissions

What an emission would declare does not depend on the registry that it meets.  Only how
far it gets does: the registry says at which names it can stop, and which declarations it
takes.  A plan keeps the first apart from the second.  It lists what is to be declared and
where emission refuses to go on, and performing it brings in the registry.

A plan that was performed once can be performed again at any later time, and then changes
nothing.  In a strict registry nothing is skipped, so what a plan does there can be told
from the set of its declarations alone, whatever their order.
-/

/-- What is to be done to a registry. -/
inductive Plan where
  | nothing
  | refuse (error : EmissionError)
  | inOrder (first second : Plan)
  | register (name text : String)
  | unlessKnown (name : String) (plan : Plan)

namespace Plan

variable {plan first second : Plan} {before after : Registry} {name text : String}

/-- Carries out a plan. -/
def perform : Plan → Emitting Unit
  | .nothing => pure ()
  | .refuse error => throw error
  | .inOrder first second => do
      first.perform
      second.perform
  | .register name text => Emitting.declare name text
  | .unlessKnown name plan => Nominal.unlessResolved name plan.perform

/-- Carries out a plan and answers. -/
def answering {Answer : Type} (plan : Plan) (answer : Answer) : Emitting Answer := do
  plan.perform
  return answer

/-- A plan takes a registry to another one. -/
def Leads (plan : Plan) (before after : Registry) : Prop := plan.perform.Answers before () after

/-! ## Plans as emissions -/

section

variable {First Second : Type}

/-- What follows a plan that answers is given the answer. -/
theorem answering_bind (plan : Plan) (answer : First) (next : First → Emitting Second) :
    plan.answering answer >>= next = plan.perform >>= fun _ => next answer := by
  rw [answering, bind_assoc]
  simp only [pure_bind]

/-- Two plans that answer, one after the other. -/
theorem inOrder_answering (first second : Plan) (answer : First) :
    (inOrder first second).answering answer = first.perform >>= fun _ => second.answering answer := by
  simp only [answering, perform, bind_assoc]

/-- A plan and what follows it. -/
theorem answers_perform_bind {next : Unit → Emitting First} {answer : First} :
    (plan.perform >>= next).Answers before answer after ↔
      ∃ between, plan.Leads before between ∧ (next ()).Answers between answer after := by
  rw [Emitting.answers_bind]
  exact ⟨fun ⟨_, between, leads⟩ => ⟨between, leads⟩, fun ⟨between, leads⟩ => ⟨(), between, leads⟩⟩

theorem answers_answering {answer given : First} :
    (plan.answering given).Answers before answer after ↔ plan.Leads before after ∧ answer = given := by
  rw [answering, answers_perform_bind]
  simp only [Emitting.answers_pure]
  constructor
  · rintro ⟨between, leads, rfl, rfl⟩
    exact ⟨leads, rfl⟩
  · rintro ⟨leads, rfl⟩
    exact ⟨after, leads, rfl, rfl⟩

end

theorem leads_nothing : nothing.Leads before after ↔ after = before := by
  rw [Leads, perform, Emitting.answers_pure, eq_self, true_and]

theorem not_leads_refuse {error : EmissionError} : ¬ (refuse error).Leads before after :=
  Emitting.not_answers_throw

theorem leads_inOrder :
    (inOrder first second).Leads before after ↔
      ∃ between, first.Leads before between ∧ second.Leads between after := by
  rw [Leads, perform, answers_perform_bind]
  rfl

theorem leads_register :
    (register name text).Leads before after ↔
      ∃ fresh, before.insert name text = .ok (fresh, after) :=
  Emitting.answers_declare

theorem leads_unlessKnown :
    (unlessKnown name plan).Leads before after ↔
      if before.resolves name then after = before else plan.Leads before after :=
  Nominal.answers_unlessResolved

/-! ## What a plan leaves -/

/-- What a plan would declare, in its order, if nothing were known. -/
def declarations : Plan → List (String × String)
  | .nothing | .refuse _ => []
  | .inOrder first second => first.declarations ++ second.declarations
  | .register name text => [(name, text)]
  | .unlessKnown _ plan => plan.declarations

/-- What registrations keep is kept by plans. -/
theorem Leads.preserves {motive : Registry → Prop}
    (insert : ∀ {before after : Registry} {name text : String} {fresh : Bool},
      before.insert name text = .ok (fresh, after) → motive before → motive after) :
    ∀ {plan : Plan} {before after : Registry}, plan.Leads before after →
      motive before → motive after := by
  intro plan
  induction plan with
  | nothing =>
      intro before after leads holds
      rwa [leads_nothing.mp leads]
  | refuse error =>
      intro before after leads
      exact absurd leads not_leads_refuse
  | inOrder first second firstHypothesis secondHypothesis =>
      intro before after leads holds
      rcases leads_inOrder.mp leads with ⟨between, early, late⟩
      exact secondHypothesis late (firstHypothesis early holds)
  | register name text =>
      intro before after leads holds
      rcases leads_register.mp leads with ⟨fresh, inserted⟩
      exact insert inserted holds
  | unlessKnown name plan inductionHypothesis =>
      intro before after leads holds
      rw [leads_unlessKnown] at leads
      split at leads
      case isTrue => rwa [leads]
      case isFalse => exact inductionHypothesis leads holds

theorem Leads.extends (leads : plan.Leads before after) : before.Extends after :=
  leads.preserves (motive := before.Extends)
    (fun inserted extended => extended.trans (Registry.insert_extends inserted)) (.refl before)

theorem Leads.names_nodup (leads : plan.Leads before after) :
    before.names.Nodup → after.names.Nodup :=
  leads.preserves (motive := fun registry => registry.names.Nodup) Registry.names_nodup_of_insert

/-- Whatever a name stands for in the end, it did so before or the plan declares it. -/
theorem Leads.get?_cases {held : String} : ∀ {plan : Plan} {before after : Registry},
    plan.Leads before after → after.get? name = some held →
      before.get? name = some held ∨ (name, held) ∈ plan.declarations := by
  intro plan
  induction plan with
  | nothing =>
      intro before after leads known
      rw [leads_nothing.mp leads] at known
      exact .inl known
  | refuse error =>
      intro before after leads
      exact absurd leads not_leads_refuse
  | inOrder first second firstHypothesis secondHypothesis =>
      intro before after leads known
      rcases leads_inOrder.mp leads with ⟨between, early, late⟩
      rw [declarations, List.mem_append]
      rcases secondHypothesis late known with knownBetween | declared
      · exact (firstHypothesis early knownBetween).imp_right .inl
      · exact .inr (.inr declared)
  | register other text =>
      intro before after leads known
      rcases leads_register.mp leads with ⟨fresh, inserted⟩
      rw [declarations, List.mem_singleton]
      exact Registry.get?_of_insert inserted known
  | unlessKnown other plan inductionHypothesis =>
      intro before after leads known
      rw [leads_unlessKnown] at leads
      split at leads
      case isTrue =>
        rw [leads] at known
        exact .inl known
      case isFalse => exact inductionHypothesis leads known

/-- A plan that was performed can be performed again on any registry that grew out of the
one it left.  Whatever it declared is known by then, with the same text if the registry is
strict, so nothing changes. -/
theorem Leads.again : ∀ {plan : Plan} {before after later : Registry},
    plan.Leads before after → after.Extends later → plan.Leads later later := by
  intro plan
  induction plan with
  | nothing => exact fun _ _ => leads_nothing.mpr rfl
  | refuse error => exact fun leads => absurd leads not_leads_refuse
  | inOrder first second firstHypothesis secondHypothesis =>
      intro before after later leads grown
      rcases leads_inOrder.mp leads with ⟨between, early, late⟩
      exact leads_inOrder.mpr
        ⟨later, firstHypothesis early (late.extends.trans grown), secondHypothesis late grown⟩
  | register name text =>
      intro before after later leads grown
      rcases leads_register.mp leads with ⟨fresh, inserted⟩
      rcases Registry.exists_get?_of_insert inserted with ⟨held, known, agrees⟩
      have sameMode := grown.mode_eq.trans (Registry.insert_extends inserted).mode_eq
      refine leads_register.mpr ⟨false, Registry.insert_known (grown.keeps known) ?_⟩
      rw [sameMode]
      exact agrees
  | unlessKnown name plan inductionHypothesis =>
      intro before after later leads grown
      rw [leads_unlessKnown] at leads ⊢
      by_cases resolved : later.resolves name
      · rw [if_pos resolved]
      · rw [if_neg resolved]
        by_cases resolvedBefore : before.resolves name
        · rw [if_pos resolvedBefore] at leads
          rw [leads] at grown
          exact absurd (grown.resolves resolvedBefore) resolved
        · rw [if_neg resolvedBefore] at leads
          exact inductionHypothesis leads grown

/-! ## Strict registries -/

/-- A plan without a refusal. -/
def Sound : Plan → Prop
  | .nothing | .register _ _ => True
  | .refuse _ => False
  | .inOrder first second => first.Sound ∧ second.Sound
  | .unlessKnown _ plan => plan.Sound

end Plan

namespace Registry

/-- Declarations that stand for one text under every name, and for the text that the name
has already. -/
def Admits (registry : Registry) (declarations : List (String × String)) : Prop :=
  ∀ name text, (name, text) ∈ declarations →
    (∀ held, registry.get? name = some held → held = text) ∧
    ∀ other, (name, other) ∈ declarations → other = text

theorem admits_nil (registry : Registry) : registry.Admits [] := by
  intro name text declared
  cases declared

theorem Admits.of_append_left {registry : Registry} {first second : List (String × String)}
    (admits : registry.Admits (first ++ second)) : registry.Admits first := by
  intro name text declared
  rcases admits name text (List.mem_append_left _ declared) with ⟨known, single⟩
  exact ⟨known, fun other again => single other (List.mem_append_left _ again)⟩

/-- Some declarations are admitted and then some more.  In between the first of them are
held as well. -/
theorem admits_append_iff {before between : Registry} {first second : List (String × String)}
    (held : ∀ name text, between.get? name = some text ↔
      before.get? name = some text ∨ (name, text) ∈ first) :
    before.Admits (first ++ second) ↔ before.Admits first ∧ between.Admits second := by
  constructor
  · intro admits
    refine ⟨admits.of_append_left, ?_⟩
    intro name text declared
    rcases admits name text (List.mem_append_right _ declared) with ⟨known, single⟩
    refine ⟨?_, fun other again => single other (List.mem_append_right _ again)⟩
    intro existing holds
    rcases (held name existing).mp holds with early | declaredFirst
    · exact known existing early
    · exact single existing (List.mem_append_left _ declaredFirst)
  · rintro ⟨firstAdmits, secondAdmits⟩ name text declared
    rcases List.mem_append.mp declared with inFirst | inSecond
    · refine ⟨(firstAdmits name text inFirst).1, ?_⟩
      intro other again
      rcases List.mem_append.mp again with otherFirst | otherSecond
      · exact (firstAdmits name text inFirst).2 other otherFirst
      · have holds := (held name text).mpr (.inr inFirst)
        exact ((secondAdmits name other otherSecond).1 text holds).symm
    · refine ⟨?_, ?_⟩
      · intro existing early
        exact (secondAdmits name text inSecond).1 existing ((held name existing).mpr (.inl early))
      · intro other again
        rcases List.mem_append.mp again with otherFirst | otherSecond
        · exact (secondAdmits name text inSecond).1 other ((held name other).mpr (.inr otherFirst))
        · exact (secondAdmits name text inSecond).2 other otherSecond

end Registry

namespace Plan

variable {plan : Plan} {before after : Registry}

theorem not_resolves_of_strict (strict : before.mode = .strict) (name : String) :
    before.resolves name = false := by
  rw [Registry.resolves, strict]
  rfl

/-- On a strict registry a plan does everything that it says.  In the end the registry holds
what it held, and all declarations of the plan. -/
theorem Leads.strict : ∀ {plan : Plan} {before after : Registry},
    plan.Leads before after → before.mode = .strict →
      plan.Sound ∧ ∀ name text, after.get? name = some text ↔
        before.get? name = some text ∨ (name, text) ∈ plan.declarations := by
  intro plan
  induction plan with
  | nothing =>
      intro before after leads strict
      rw [leads_nothing.mp leads]
      exact ⟨trivial, fun name text => by simp [declarations]⟩
  | refuse error =>
      intro before after leads
      exact absurd leads not_leads_refuse
  | inOrder first second firstHypothesis secondHypothesis =>
      intro before after leads strict
      rcases leads_inOrder.mp leads with ⟨between, early, late⟩
      rcases firstHypothesis early strict with ⟨firstSound, heldBetween⟩
      rcases secondHypothesis late (early.extends.mode_eq.trans strict) with ⟨secondSound, heldAfter⟩
      refine ⟨⟨firstSound, secondSound⟩, ?_⟩
      intro name text
      rw [heldAfter, heldBetween, declarations, List.mem_append, or_assoc]
  | register name text =>
      intro before after leads strict
      rcases leads_register.mp leads with ⟨fresh, inserted⟩
      refine ⟨trivial, ?_⟩
      intro other held
      rw [Registry.get?_insert_iff strict inserted, declarations, List.mem_singleton]
  | unlessKnown name plan inductionHypothesis =>
      intro before after leads strict
      rw [leads_unlessKnown, not_resolves_of_strict strict, if_neg Bool.false_ne_true] at leads
      exact inductionHypothesis leads strict

/-- On a strict registry a plan can be performed exactly if it refuses nothing and no name
would stand for two texts. -/
theorem exists_leads_iff : ∀ {plan : Plan} {before : Registry}, before.mode = .strict →
    ((∃ after, plan.Leads before after) ↔ plan.Sound ∧ before.Admits plan.declarations) := by
  intro plan
  induction plan with
  | nothing =>
      intro before strict
      exact ⟨fun _ => ⟨trivial, before.admits_nil⟩, fun _ => ⟨before, leads_nothing.mpr rfl⟩⟩
  | refuse error =>
      intro before strict
      exact ⟨fun ⟨_, leads⟩ => absurd leads not_leads_refuse, fun ⟨sound, _⟩ => sound.elim⟩
  | inOrder first second firstHypothesis secondHypothesis =>
      intro before strict
      constructor
      · rintro ⟨after, leads⟩
        rcases leads_inOrder.mp leads with ⟨between, early, late⟩
        have strictBetween := early.extends.mode_eq.trans strict
        rcases (firstHypothesis strict).mp ⟨between, early⟩ with ⟨firstSound, firstAdmits⟩
        rcases (secondHypothesis strictBetween).mp ⟨after, late⟩ with ⟨secondSound, secondAdmits⟩
        exact ⟨⟨firstSound, secondSound⟩,
          (Registry.admits_append_iff (early.strict strict).2).mpr ⟨firstAdmits, secondAdmits⟩⟩
      · rintro ⟨⟨firstSound, secondSound⟩, admits⟩
        rcases (firstHypothesis strict).mpr ⟨firstSound, admits.of_append_left⟩ with ⟨between, early⟩
        have strictBetween := early.extends.mode_eq.trans strict
        have secondAdmits := ((Registry.admits_append_iff (early.strict strict).2).mp admits).2
        rcases (secondHypothesis strictBetween).mpr ⟨secondSound, secondAdmits⟩ with ⟨after, late⟩
        exact ⟨after, leads_inOrder.mpr ⟨between, early, late⟩⟩
  | register name text =>
      intro before strict
      simp only [leads_register, Sound, true_and]
      rw [exists_comm, Registry.exists_insert_iff strict]
      constructor
      · intro agrees other held declared
        cases List.mem_singleton.mp declared
        refine ⟨agrees, ?_⟩
        intro again declaredAgain
        cases List.mem_singleton.mp declaredAgain
        rfl
      · intro admits
        exact (admits name text (List.mem_singleton.mpr rfl)).1
  | unlessKnown name plan inductionHypothesis =>
      intro before strict
      simp only [leads_unlessKnown, not_resolves_of_strict strict, Bool.false_eq_true, if_false]
      exact inductionHypothesis strict

end Plan
end Conformance
