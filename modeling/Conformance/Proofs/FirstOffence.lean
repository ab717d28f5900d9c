import Mathlib.Data.List.Basic

namespace Conformance

/-!
# First offences

A check that goes through a list and stops at the first item that offends reports one offence,
even where many items offend.  What an item offends against may depend on the items in front of
it.  The definition says which offence is reported without the order in which anything is
computed: no prefix of the items in front of the offender ends with an offender.
-/

section

variable {Item Offence : Type} {offends : List Item → Item → Offence → Prop}
variable {item : Item} {items rest : List Item} {offence : Offence}

/-- The offence of the first item that offends, given the items in front of it. -/
def FirstOffence (offends : List Item → Item → Offence → Prop) (items : List Item)
    (offence : Offence) : Prop :=
  ∃ front item rest, items = front ++ item :: rest ∧ offends front item offence ∧
    ∀ earlier other later, front = earlier ++ other :: later →
      ∀ another, ¬ offends earlier other another

theorem not_firstOffence_nil : ¬ FirstOffence offends [] offence := by
  rintro ⟨front, item, rest, split, _⟩
  cases front <;> cases split

/-- Either the first item offends, or it does not and the others have a first offender. -/
theorem firstOffence_cons :
    FirstOffence offends (item :: rest) offence ↔
      offends [] item offence ∨
        (∀ another, ¬ offends [] item another) ∧
          FirstOffence (fun front => offends (item :: front)) rest offence := by
  constructor
  · rintro ⟨front, offender, behind, split, offended, earliest⟩
    cases front with
    | nil =>
        cases split
        exact .inl offended
    | cons first front =>
        cases split
        refine .inr ⟨earliest [] item front rfl, front, offender, behind, rfl, offended, ?_⟩
        intro earlier other later equal
        exact earliest (item :: earlier) other later (congrArg (item :: ·) equal)
  · rintro (offended | ⟨passes, front, offender, behind, rfl, offended, earliest⟩)
    · exact ⟨[], item, rest, rfl, offended, fun earlier _ _ split => by cases earlier <;> cases split⟩
    · refine ⟨item :: front, offender, behind, rfl, offended, ?_⟩
      intro earlier other later split
      cases earlier with
      | nil =>
          cases split
          exact passes
      | cons first earlier =>
          cases split
          exact earliest earlier other later rfl

/-- If at most one offence is reported of an item, there is one first offence. -/
theorem FirstOffence.unique {another : Offence} (found : FirstOffence offends items offence)
    (again : FirstOffence offends items another)
    (one : ∀ front item first second, offends front item first → offends front item second →
      first = second) : offence = another := by
  induction items generalizing offends with
  | nil => exact absurd found not_firstOffence_nil
  | cons item items inductionHypothesis =>
      rcases firstOffence_cons.mp found with offended | ⟨passes, later⟩
      · rcases firstOffence_cons.mp again with offendedToo | ⟨passes, _⟩
        · exact one [] item _ _ offended offendedToo
        · exact absurd offended (passes _)
      · rcases firstOffence_cons.mp again with offendedToo | ⟨_, laterToo⟩
        · exact absurd offendedToo (passes _)
        · exact inductionHypothesis later laterToo fun front => one (item :: front)

/-- There is a first offence where there is any. -/
theorem exists_firstOffence_iff :
    (∃ offence, FirstOffence offends items offence) ↔
      ∃ front item rest offence, items = front ++ item :: rest ∧ offends front item offence := by
  constructor
  · rintro ⟨offence, front, item, rest, split, offended, _⟩
    exact ⟨front, item, rest, offence, split, offended⟩
  · induction items generalizing offends with
    | nil =>
        rintro ⟨front, item, rest, offence, split, _⟩
        cases front <;> cases split
    | cons first items inductionHypothesis =>
        rintro ⟨front, item, rest, offence, split, offended⟩
        by_cases passes : ∀ another, ¬ offends [] first another
        · cases front with
          | nil =>
              cases split
              exact absurd offended (passes offence)
          | cons _ front =>
              cases split
              have behind : ∃ found, FirstOffence (fun front => offends (first :: front)) _ found :=
                inductionHypothesis ⟨front, item, rest, offence, rfl, offended⟩
              rcases behind with ⟨found, later⟩
              exact ⟨found, firstOffence_cons.mpr (.inr ⟨passes, later⟩)⟩
        · rw [not_forall_not] at passes
          rcases passes with ⟨another, offended⟩
          exact ⟨another, firstOffence_cons.mpr (.inl offended)⟩

end

/-- In one list behind another the first offence is in the first list, or that list passes. -/
theorem firstOffence_append {Item Offence : Type} {offends : Item → Offence → Prop}
    {items others : List Item} {offence : Offence} :
    FirstOffence (fun _ => offends) (items ++ others) offence ↔
      FirstOffence (fun _ => offends) items offence ∨
        (∀ item ∈ items, ∀ another, ¬ offends item another) ∧
          FirstOffence (fun _ => offends) others offence := by
  induction items with
  | nil => simp [not_firstOffence_nil]
  | cons item items inductionHypothesis =>
      rw [List.cons_append, firstOffence_cons, firstOffence_cons, inductionHypothesis,
        List.forall_mem_cons, and_or_left, or_assoc, and_assoc]

/-- Items that offend alike at every position have the same first offence. -/
theorem firstOffence_congr {Item Other Offence : Type}
    {offends : List Item → Item → Offence → Prop} {offendsToo : List Other → Other → Offence → Prop}
    {items : List Item} {others : List Other} (beside : items.length = others.length)
    (alike : ∀ {front item rest frontToo other restToo}, items = front ++ item :: rest →
      others = frontToo ++ other :: restToo → front.length = frontToo.length →
      ∀ offence, offends front item offence ↔ offendsToo frontToo other offence)
    (offence : Offence) :
    FirstOffence offends items offence ↔ FirstOffence offendsToo others offence := by
  induction items generalizing others offends offendsToo with
  | nil =>
      cases others with
      | nil => exact iff_of_false not_firstOffence_nil not_firstOffence_nil
      | cons => cases beside
  | cons item items inductionHypothesis =>
      cases others with
      | nil => cases beside
      | cons other others =>
          have here (offence : Offence) : offends [] item offence ↔ offendsToo [] other offence :=
            alike rfl rfl rfl offence
          have later : FirstOffence (fun front => offends (item :: front)) items offence ↔
              FirstOffence (fun front => offendsToo (other :: front)) others offence :=
            inductionHypothesis (Nat.succ.inj beside) fun split splitToo same =>
              alike (congrArg (item :: ·) split) (congrArg (other :: ·) splitToo)
                (congrArg Nat.succ same)
          rw [firstOffence_cons, firstOffence_cons, later, here]
          simp only [here]

end Conformance
