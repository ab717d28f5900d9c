import Conformance.Emission.Nominal

namespace Conformance

/-!
# Emissions that answer

An emission starts with a registry and ends with a registry, and in between it either
answers or fails.
-/

namespace Emitting

variable {First Second : Type}

/-- An emission that starts with one registry answers, and leaves another one. -/
def Answers (emission : Emitting First) (before : Registry) (answer : First)
    (after : Registry) : Prop :=
  emission.run before = (.ok answer, after)

/-- An emission answers once. -/
theorem Answers.unique {emission : Emitting First} {before after other : Registry}
    {answer given : First} (answers : emission.Answers before answer after)
    (again : emission.Answers before given other) : answer = given ∧ after = other := by
  cases answers.symm.trans again
  exact ⟨rfl, rfl⟩

theorem run_bind (first : Emitting First) (second : First → Emitting Second) (before : Registry) :
    (first >>= second).run before =
      match first.run before with
      | (.ok given, between) => (second given).run between
      | (.error error, between) => (.error error, between) := by
  simp only [bind, ExceptT.bind, ExceptT.run, ExceptT.mk, StateT.bind, ExceptT.bindCont]
  rcases first before with ⟨answered, between⟩
  cases answered <;> rfl

variable {before after : Registry}

theorem answers_pure {answer given : First} :
    (pure given : Emitting First).Answers before answer after ↔ answer = given ∧ after = before := by
  constructor
  · intro answers
    cases answers
    exact ⟨rfl, rfl⟩
  · rintro ⟨rfl, rfl⟩
    rfl

theorem not_answers_throw {answer : First} {error : EmissionError} :
    ¬ (throw error : Emitting First).Answers before answer after := by
  intro answers
  cases answers

/-- Two emissions, one after the other, answer if both do. -/
theorem answers_bind {first : Emitting First} {second : First → Emitting Second}
    {answer : Second} :
    (first >>= second).Answers before answer after ↔
      ∃ given between, first.Answers before given between ∧
        (second given).Answers between answer after := by
  rw [Answers, run_bind]
  constructor
  · intro answers
    rcases equal : first.run before with ⟨answered, between⟩
    rw [equal] at answers
    cases answered with
    | ok given => exact ⟨given, between, equal, answers⟩
    | error error => cases answers
  · rintro ⟨given, between, equal, answers⟩
    rw [show first.run before = (.ok given, between) from equal]
    exact answers

/-- An emission that makes its answer from that of another one. -/
theorem answers_map {first : Emitting First} {make : First → Second} {answer : Second} :
    (first >>= fun given => pure (make given)).Answers before answer after ↔
      ∃ given, first.Answers before given after ∧ answer = make given := by
  rw [answers_bind]
  constructor
  · rintro ⟨given, between, answers, last⟩
    rcases answers_pure.mp last with ⟨rfl, rfl⟩
    exact ⟨given, answers, rfl⟩
  · rintro ⟨given, answers, rfl⟩
    exact ⟨given, after, answers, answers_pure.mpr ⟨rfl, rfl⟩⟩

theorem answers_ofExcept {result : Except EmissionError First} {answer : First} :
    (MonadExcept.ofExcept result : Emitting First).Answers before answer after ↔
      result = .ok answer ∧ after = before := by
  cases result with
  | ok given =>
      constructor
      · intro answers
        cases answers
        exact ⟨rfl, rfl⟩
      · rintro ⟨equal, rfl⟩
        cases equal
        rfl
  | error error =>
      constructor
      · intro answers
        cases answers
      · rintro ⟨equal, _⟩
        cases equal

theorem run_declare (name text : String) (before : Registry) :
    (declare name text).run before =
      match before.insert name text with
      | .ok (_, registry) => (.ok (), registry)
      | .error error => (.error error, before) := by
  rw [declare, run_bind]
  change (match before.insert name text with
    | .ok (_, registry) => (set registry : Emitting Unit)
    | .error error => throw error).run before = _
  cases before.insert name text <;> rfl

/-- A declaration answers if the registry takes it. -/
theorem answers_declare {name text : String} {answer : Unit} :
    (declare name text).Answers before answer after ↔
      ∃ fresh, before.insert name text = .ok (fresh, after) := by
  rw [Answers, run_declare]
  cases inserted : before.insert name text with
  | ok result =>
      rcases result with ⟨fresh, registry⟩
      constructor
      · intro answers
        cases answers
        exact ⟨fresh, rfl⟩
      · rintro ⟨_, equal⟩
        cases equal
        rfl
  | error error =>
      constructor
      · intro answers
        cases answers
      · rintro ⟨_, equal⟩
        cases equal

end Emitting

namespace Nominal

variable {before after : Registry}

theorem run_unlessResolved (name : String) (emission : Emitting Unit) (before : Registry) :
    (unlessResolved name emission).run before =
      if before.resolves name then (.ok (), before) else emission.run before := by
  rw [unlessResolved, Emitting.run_bind]
  change ((if !(before.resolves name) then emission else pure ()).run before) = _
  cases before.resolves name <;> rfl

/-- What is emitted unless a name is known answers at once where the name is known. -/
theorem answers_unlessResolved {name : String} {emission : Emitting Unit} {answer : Unit} :
    (unlessResolved name emission).Answers before answer after ↔
      if before.resolves name then after = before else emission.Answers before answer after := by
  rw [Emitting.Answers, run_unlessResolved]
  cases before.resolves name with
  | true =>
      simp only [if_true]
      constructor
      · intro answers
        cases answers
        rfl
      · intro equal
        rw [equal]
  | false => exact Iff.rfl

/-- A type is referred to by its name, whether its declaration is emitted or known. -/
theorem answers_reference {name answer : String} {declaration : Emitting Unit} :
    (do unlessResolved name declaration; return name : Emitting String).Answers
        before answer after ↔
      some name = some answer ∧
        if before.resolves name then after = before else declaration.Answers before () after := by
  rw [Emitting.answers_map, Option.some.injEq]
  constructor
  · rintro ⟨_, declared, rfl⟩
    exact ⟨rfl, answers_unlessResolved.mp declared⟩
  · rintro ⟨rfl, declared⟩
    exact ⟨(), answers_unlessResolved.mpr declared, rfl⟩

end Nominal
end Conformance
