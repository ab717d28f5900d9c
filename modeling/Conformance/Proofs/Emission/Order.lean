import Conformance.Proofs.Emission.Generation

namespace Conformance

/-!
# Generations in another order

In a strict registry a generation adds its own declarations and nothing else, and it
succeeds unless a name would stand for two texts.  So two generations on one registry
succeed in one order exactly if they do in the other, and leave the same declarations.

Two things at the end of a generation do not fit into this.  An alias gives way to whatever
has its name already, even if that is something else, and whether a schema has declared
anything is asked of the whole registry.  Both depend on what was generated before.  The
order does not matter as long as no alias meets another declaration of its name, and every
schema either has a name for its root or declares something itself.
-/

namespace Registry

variable {registry : Registry}

/-- Whether declarations are admitted does not depend on their order. -/
theorem admits_congr {first second : List (String × String)}
    (same : ∀ declaration, declaration ∈ first ↔ declaration ∈ second) :
    registry.Admits first ↔ registry.Admits second := by
  simp only [Admits, same]

end Registry

namespace Schema

open Nominal

variable {schema : Schema} {rootName : Option String} {before after : Registry} {text : String}

/-- What a generation declares before it comes to an alias. -/
def declarations (rootName : Option String) (schema : Schema) : List (String × String) :=
  (rootPlan rootName schema).declarations

/-- The alias of a root that is given a name and not declared under it. -/
def alias? (rootName : Option String) (schema : Schema) : Option (String × String) :=
  rootName.bind fun name =>
    if name ∈ (schema.declarations rootName).map Prod.fst then none
    else some (name, aliasText name (reference rootName schema.rootShape))

/-- Everything that a generation has to declare. -/
def exports (rootName : Option String) (schema : Schema) : List (String × String) :=
  schema.declarations rootName ++ (schema.alias? rootName).toList

/-- A generation that has something to declare, whatever the registry holds already. -/
def HasExports (rootName : Option String) (schema : Schema) : Prop :=
  rootName = none → schema.declarations none ≠ []

/-- An alias that does not meet another declaration of its name among the given ones. -/
def AliasFits (rootName : Option String) (schema : Schema)
    (declarations : List (String × String)) : Prop :=
  ∀ name text, schema.alias? rootName = some (name, text) →
    ∀ other, (name, other) ∈ declarations → other = text

theorem alias?_eq_some {name : String} (found : schema.alias? rootName = some (name, text)) :
    rootName = some name ∧ text = aliasText name (reference rootName schema.rootShape) ∧
      ∀ other, (name, other) ∉ schema.declarations rootName := by
  rcases Option.bind_eq_some_iff.mp found with ⟨given, named, chosen⟩
  split at chosen
  case isTrue => cases chosen
  case isFalse undeclared =>
    cases chosen
    exact ⟨named, rfl, fun other declared => undeclared (List.mem_map_of_mem declared)⟩

theorem mem_exports_iff {name : String} :
    (name, text) ∈ schema.exports rootName ↔
      (name, text) ∈ schema.declarations rootName ∨ schema.alias? rootName = some (name, text) := by
  rw [exports, List.mem_append, Option.mem_toList]

/-- The alias of a schema makes no difference to what is admitted, as long as it fits. -/
theorem admits_exports_iff
    (fits : ∀ name text, schema.alias? rootName = some (name, text) →
      ∀ held, before.get? name = some held → held = text) :
    before.Admits (schema.exports rootName) ↔ before.Admits (schema.declarations rootName) := by
  constructor
  · intro admits name text declared
    rcases admits name text (mem_exports_iff.mpr (.inl declared)) with ⟨known, single⟩
    exact ⟨known, fun other again => single other (mem_exports_iff.mpr (.inl again))⟩
  · intro admits name text declared
    rcases mem_exports_iff.mp declared with listed | found
    · refine ⟨(admits name text listed).1, ?_⟩
      intro other again
      rcases mem_exports_iff.mp again with otherListed | otherFound
      · exact (admits name text listed).2 other otherListed
      · exact absurd listed ((alias?_eq_some otherFound).2.2 text)
    · refine ⟨fits name text found, ?_⟩
      intro other again
      rcases mem_exports_iff.mp again with otherListed | otherFound
      · exact absurd otherListed ((alias?_eq_some found).2.2 other)
      · rw [found] at otherFound
        cases otherFound
        rfl

/-- After a generation on a strict registry, the registry holds what it held and everything
that the generation has to declare. -/
theorem get?_generate_iff (strict : before.mode = .strict)
    (fits : ∀ name text, schema.alias? rootName = some (name, text) →
      ∀ held, before.get? name = some held → held = text)
    (generated : (schema.generate .rust rootName).Answers before text after) (name held : String) :
    after.get? name = some held ↔
      before.get? name = some held ∨ (name, held) ∈ schema.exports rootName := by
  rcases Nominal.generate_answers.mp generated with ⟨between, leads, concludes, _⟩
  have heldBetween : ∀ name text, between.get? name = some text ↔
      before.get? name = some text ∨ (name, text) ∈ schema.declarations rootName :=
    (leads.strict strict).2
  rw [mem_exports_iff, ← or_assoc, ← heldBetween]
  cases concludes with
  | unnamed => simp [alias?]
  | @aliased given _ unknown =>
      have undeclared : given ∉ (schema.declarations (some given)).map Prod.fst := by
        intro listed
        rcases List.mem_map.mp listed with ⟨⟨_, other⟩, declared, rfl⟩
        have known := (heldBetween _ _).mpr (.inr declared)
        rw [unknown] at known
        cases known
      have found : schema.alias? (some given) =
          some (given, aliasText given (reference (some given) schema.rootShape)) := by
        rw [alias?, Option.bind_some, if_neg undeclared]
      have strictBetween : between.mode = .strict := leads.extends.mode_eq.trans strict
      rw [found, Registry.get?_insert_iff strictBetween (Registry.insert_unknown unknown _),
        Option.some.injEq, eq_comm (a := (name, held))]
  | known declared =>
      refine ⟨.inl, ?_⟩
      rintro (known | found)
      · exact known
      · rcases alias?_eq_some found with ⟨sameName, _, undeclared⟩
        cases sameName
        rcases Option.isSome_iff_exists.mp declared with ⟨existing, known⟩
        rcases (heldBetween _ _).mp known with early | listed
        · rw [← fits _ _ found existing early]
          exact known
        · exact absurd listed (undeclared existing)

/-- A generation on a strict registry succeeds exactly if its plan refuses nothing and the
registry admits its declarations. -/
theorem exists_generate_iff (strict : before.mode = .strict)
    (hasExports : schema.HasExports rootName) :
    (∃ text after, (schema.generate .rust rootName).Answers before text after) ↔
      (rootPlan rootName schema).Sound ∧ before.Admits (schema.declarations rootName) := by
  rw [declarations, ← Plan.exists_leads_iff strict]
  constructor
  · rintro ⟨text, after, generated⟩
    rcases Nominal.generate_answers.mp generated with ⟨between, leads, _⟩
    exact ⟨between, leads⟩
  · rintro ⟨between, leads⟩
    have concluded : ∃ after, Concludes schema rootName between after := by
      cases rootName with
      | none =>
          refine ⟨between, .unnamed ?_⟩
          intro empty
          rcases List.exists_mem_of_ne_nil _ (hasExports rfl) with ⟨⟨name, text⟩, declared⟩
          have held := ((leads.strict strict).2 name text).mpr (.inr declared)
          rw [Registry.get?, empty] at held
          cases held
      | some name =>
          cases known : between.get? name with
          | none => exact ⟨_, .aliased known⟩
          | some text =>
              refine ⟨between, .known ?_⟩
              rw [Registry.contains, known]
              rfl
    rcases concluded with ⟨after, concludes⟩
    exact ⟨after.render, after, Nominal.generate_answers.mpr ⟨between, leads, concludes, rfl⟩⟩

/-- A generation lists no name twice if none was listed twice before. -/
theorem names_nodup_of_generate
    (generated : (schema.generate .rust rootName).Answers before text after)
    (nodup : before.names.Nodup) : after.names.Nodup := by
  rcases Nominal.generate_answers.mp generated with ⟨between, leads, concludes, _⟩
  have nodupBetween := leads.names_nodup nodup
  cases concludes with
  | known | unnamed => exact nodupBetween
  | aliased unknown =>
      exact Registry.names_nodup_of_insert (Registry.insert_unknown unknown _) nodupBetween

/-! ## Two generations -/

section

variable {first second : Schema} {firstName secondName : Option String}

/-- Two generations on one registry. -/
def generateBoth (first : Schema) (firstName : Option String) (second : Schema)
    (secondName : Option String) : Emitting String := do
  let _ ← first.generate .rust firstName
  second.generate .rust secondName

theorem generateBoth_answers :
    (generateBoth first firstName second secondName).Answers before text after ↔
      ∃ between, (∃ early, (first.generate .rust firstName).Answers before early between) ∧
        (second.generate .rust secondName).Answers between text after := by
  rw [generateBoth, Emitting.answers_bind]
  constructor
  · rintro ⟨early, between, answers, later⟩
    exact ⟨between, ⟨early, answers⟩, later⟩
  · rintro ⟨between, ⟨early, answers⟩, later⟩
    exact ⟨early, between, answers, later⟩

theorem names_nodup_of_generateBoth
    (generated : (generateBoth first firstName second secondName).Answers (.empty .strict) text after) :
    after.names.Nodup := by
  rcases generateBoth_answers.mp generated with ⟨between, ⟨early, answers⟩, later⟩
  exact names_nodup_of_generate later (names_nodup_of_generate answers List.nodup_nil)

theorem get?_empty (mode : RegistryMode) (name : String) :
    (Registry.empty mode).get? name = none := rfl

/-- A generation on an empty strict registry leaves a strict registry with just what it has to
declare. -/
theorem generate_empty
    (generated : (schema.generate .rust rootName).Answers (.empty .strict) text after) :
    after.mode = .strict ∧ ∀ name held, after.get? name = some held ↔
      (name, held) ∈ schema.exports rootName := by
  constructor
  · rcases Nominal.generate_answers.mp generated with ⟨between, leads, concludes, _⟩
    exact (leads.extends.trans concludes.extends).mode_eq
  · intro name held
    rw [get?_generate_iff rfl (by simp [get?_empty]) generated, get?_empty]
    simp

/-- Declarations are admitted by an empty registry and then some more by a registry that holds
just the first of them. -/
theorem admits_append_empty {mode : RegistryMode} {between : Registry}
    {early late : List (String × String)}
    (holds : ∀ name held, between.get? name = some held ↔ (name, held) ∈ early) :
    (Registry.empty mode).Admits (early ++ late) ↔
      (Registry.empty mode).Admits early ∧ between.Admits late := by
  apply Registry.admits_append_iff
  intro name held
  rw [holds, get?_empty]
  simp

/-- What an alias fits among the declarations of another schema, it fits in the registry that
holds these. -/
theorem AliasFits.held (fits : second.AliasFits secondName (first.exports firstName))
    {registry : Registry} (holds : ∀ name held, registry.get? name = some held ↔
      (name, held) ∈ first.exports firstName) (name text : String)
    (found : second.alias? secondName = some (name, text)) (held : String)
    (known : registry.get? name = some held) : held = text :=
  fits name text found held ((holds name held).mp known)

/-- Two generations leave everything that either of them has to declare. -/
theorem get?_generateBoth_iff (fits : second.AliasFits secondName (first.exports firstName))
    (generated : (generateBoth first firstName second secondName).Answers (.empty .strict) text after)
    (name held : String) :
    after.get? name = some held ↔
      (name, held) ∈ first.exports firstName ∨ (name, held) ∈ second.exports secondName := by
  rcases generateBoth_answers.mp generated with ⟨between, ⟨early, answers⟩, later⟩
  rcases generate_empty answers with ⟨strict, holds⟩
  rw [get?_generate_iff strict (fits.held holds) later, holds]

/-- Two generations succeed one after the other exactly if neither refuses anything and no
name would stand for two texts in what they have to declare together. -/
theorem exists_generateBoth_iff (firstExports : first.HasExports firstName)
    (secondExports : second.HasExports secondName)
    (fits : second.AliasFits secondName (first.exports firstName)) :
    (∃ text after,
      (generateBoth first firstName second secondName).Answers (.empty .strict) text after) ↔
      ((rootPlan firstName first).Sound ∧ (rootPlan secondName second).Sound) ∧
        (Registry.empty .strict).Admits (first.exports firstName ++ second.exports secondName) := by
  have firstAdmits : (Registry.empty .strict).Admits (first.exports firstName) ↔
      (Registry.empty .strict).Admits (first.declarations firstName) :=
    admits_exports_iff (by simp [get?_empty])
  constructor
  · rintro ⟨text, after, generated⟩
    rcases generateBoth_answers.mp generated with ⟨between, ⟨early, answers⟩, later⟩
    rcases generate_empty answers with ⟨strict, holds⟩
    rcases (exists_generate_iff rfl firstExports).mp ⟨early, between, answers⟩ with
      ⟨firstSound, admitsFirst⟩
    rcases (exists_generate_iff strict secondExports).mp ⟨text, after, later⟩ with
      ⟨secondSound, admitsSecond⟩
    refine ⟨⟨firstSound, secondSound⟩, ?_⟩
    rw [admits_append_empty holds]
    exact ⟨firstAdmits.mpr admitsFirst, (admits_exports_iff (fits.held holds)).mpr admitsSecond⟩
  · rintro ⟨⟨firstSound, secondSound⟩, admits⟩
    have admitsFirst : (Registry.empty .strict).Admits (first.exports firstName) :=
      admits.of_append_left
    rcases (exists_generate_iff rfl firstExports).mpr ⟨firstSound, firstAdmits.mp admitsFirst⟩ with
      ⟨early, between, answers⟩
    rcases generate_empty answers with ⟨strict, holds⟩
    rw [admits_append_empty holds] at admits
    rcases (exists_generate_iff strict secondExports).mpr
      ⟨secondSound, (admits_exports_iff (fits.held holds)).mp admits.2⟩ with ⟨text, after, later⟩
    exact ⟨text, after, generateBoth_answers.mpr ⟨between, ⟨early, answers⟩, later⟩⟩

/-- Two generations on an empty strict registry succeed in one order exactly if they succeed
in the other, and then leave the same declarations, as long as no alias meets another
declaration of its name and each schema has something to declare itself. -/
theorem generations_commute (firstExports : first.HasExports firstName)
    (secondExports : second.HasExports secondName)
    (firstFits : first.AliasFits firstName (second.exports secondName))
    (secondFits : second.AliasFits secondName (first.exports firstName)) :
    ((∃ text after,
        (generateBoth first firstName second secondName).Answers (.empty .strict) text after) ↔
      ∃ text after,
        (generateBoth second secondName first firstName).Answers (.empty .strict) text after) ∧
    ∀ text after otherText other,
      (generateBoth first firstName second secondName).Answers (.empty .strict) text after →
      (generateBoth second secondName first firstName).Answers (.empty .strict) otherText other →
      after.definitions.Perm other.definitions ∧ ∀ name, after.get? name = other.get? name := by
  constructor
  · rw [exists_generateBoth_iff firstExports secondExports secondFits,
      exists_generateBoth_iff secondExports firstExports firstFits, and_comm (a := Plan.Sound _),
      Registry.admits_congr]
    intro declaration
    rw [List.mem_append, List.mem_append, or_comm]
  · intro text after otherText other generated generatedOther
    have same (name held : String) : after.get? name = some held ↔ other.get? name = some held := by
      rw [get?_generateBoth_iff secondFits generated, get?_generateBoth_iff firstFits generatedOther,
        or_comm]
    have nodupAfter := names_nodup_of_generateBoth generated
    have nodupOther := names_nodup_of_generateBoth generatedOther
    refine ⟨Registry.definitions_perm nodupAfter nodupOther same, ?_⟩
    intro name
    exact Option.ext (same name)

/-- Some labels, which are plain strings. -/
def labels : Schema :=
  ⟨#[⟨.leaf (.string .unbounded), true, false, none, none⟩,
      ⟨.array 0 .unbounded, true, false, none, none⟩],
    1, by decide, by decide⟩

/-- A label that is an object of its own. -/
def label : Schema :=
  ⟨#[⟨.leaf (.string .unbounded), true, false, none, none⟩,
      ⟨.object [("text", 0)], true, false, some "Label", none⟩],
    1, by decide, by decide⟩

/-- An alias gives way to a struct of its name, but a struct does not give way to an alias of
its name. -/
theorem alias_gives_way :
    ((generateBoth labels (some "Label") label none).run (.empty .strict)).1 =
      .error (.conflictingDefinition "Label") ∧
    let back := (generateBoth label none labels (some "Label")).run (.empty .strict)
    back.1 = .ok back.2.render := by
  decide +kernel

/-- Labels and events have no names in common, so their order makes no difference. -/
theorem generations_commute_labels :
    let forth := (generateBoth labels (some "Labels") events none).run (.empty .strict)
    let back := (generateBoth events none labels (some "Labels")).run (.empty .strict)
    forth.1 = .ok forth.2.render ∧ back.1 = .ok back.2.render ∧
      forth.2.definitions ≠ back.2.definitions ∧ forth.2.definitions.Perm back.2.definitions := by
  intro forth back
  have forthSucceeds : forth.1 = .ok forth.2.render := by decide +kernel
  have backSucceeds : back.1 = .ok back.2.render := by decide +kernel
  have labelsExport : labels.HasExports (some "Labels") := nofun
  have eventsExport : events.HasExports none := by
    intro _
    decide +kernel
  have labelsFit : labels.AliasFits (some "Labels") (events.exports none) := by
    intro name text found other declared
    rw [show name = "Labels" from (Option.some.inj (alias?_eq_some found).1).symm] at declared
    have absent : "Labels" ∉ (events.exports none).map Prod.fst := by decide +kernel
    exact absurd (List.mem_map_of_mem declared) absent
  have eventsFit : events.AliasFits none (labels.exports (some "Labels")) := nofun
  have commute := generations_commute labelsExport eventsExport labelsFit eventsFit
  exact ⟨forthSucceeds, backSucceeds, by decide +kernel,
    (commute.2 _ _ _ _ (Prod.ext forthSucceeds rfl) (Prod.ext backSucceeds rfl)).1⟩

end

end Schema
end Conformance
