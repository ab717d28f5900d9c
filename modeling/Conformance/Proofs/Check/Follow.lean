import Conformance.Proofs.Check.Judgement

namespace Conformance

/-!
# Walks follow judgements

A walk adds to the findings so far what the judgement of its tree says, all of it
or, if it halts, the first of it.  It says that it halted exactly when it was told
to halt and found something.  This is one law for all visits, carried at once
with and without halting and for every array that the walk is started with.

The law is preserved by every loop of a walk.  Unions are the one place where an
inner walk may halt although the outer does not, and where the array is cut: what
the alternatives left behind is dropped, and one finding or all are put in its
place.
-/

/-- What a scope keeps of some findings: all of them, or the first if it halts. -/
def kept (halt : Bool) (findings : List Finding) : List Finding :=
  if halt then findings.take 1 else findings

@[simp] theorem kept_false (findings : List Finding) : kept false findings = findings := rfl

@[simp] theorem kept_true (findings : List Finding) : kept true findings = findings.take 1 := rfl

@[simp] theorem kept_nil (halt : Bool) : kept halt [] = [] := by
  cases halt <;> rfl

@[simp] theorem kept_singleton (halt : Bool) (finding : Finding) : kept halt [finding] = [finding] := by
  cases halt <;> rfl

theorem kept_eq_nil_iff (halt : Bool) (findings : List Finding) :
    kept halt findings = [] ↔ findings = [] := by
  cases halt <;> cases findings <;> simp

/-- What a scope keeps is told by position alone. -/
theorem kept_map (halt : Bool) (change : Finding → Finding) (findings : List Finding) :
    kept halt (findings.map change) = (kept halt findings).map change := by
  cases halt with
  | false => rfl
  | true => exact List.map_take.symm

/-- A scope that goes on keeps what both of two parts give it. -/
theorem kept_append_of_goes_on {halt : Bool} {first : List Finding} (rest : List Finding)
    (goesOn : halt = false ∨ first = []) :
    kept halt (first ++ rest) = kept halt first ++ kept halt rest := by
  rcases goesOn with equal | equal
  · rw [equal]
    rfl
  · rw [equal, List.nil_append, kept_nil, List.nil_append]

/-- A scope that halted in the first of two parts takes nothing from the second. -/
theorem kept_append_of_halted {first : List Finding} (rest : List Finding) (something : first ≠ []) :
    kept true (first ++ rest) = kept true first := by
  cases first with
  | nil => exact absurd rfl something
  | cons finding others => rfl

namespace Walked

/-- Where a walk ends that starts with some findings and finds some more. -/
def after (halt : Bool) (found : Array Finding) (findings : List Finding) : Walked :=
  ⟨found ++ (kept halt findings).toArray, halt && !findings.isEmpty⟩

theorem after_nil (halt : Bool) (found : Array Finding) : after halt found [] = pass found := by
  simp [after, pass]

theorem after_raise (template : Template) (value : Option Value) (count : Option Nat)
    (trail : List Segment) (halt : Bool) (found : Array Finding) :
    after halt found ([template.here value count].map (Finding.beneath trail)) =
      raise template value count trail halt found := by
  rw [List.map_singleton, Template.here_beneath]
  simp [after, raise]

/-- Two parts one after the other, the second of which is left out if the first
one halts, are one walk over both. -/
theorem after_append (halt : Bool) (found : Array Finding) (first rest : List Finding) :
    (if (after halt found first).halted then after halt found first
      else after halt (after halt found first).found rest) = after halt found (first ++ rest) := by
  by_cases goesOn : halt = false ∨ first = []
  · have runsOn : (halt && !first.isEmpty) = false := by
      rcases goesOn with equal | equal <;> simp [equal]
    have halted : (halt && !(first ++ rest).isEmpty) = (halt && !rest.isEmpty) := by
      rcases goesOn with equal | equal <;> simp [equal]
    simp only [after, runsOn, halted, Bool.false_eq_true, if_false, kept_append_of_goes_on rest goesOn,
      Array.append_assoc, List.append_toArray]
  · rcases not_or.mp goesOn with ⟨halts, something⟩
    have isHalting : halt = true := by simpa using halts
    have nonempty : first.isEmpty = false := by simpa using something
    have nonemptyBoth : (first ++ rest).isEmpty = false := by simp [something]
    simp only [after, isHalting, nonempty, nonemptyBoth, kept_append_of_halted rest something,
      Bool.not_false, Bool.and_self, if_true]

/-- A walk that finds nothing, and only such a walk, leaves the findings as many
as they were. -/
theorem after_size_eq_iff (halt : Bool) (found : Array Finding) (findings : List Finding) :
    (after halt found findings).found.size = found.size ↔ findings = [] := by
  rw [← kept_eq_nil_iff halt findings]
  simp [after]

end Walked

/-- A visit follows a judgement if it adds what the judgement says, and halts
when it should. -/
def Visit.Follows (visit : Visit) (judgement : Judgement) : Prop :=
  ∀ value trail halt found,
    visit value trail halt found =
      .after halt found ((judgement value).map (Finding.beneath trail))

/-! ## Loops -/

section

variable {visit : Visit} {judgement : Judgement}

theorem visitEach_follows (follows : visit.Follows judgement) (trail : List Segment) (halt : Bool)
    (values : List (Segment × Value)) : ∀ found : Array Finding,
    visitEach visit trail halt values found =
      .after halt found ((judgement.each values).map (Finding.beneath trail)) := by
  induction values with
  | nil =>
      intro found
      exact (Walked.after_nil halt found).symm
  | cons entry rest inductionHypothesis =>
      intro found
      rcases entry with ⟨segment, value⟩
      rw [Judgement.each_cons_beneath, ← Walked.after_append]
      simp only [visitEach, follows (some value) (segment :: trail) halt found, inductionHypothesis]

end

variable (mode : UnionMode)

theorem walkFields_follows (fields : List (String × Shape))
    (follow : ∀ field ∈ fields, (walk mode field.2).Follows (field.2.judge .every mode))
    (entries : List (String × Value)) (trail : List Segment) (halt : Bool) :
    ∀ found : Array Finding,
      walkFields mode fields entries trail halt found =
        .after halt found ((Judgement.fields
          (fields.map fun (name, shape) => (name, shape.judge .every mode)) entries).map
            (Finding.beneath trail)) := by
  induction fields with
  | nil =>
      intro found
      exact (Walked.after_nil halt found).symm
  | cons field rest inductionHypothesis =>
      intro found
      rcases field with ⟨name, shape⟩
      have first := follow (name, shape) List.mem_cons_self
      have others := inductionHypothesis fun field member => follow field (List.mem_cons_of_mem _ member)
      rw [List.map_cons, Judgement.fields_cons_beneath, ← Walked.after_append]
      simp only [walkFields, first (Value.lookup? name entries) (.key name :: trail) halt found, others]

theorem walkTuple_follows (shapes : List Shape)
    (follow : ∀ shape ∈ shapes, (walk mode shape).Follows (shape.judge .every mode))
    (trail : List Segment) (halt : Bool) : ∀ (values : List (Segment × Value)) (found : Array Finding),
      walkTuple mode shapes values trail halt found =
        .after halt found ((Judgement.positions (shapes.map (Shape.judge .every mode)) values).map
          (Finding.beneath trail)) := by
  induction shapes with
  | nil =>
      intro values found
      rw [List.map_nil, Judgement.positions_nil_left, List.map_nil]
      simpa only [walkTuple] using (Walked.after_nil halt found).symm
  | cons shape rest inductionHypothesis =>
      intro values found
      cases values with
      | nil =>
          rw [Judgement.positions_nil_right, List.map_nil]
          simpa only [walkTuple] using (Walked.after_nil halt found).symm
      | cons entry values =>
          rcases entry with ⟨segment, value⟩
          have first := follow shape List.mem_cons_self
          have others := inductionHypothesis fun shape member =>
            follow shape (List.mem_cons_of_mem _ member)
          rw [List.map_cons, Judgement.positions_cons_beneath, ← Walked.after_append]
          simp only [walkTuple, first (some value) (segment :: trail) halt found, others]

/-! ## Unions -/

/-- What the alternatives leave in the array until one of them accepts. -/
def tried (halt : Bool) (reports : List (List Finding)) : List Finding :=
  (reports.takeWhile fun report => !report.isEmpty).flatMap (kept halt)

theorem tried_cons_nil (halt : Bool) (rest : List (List Finding)) : tried halt ([] :: rest) = [] := rfl

theorem tried_cons_of_ne_nil (halt : Bool) {report : List Finding} (something : report ≠ [])
    (rest : List (List Finding)) : tried halt (report :: rest) = kept halt report ++ tried halt rest := by
  simp [tried, something]

/-- If no alternative accepts, all of them have been tried. -/
theorem tried_of_none_accepts (halt : Bool) {reports : List (List Finding)}
    (rejected : reports.any List.isEmpty = false) : tried halt reports = reports.flatMap (kept halt) := by
  induction reports with
  | nil => rfl
  | cons report rest inductionHypothesis =>
      rw [List.any_cons, Bool.or_eq_false_iff] at rejected
      have something : report ≠ [] := by
        intro empty
        rw [empty] at rejected
        cases rejected.1
      rw [tried_cons_of_ne_nil halt something, List.flatMap_cons, inductionHypothesis rejected.2]

/-- The first finding of all alternatives is the first of those that were kept. -/
theorem take_one_flatMap_kept (halt : Bool) {reports : List (List Finding)}
    (rejected : reports.any List.isEmpty = false) :
    (reports.flatMap (kept halt)).take 1 = reports.flatten.take 1 := by
  cases reports with
  | nil => rfl
  | cons report rest =>
      cases report with
      | nil => cases rejected
      | cons finding others => cases halt <;> rfl

/-- It makes no difference whether the alternatives or the union keep what the
scope keeps. -/
theorem kept_flatMap_kept (halt : Bool) {reports : List (List Finding)}
    (rejected : reports.any List.isEmpty = false) :
    kept halt (reports.flatMap (kept halt)) = kept halt reports.flatten := by
  cases halt with
  | false => exact List.flatMap_id
  | true => exact take_one_flatMap_kept true rejected

theorem walkAlternatives_follows (alternatives : List Shape)
    (follow : ∀ shape ∈ alternatives, (walk mode shape).Follows (shape.judge .every mode))
    (value : Value) (trail : List Segment) (halt : Bool) : ∀ found : Array Finding,
    walkAlternatives mode alternatives value trail halt found =
      let reports := alternatives.map fun shape =>
        (shape.judge .every mode (some value)).map (Finding.beneath trail)
      (reports.any List.isEmpty, found ++ (tried halt reports).toArray) := by
  induction alternatives with
  | nil =>
      intro found
      simp [walkAlternatives, tried]
  | cons shape rest inductionHypothesis =>
      intro found
      have first := follow shape List.mem_cons_self (some value) trail halt found
      have others := inductionHypothesis fun shape member => follow shape (List.mem_cons_of_mem _ member)
      simp only [walkAlternatives, first, others, List.map_cons, List.any_cons]
      generalize (shape.judge .every mode (some value)).map (Finding.beneath trail) = report
      by_cases accepted : report = []
      · rw [if_pos ((Walked.after_size_eq_iff halt found report).mpr accepted), accepted, tried_cons_nil]
        simp [Walked.after]
      · rw [if_neg fun same => accepted ((Walked.after_size_eq_iff halt found report).mp same),
          tried_cons_of_ne_nil halt accepted]
        simp [Walked.after, accepted]

theorem flatten_ne_nil {reports : List (List Finding)} (some? : reports ≠ [])
    (rejected : reports.any List.isEmpty = false) : reports.flatten ≠ [] := by
  intro empty
  rcases List.exists_mem_of_ne_nil reports some? with ⟨report, member⟩
  have nothing := List.flatten_eq_nil_iff.mp empty report member
  exact List.any_eq_false.mp rejected report member (by rw [nothing]; rfl)

theorem any_isEmpty_beneath (trail : List Segment) (reports : List (List Finding)) :
    (reports.map (List.map (Finding.beneath trail))).any List.isEmpty = reports.any List.isEmpty := by
  rw [List.any_map]
  congr 1
  funext report
  exact List.isEmpty_map

/-- Cutting an array back leaves the first of what had been appended. -/
theorem shrink_append (found : Array Finding) (extra : List Finding) (more : Nat) :
    (found ++ extra.toArray).shrink (found.size + more) = found ++ (extra.take more).toArray := by
  apply Array.toList_inj.mp
  rw [Array.toList_shrink, Array.toList_append, Array.toList_append, ← Array.length_toList,
    List.take_length_add_append]

theorem shrink_append_all (found : Array Finding) (extra : List Finding) :
    (found ++ extra.toArray).shrink found.size = found := by
  have cut := shrink_append found extra 0
  rwa [Nat.add_zero, List.take_zero, Array.append_empty] at cut

/-- A union keeps what its mode asks for of what the alternatives found. -/
theorem closeUnion_follows {reports : List (List Finding)} (some? : reports ≠ [])
    (rejected : reports.any List.isEmpty = false) (value : Value) (trail : List Segment)
    (halt : Bool) (found : Array Finding) :
    closeUnion mode reports.length found.size value trail halt
        (found ++ (tried (halt || mode == .synthesized)
          (reports.map (List.map (Finding.beneath trail)))).toArray) =
      .after halt found ((Judgement.union mode value reports).map (Finding.beneath trail)) := by
  have rejectedBeneath := (any_isEmpty_beneath trail reports).trans rejected
  rw [tried_of_none_accepts _ rejectedBeneath]
  simp only [Judgement.union, rejected, Bool.false_eq_true, if_false]
  cases mode with
  | synthesized =>
      rw [Walked.after_raise]
      simp only [closeUnion, shrink_append_all]
  | all =>
      have alone : (halt || UnionMode.all == .synthesized) = halt := Bool.or_false halt
      have nonempty : (reports.flatten.map (Finding.beneath trail)).isEmpty = false := by
        rw [List.isEmpty_map, List.isEmpty_eq_false_iff]
        exact flatten_ne_nil some? rejected
      -- What the scope keeps of the alternatives is what it keeps of their findings.
      have closed := kept_flatMap_kept halt rejectedBeneath
      rw [← List.map_flatten] at closed
      simp only [closeUnion, Walked.after, alone, nonempty, Bool.not_false, Bool.and_true, ← closed]
      cases halt with
      | false => rfl
      | true =>
          rw [if_pos rfl, shrink_append]
          rfl

/-! ## Nodes -/

theorem walkLeaf_follows (scalar : Leaf) (value : Value) (trail : List Segment) (halt : Bool)
    (found : Array Finding) :
    walkLeaf scalar value trail halt found =
      .after halt found ((Judgement.leaf .every scalar value).map (Finding.beneath trail)) := by
  cases violated : scalar.violation? value with
  | none =>
      simp only [walkLeaf, Judgement.leaf, violated, List.map_nil, Walked.after_nil]
  | some violation =>
      have same : scalar.reported? .every violation = scalar.template? violation.kind := by
        cases kind : violation.kind with
        | wrongType => simp only [Leaf.reported?, kind]
        | constraint => cases scalar <;> simp [Leaf.reported?, kind, Leaf.countsWith]
      cases template : scalar.template? violation.kind with
      | none =>
          simp only [walkLeaf, Judgement.leaf, violated, same, template, List.map_nil, Walked.after_nil]
      | some template =>
          simp only [walkLeaf, Judgement.leaf, violated, same, template, Walked.after_raise]

theorem walkForm_follows {form : Form Shape} (proper : form.Proper)
    (follow : ∀ shape ∈ form.children, (walk mode shape).Follows (shape.judge .every mode))
    (value : Value) (trail : List Segment) (halt : Bool) (found : Array Finding) :
    walkForm mode form value trail halt found =
      .after halt found (((form.map (Shape.judge .every mode)).judge .every mode value).map
        (Finding.beneath trail)) := by
  cases form with
  | leaf scalar => exact walkLeaf_follows scalar value trail halt found
  | object fields =>
      have follows := fun entries => walkFields_follows mode fields
        (fun field member => follow field.2 (List.mem_map_of_mem member)) entries trail halt found
      cases value <;> simp only [walkForm, Form.map, Form.judge, Walked.after_raise, follows]
  | array item length =>
      have follows := visitEach_follows (follow item List.mem_cons_self) trail halt
      cases value with
      | list items =>
          simp only [walkForm, Form.map, Form.judge, LengthBounds.admits_every]
          by_cases passes : length.contains items.length = true
          · simp only [passes, if_true, follows]
          · simp only [passes, Bool.false_eq_true, if_false, Walked.after_raise]
      | _ => simp only [walkForm, Form.map, Form.judge, Walked.after_raise]
  | tuple shapes =>
      have follows := walkTuple_follows mode shapes follow trail halt
      cases value with
      | list items =>
          simp only [walkForm, Form.map, Form.judge, List.length_map]
          by_cases fits : items.length = shapes.length
          · simp only [if_pos fits, follows]
          · simp only [if_neg fits, Walked.after_raise]
      | _ => simp only [walkForm, Form.map, Form.judge, Walked.after_raise]
  | record shape keys =>
      have follows := visitEach_follows (follow shape List.mem_cons_self) trail halt
      cases value with
      | record entries =>
          simp only [walkForm, Form.map, Form.judge, LengthBounds.admits_every]
          by_cases passes : keys.contains entries.length = true
          · simp only [passes, if_true, follows]
          · simp only [passes, Bool.false_eq_true, if_false, Walked.after_raise]
      | _ => simp only [walkForm, Form.map, Form.judge, Walked.after_raise]
  | union alternatives =>
      have some? : alternatives.map (fun shape => shape.judge .every mode (some value)) ≠ [] :=
        fun empty => proper (List.map_eq_nil_iff.mp empty)
      have tries := walkAlternatives_follows mode alternatives follow value trail
        (halt || mode == .synthesized) found
      have each : (alternatives.map fun shape =>
          (shape.judge .every mode (some value)).map (Finding.beneath trail)) =
          (alternatives.map fun shape => shape.judge .every mode (some value)).map
            (List.map (Finding.beneath trail)) := by
        rw [List.map_map]
        rfl
      have reports : (alternatives.map (Shape.judge .every mode)).map (· (some value)) =
          alternatives.map fun shape => shape.judge .every mode (some value) := by
        rw [List.map_map]
        rfl
      have count : alternatives.length =
          (alternatives.map fun shape => shape.judge .every mode (some value)).length := by
        rw [List.length_map]
      simp only [walkForm, Form.map, Form.judge, tries, each, any_isEmpty_beneath, reports]
      rw [count]
      generalize alternatives.map (fun shape => shape.judge .every mode (some value)) = all at *
      cases accepted : all.any List.isEmpty with
      | true =>
          simp only [if_true, shrink_append_all, Judgement.union, accepted, List.map_nil,
            Walked.after_nil]
      | false =>
          simp only [Bool.false_eq_true, if_false]
          exact closeUnion_follows mode some? accepted value trail halt found

/-- Every walk over a proper tree follows the judgement of the tree. -/
theorem walk_follows {shape : Shape} (proper : shape.Proper) :
    (walk mode shape).Follows (shape.judge .every mode) := by
  induction proper with
  | node header form own children inductionHypothesis =>
      intro value trail halt found
      rw [Shape.judge_node]
      simp only [walk, Judgement.gated]
      cases presence header.required header.nullable (Form.nullIsValue form) value with
      | missing => exact (Walked.after_raise .required value none trail halt found).symm
      | skip => exact (Walked.after_nil halt found).symm
      | check =>
          cases value with
          | none => exact (Walked.after_nil halt found).symm
          | some value => exact walkForm_follows mode own inductionHypothesis value trail halt found

end Conformance
