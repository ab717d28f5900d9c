import Conformance.Proofs.Program.Yield

namespace Conformance

/-!
# Unions on the machine

While a union is open the machine has one frame more than outside.  The frame
remembers how much had been found before the union; its other fields belong to the
alternative that is tried.  An alternative leaves for its closing operation whether
its scope halts or goes on, so every alternative comes out at one place.

An alternative that found nothing closes the union: the frame is gone, and what
alternatives before it had found is cut off.  Otherwise the findings of all
alternatives stand one after another when the closing operation of the union is
reached, and it reports what the mode asks for.
-/

namespace Machine

variable {program : Program} {earlyFail : Bool}

/-- A machine with one more frame. -/
def entered (machine : Machine) (frame : Frame) : Machine :=
  { machine with frames := frame :: machine.frames }

/-- A machine in a union that was opened in `outer`, with findings of its own. -/
def Inside (slots cursors : Nat) (halting synthesized : Bool) (outer : Machine)
    (findings : List Finding) (machine : Machine) : Prop :=
  ∃ alternativeMark closing,
    Extends slots cursors findings
      (outer.entered ⟨outer.found.size, alternativeMark, closing, halting, synthesized⟩) machine

/-- What the alternatives of a union do from some point on.  Either one accepts,
and the union is over, or all reports have been added to the earlier findings. -/
def Attempts (program : Program) (earlyFail : Bool) (steps start closing done slots cursors : Nat)
    (halting synthesized : Bool) (outer machine : Machine) (earlier : List Finding)
    (reports : List (List Finding)) : Prop :=
  ∃ count ≤ steps, ∃ last,
    if reports.any List.isEmpty then
      Trace program earlyFail count start machine last (some done) ∧
        Extends slots cursors [] outer last
    else
      Trace program earlyFail count start machine last (some closing) ∧
        Inside slots cursors halting synthesized outer (earlier ++ reports.flatMap (kept halting)) last

namespace Inside

variable {steps start closing done slots cursors : Nat} {halting synthesized : Bool}
  {outer machine : Machine} {findings report : List Finding}

theorem fits (inside : Inside slots cursors halting synthesized outer findings machine)
    (room : outer.Fits program) : machine.Fits program := by
  rcases inside with ⟨alternativeMark, closing, extended⟩
  exact extended.fits ⟨room.slots, room.cursors⟩

theorem value_eq (inside : Inside slots cursors halting synthesized outer findings machine)
    {slot : Nat} (low : slot < slots) : machine.value slot = outer.value slot := by
  rcases inside with ⟨alternativeMark, closing, extended⟩
  exact extended.value_eq low

theorem trail_eq (inside : Inside slots cursors halting synthesized outer findings machine)
    {slot : Nat} (low : slot < slots) :
    slotTrail machine.slots slot = slotTrail outer.slots slot := by
  rcases inside with ⟨alternativeMark, closing, extended⟩
  exact extended.trail_eq low

/-- A block runs in a frame of its own and always comes out at its closing
operation. -/
theorem run_block (inside : Inside slots cursors halting synthesized outer findings machine)
    (opens : program.ops[start]? = some (.openAlternative closing))
    (block : ∀ opened, Inside slots cursors halting synthesized outer findings opened →
      Yields program earlyFail steps (start + 1) closing slots cursors opened report) :
    ∃ count ≤ steps + 1, ∃ last,
      Trace program earlyFail count start machine last (some closing) ∧
        Extends slots cursors (findings ++ kept halting report)
          (outer.entered
            ⟨outer.found.size, outer.found.size + findings.length, closing, halting, synthesized⟩)
          last := by
  rcases inside with ⟨alternativeMark, oldClosing, extended⟩
  have mark : machine.found.size = outer.found.size + findings.length := extended.found_size
  let frame : Frame := ⟨outer.found.size, machine.found.size, closing, halting, synthesized⟩
  let opened : Machine := { machine with frames := frame :: outer.frames }
  have executed : machine.execute program earlyFail start (.openAlternative closing) =
      (opened, some (start + 1)) := by
    simp only [execute, extended.frames_eq]
    rfl
  have openedExtends : Extends slots cursors findings (outer.entered frame) opened :=
    ⟨extended.slots_size, extended.cursors_size, extended.slots_eq, extended.cursors_eq, rfl,
      extended.found_eq⟩
  rcases block opened ⟨machine.found.size, closing, openedExtends⟩ with
    ⟨count, bound, last, trace, lastExtends⟩
  have exits : opened.exit earlyFail closing report = some closing := by
    rw [exit]
    cases halting <;> cases report <;> rfl
  have halts : opened.halts earlyFail = halting := rfl
  rw [exits] at trace
  rw [halts] at lastExtends
  rw [← mark]
  exact ⟨count + 1, Nat.succ_le_succ bound, last, .step opens executed trace,
    openedExtends.trans lastExtends⟩

/-- A block that found nothing closes the union. -/
theorem close_accepting {last : Machine}
    (extended : Extends slots cursors findings
      (outer.entered
        ⟨outer.found.size, outer.found.size + findings.length, closing, halting, synthesized⟩) last)
    (closes : program.ops[closing]? = some (.closeAlternative done)) :
    ∃ closed, Trace program earlyFail 1 closing last closed (some done) ∧
      Extends slots cursors [] outer closed := by
  let closed : Machine :=
    { last with frames := outer.frames, found := last.found.shrink outer.found.size }
  have cut : closed.found = outer.found := by
    simp [closed, extended.found_eq, entered]
  have same : last.found.size = outer.found.size + findings.length := extended.found_size
  refine ⟨closed, .single closes ?_, ?_⟩
  · simp only [execute, extended.frames_eq, entered, if_pos same]
    rfl
  · exact ⟨extended.slots_size, extended.cursors_size, extended.slots_eq, extended.cursors_eq, rfl,
      by simpa using cut⟩

/-- A block that found something leaves the union open. -/
theorem close_rejecting {last : Machine}
    (extended : Extends slots cursors (findings ++ kept halting report)
      (outer.entered
        ⟨outer.found.size, outer.found.size + findings.length, closing, halting, synthesized⟩) last)
    (closes : program.ops[closing]? = some (.closeAlternative done)) (something : report ≠ []) :
    Trace program earlyFail 1 closing last last (some (closing + 1)) := by
  have more : ¬ last.found.size = outer.found.size + findings.length := by
    have nonempty : 0 < (kept halting report).length :=
      List.length_pos_iff.mpr fun empty => something ((kept_eq_nil_iff halting report).mp empty)
    have size : last.found.size = outer.found.size + (findings ++ kept halting report).length :=
      extended.found_size
    rw [List.length_append] at size
    omega
  refine .single closes ?_
  simp only [execute, extended.frames_eq, entered, if_neg more]

end Inside

namespace Attempts

variable {steps more start middle closing done slots cursors : Nat} {halting synthesized : Bool}
  {outer machine : Machine} {earlier report : List Finding} {reports : List (List Finding)}

theorem nil (inside : Inside slots cursors halting synthesized outer earlier machine) :
    Attempts program earlyFail 0 closing closing done slots cursors halting synthesized outer machine
      earlier [] := by
  refine ⟨0, Nat.le_refl 0, machine, .rest closing machine, ?_⟩
  rw [List.flatMap_nil, List.append_nil]
  exact inside

theorem mono (bound : steps ≤ more)
    (attempts : Attempts program earlyFail steps start closing done slots cursors halting synthesized
      outer machine earlier reports) :
    Attempts program earlyFail more start closing done slots cursors halting synthesized outer machine
      earlier reports := by
  rcases attempts with ⟨count, low, last, outcome⟩
  exact ⟨count, Nat.le_trans low bound, last, outcome⟩

/-- One alternative and those after it. -/
theorem cons (inside : Inside slots cursors halting synthesized outer earlier machine)
    (opens : program.ops[start]? = some (.openAlternative middle))
    (closes : program.ops[middle]? = some (.closeAlternative done))
    (block : ∀ opened, Inside slots cursors halting synthesized outer earlier opened →
      Yields program earlyFail steps (start + 1) middle slots cursors opened report)
    (others : ∀ last,
      Inside slots cursors halting synthesized outer (earlier ++ kept halting report) last →
      Attempts program earlyFail more (middle + 1) closing done slots cursors halting synthesized outer
        last (earlier ++ kept halting report) reports) :
    Attempts program earlyFail (steps + 2 + more) start closing done slots cursors halting synthesized
      outer machine earlier (report :: reports) := by
  rcases inside.run_block opens block with ⟨count, bound, last, trace, extended⟩
  by_cases accepted : report = []
  · rw [accepted, kept_nil, List.append_nil] at extended
    rcases Inside.close_accepting extended closes with ⟨closed, closingTrace, closedExtends⟩
    refine ⟨1 + count, by omega, closed, ?_⟩
    rw [accepted, List.any_cons, List.isEmpty_nil, Bool.true_or, if_pos rfl]
    exact ⟨trace.append closingTrace, closedExtends⟩
  · have closingTrace : Trace program earlyFail 1 middle last last (some (middle + 1)) :=
      Inside.close_rejecting extended closes accepted
    rcases others last ⟨_, _, extended⟩ with ⟨further, boundMore, final, outcome⟩
    refine ⟨further + (1 + count), by omega, final, ?_⟩
    have nonempty : report.isEmpty = false := List.isEmpty_eq_false_iff.mpr accepted
    rw [List.any_cons, nonempty, Bool.false_or, List.flatMap_cons, ← List.append_assoc]
    have start := trace.append closingTrace
    cases rest : reports.any List.isEmpty with
    | true =>
        simp only [rest, if_true] at outcome ⊢
        exact ⟨start.append outcome.1, outcome.2⟩
    | false =>
        simp only [rest, Bool.false_eq_true, if_false] at outcome ⊢
        exact ⟨start.append outcome.1, outcome.2⟩

end Attempts

/-! ## The union as a whole -/

section

variable {closing slot mismatch slots cursors : Nat} {halting : Bool} {outer last : Machine}
  {found : List Finding}

/-- A union that speaks for itself drops what its alternatives found. -/
theorem Inside.close_synthesized {template : Template}
    (inside : Inside slots cursors halting true outer found last)
    (closes : program.ops[closing]? = some (.closeUnion slot mismatch))
    (stored : program.templates[mismatch]? = some template) (low : slot < slots) :
    ∃ closed,
      Trace program earlyFail 1 closing last closed (outer.afterFinding earlyFail (closing + 1)) ∧
        Extends slots cursors (kept (outer.halts earlyFail)
          ([template.here (outer.value slot) none].map
            (Finding.beneath (slotTrail outer.slots slot)))) outer closed := by
  rcases inside with ⟨alternativeMark, oldClosing, extended⟩
  let cut : Machine :=
    { last with frames := outer.frames, found := last.found.shrink outer.found.size }
  have cutExtends : Extends slots cursors [] outer cut :=
    ⟨extended.slots_size, extended.cursors_size, extended.slots_eq, extended.cursors_eq, rfl,
      by simp [cut, extended.found_eq, entered]⟩
  refine ⟨cut.raise program mismatch slot none, .once closes ?_, ?_⟩
  · have goesOn : (cut.raise program mismatch slot none).afterFinding earlyFail (closing + 1) =
        outer.afterFinding earlyFail (closing + 1) :=
      (raise_afterFinding stored slot none (closing + 1)).trans
        (cutExtends.afterFinding_eq earlyFail (closing + 1))
    simp only [execute, extended.frames_eq, entered, if_true]
    rw [← goesOn]
    rfl
  · have raised := raise_extends earlyFail slots cursors cut stored slot none
    rw [cutExtends.halts_eq, cutExtends.value_eq low, cutExtends.trail_eq low] at raised
    exact cutExtends.trans raised

/-- A union that lets its alternatives speak keeps what its scope keeps of them. -/
theorem Inside.close_all
    (inside : Inside slots cursors (outer.halts earlyFail) false outer found last)
    (closes : program.ops[closing]? = some (.closeUnion slot mismatch)) :
    ∃ closed,
      Trace program earlyFail 1 closing last closed (outer.afterFinding earlyFail (closing + 1)) ∧
        Extends slots cursors (kept (outer.halts earlyFail) found) outer closed := by
  rcases inside with ⟨alternativeMark, oldClosing, extended⟩
  let popped : Machine := { last with frames := outer.frames }
  have halts : popped.halts earlyFail = outer.halts earlyFail := rfl
  cases halting : outer.halts earlyFail with
  | true =>
      let cut : Machine := { popped with found := last.found.shrink (outer.found.size + 1) }
      refine ⟨cut, .once closes ?_, ?_⟩
      · simp only [execute, extended.frames_eq, entered, Bool.false_eq_true, if_false]
        rw [if_pos (halts.trans halting)]
        rfl
      · refine ⟨extended.slots_size, extended.cursors_size, extended.slots_eq, extended.cursors_eq,
          rfl, ?_⟩
        have cutFound : cut.found = (outer.found ++ found.toArray).shrink (outer.found.size + 1) :=
          congrArg (·.shrink (outer.found.size + 1)) extended.found_eq
        rw [cutFound, shrink_append, kept_true]
  | false =>
      refine ⟨popped, .once closes ?_, ?_⟩
      · have runsOn : ¬ popped.halts earlyFail = true := by
          rw [halts, halting]
          exact Bool.false_ne_true
        simp only [execute, extended.frames_eq, entered, Bool.false_eq_true, if_false]
        rw [if_neg runsOn, afterFinding_of_goes_on halting]
      · exact ⟨extended.slots_size, extended.cursors_size, extended.slots_eq, extended.cursors_eq,
          rfl, extended.found_eq⟩

end

/-- A union yields what its judgement says, from what its alternatives yield. -/
theorem Yields.union {mode : UnionMode} {steps start closing slot mismatch slots cursors : Nat}
    {machine : Machine} {value : Value} {reports : List (List Finding)}
    (opens : program.ops[start]? = some (.openUnion (mode == .synthesized)))
    (closes : program.ops[closing]? = some (.closeUnion slot mismatch))
    (stored : program.templates[mismatch]? = some (.unionMismatch reports.length))
    (holds : machine.value slot = some value) (low : slot < slots) (some? : reports ≠ [])
    (attempts : ∀ opened,
      Inside slots cursors ((mode == .synthesized) || machine.halts earlyFail) (mode == .synthesized)
        machine [] opened →
      Attempts program earlyFail steps (start + 1) closing (closing + 1) slots cursors
        ((mode == .synthesized) || machine.halts earlyFail) (mode == .synthesized) machine opened []
        (reports.map (List.map (Finding.beneath (slotTrail machine.slots slot))))) :
    Yields program earlyFail (steps + 2) start (closing + 1) slots cursors machine
      ((Judgement.union mode value reports).map (Finding.beneath (slotTrail machine.slots slot))) := by
  let halting := (mode == .synthesized) || machine.halts earlyFail
  let opened := machine.entered
    ⟨machine.found.size, machine.found.size, start, halting, mode == .synthesized⟩
  have inside : Inside slots cursors halting (mode == .synthesized) machine [] opened :=
    ⟨machine.found.size, start, .refl slots cursors opened⟩
  rcases attempts opened inside with ⟨count, bound, last, outcome⟩
  rw [any_isEmpty_beneath] at outcome
  have openTrace : Trace program earlyFail 1 start machine opened (some (start + 1)) :=
    .single opens rfl
  cases accepted : reports.any List.isEmpty with
  | true =>
      simp only [accepted, if_true] at outcome
      have nothing : Judgement.union mode value reports = [] := by
        simp only [Judgement.union, accepted, if_true]
      rw [nothing, List.map_nil]
      refine ⟨count + 1, by omega, last, openTrace.append outcome.1, ?_⟩
      rw [kept_nil]
      exact outcome.2
  | false =>
      simp only [accepted, Bool.false_eq_true, if_false, List.nil_append] at outcome
      have tried := openTrace.append outcome.1
      simp only [Judgement.union, accepted, Bool.false_eq_true, if_false]
      cases mode with
      | synthesized =>
          rcases Inside.close_synthesized outcome.2 closes stored low with ⟨closed, trace, extended⟩
          rw [holds] at extended
          exact ⟨1 + (count + 1), by omega, closed, tried.append trace, extended⟩
      | all =>
          rcases Inside.close_all outcome.2 closes with ⟨closed, trace, extended⟩
          have something : reports.flatten.map (Finding.beneath (slotTrail machine.slots slot)) ≠ [] :=
            fun empty => flatten_ne_nil some? accepted (List.map_eq_nil_iff.mp empty)
          refine ⟨1 + (count + 1), by omega, closed, ?_, ?_⟩
          · rw [exit_of_ne_nil machine _ something]
            exact tried.append trace
          · rw [List.map_flatten]
            have rejected := (any_isEmpty_beneath (slotTrail machine.slots slot) reports).trans accepted
            rw [← kept_flatMap_kept (machine.halts earlyFail) rejected]
            exact extended

end Machine
end Conformance
