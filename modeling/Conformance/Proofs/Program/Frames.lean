import Conformance.Proofs.Program.Nesting
import Conformance.Proofs.Program.Operands
import Conformance.Proofs.Program.Simulation

namespace Conformance

/-!
# Frames follow scopes

A machine has one frame for every scope of the position it has come to.  This is what
one operation preserves in a program whose operations use indices in range and are
placed in their scopes.

An operation that opens and closes nothing leaves the frames alone, and what else it
can do is said once for all such operations.  The other four operations are those that
change frames and scopes alike.

The counts of findings that frames remember grow from the outermost frame to the
innermost.  This is why they stay below the count of findings even when an accepting
alternative takes findings back: only those of its own union are lost.
-/

namespace Machine

variable {program : Program} {earlyFail : Bool} {position : Nat}

/-! ## Operations that open and close nothing -/

/-- What an operation that opens and closes nothing can do: it adds findings and writes
the slot of its link, and then leads to one of two places, or wherever a finding there
leads. -/
structure Advances (earlyFail : Bool) (position : Nat) (op : Op) (before after : Machine)
    (exit : Option Nat) : Prop where
  slots_size : after.slots.size = before.slots.size
  cursors_size : after.cursors.size = before.cursors.size
  frames_eq : after.frames = before.frames
  found_le : before.found.size ≤ after.found.size
  links : ∀ (slot : Nat) (entry : Slot), after.slots[slot]? = some entry →
    before.slots[slot]? = some entry ∨
      ∃ source segment, op.link? = some (source, slot) ∧ entry.link = some (source, segment)
  leads : ∃ next, (next = position + 1 ∨ op.target? = some next) ∧
    (exit = some next ∨ exit = before.afterFinding earlyFail next)

/-- A finding changes nothing but the findings. -/
theorem raise_eq (program : Program) (machine : Machine) (template slot : Nat) (count : Option Nat) :
    ∃ found, machine.raise program template slot count = { machine with found := found } ∧
      machine.found.size ≤ found.size := by
  rw [raise]
  cases program.templates[template]? with
  | none => exact ⟨machine.found, rfl, Nat.le_refl _⟩
  | some template =>
      refine ⟨_, rfl, ?_⟩
      rw [Array.size_push]
      exact Nat.le_succ _

namespace Advances

variable {op : Op} {machine : Machine} {next : Nat}

theorem silent (leads : next = position + 1 ∨ op.target? = some next) :
    Advances earlyFail position op machine machine (some next) :=
  ⟨rfl, rfl, rfl, Nat.le_refl _, fun _ _ listed => .inl listed, next, leads, .inl rfl⟩

theorem fail (template slot : Nat) (count : Option Nat)
    (leads : next = position + 1 ∨ op.target? = some next) :
    Advances earlyFail position op machine
      (machine.fail program earlyFail template slot count next).1
      (machine.fail program earlyFail template slot count next).2 := by
  rcases raise_eq program machine template slot count with ⟨found, raised, more⟩
  rw [Machine.fail, raised]
  exact ⟨rfl, rfl, rfl, more, fun _ _ listed => .inl listed, next, leads, .inr rfl⟩

theorem begin (cursor : Nat) (values : List (Segment × Value)) :
    Advances earlyFail position op machine (machine.begin cursor values) (some (position + 1)) :=
  ⟨rfl, Array.size_setIfInBounds, rfl, Nat.le_refl _, fun _ _ listed => .inl listed, position + 1,
    .inl rfl, .inl rfl⟩

/-- Loading writes one slot, and nothing else is written by then. -/
theorem load {prepared : Machine} {source target : Nat}
    (before : Advances earlyFail position op machine prepared (some (position + 1)))
    (linked : op.link? = some (source, target)) (value : Option Value) (segment : Segment) :
    Advances earlyFail position op machine (prepared.load target value source segment)
      (some (position + 1)) where
  slots_size := Array.size_setIfInBounds.trans before.slots_size
  cursors_size := before.cursors_size
  frames_eq := before.frames_eq
  found_le := before.found_le
  links slot entry listed := by
    rw [Machine.load, Array.getElem?_setIfInBounds] at listed
    by_cases here : target = slot
    · rw [if_pos here] at listed
      split at listed
      · cases listed
        exact .inr ⟨source, segment, here ▸ linked, rfl⟩
      · cases listed
    · rw [if_neg here] at listed
      exact before.links slot entry listed
  leads := before.leads

end Advances

theorem execute_advances (program : Program) (earlyFail : Bool) (position : Nat) (machine : Machine)
    {op : Op} (plain : op.isPlain = true) :
    Advances earlyFail position op machine (machine.execute program earlyFail position op).1
      (machine.execute program earlyFail position op).2 := by
  cases op with
  | gate slot required nullable nullIsValue missing skip =>
      simp only [execute]
      cases presence required nullable nullIsValue (machine.value slot) with
      | check => exact .silent (.inl rfl)
      | skip => exact .silent (.inr rfl)
      | missing => exact .fail missing slot none (.inr rfl)
  | test slot test wrongType constraint =>
      simp only [execute]
      split
      · exact .silent (.inl rfl)
      · split
        · exact .fail _ slot _ (.inl rfl)
        · exact .silent (.inl rfl)
  | object slot notObject skip =>
      simp only [execute]
      split
      · exact .silent (.inl rfl)
      · exact .fail notObject slot none (.inr rfl)
  | array slot notArray length skip =>
      simp only [execute]
      split
      · split
        · exact .fail _ slot _ (.inr rfl)
        · exact .silent (.inl rfl)
      · exact .fail notArray slot none (.inr rfl)
  | tuple slot notArray arity wrongLength skip =>
      simp only [execute]
      split
      · split
        · exact .silent (.inl rfl)
        · exact .fail wrongLength slot _ (.inr rfl)
      · exact .fail notArray slot none (.inr rfl)
  | record slot notObject keys skip =>
      simp only [execute]
      split
      · split
        · exact .fail _ slot _ (.inr rfl)
        · exact .silent (.inl rfl)
      · exact .fail notObject slot none (.inr rfl)
  | field source target name => exact .load (.silent (.inl rfl)) rfl _ _
  | element source target index => exact .load (.silent (.inl rfl)) rfl _ _
  | items source cursor => exact .begin cursor _
  | entries source cursor => exact .begin cursor _
  | next source cursor target done =>
      simp only [execute]
      split
      · exact .load (.begin cursor _) rfl _ _
      · exact .silent (.inr rfl)
  | jump target => exact .silent (.inr rfl)
  | openUnion synthesized => cases plain
  | openAlternative closing => cases plain
  | closeAlternative done => cases plain
  | closeUnion slot mismatch => cases plain

/-! ## Frames and scopes -/

/-- A frame that was pushed, and the position of the operation that pushed it. -/
structure Push where
  opening : Nat
  frame : Frame

/-- A frame that is still the one that was pushed, set for another alternative perhaps. -/
structure Continues (origin frame : Frame) : Prop where
  mark : frame.mark = origin.mark
  halts : frame.halts = origin.halts
  synthesized : frame.synthesized = origin.synthesized

/-- What is pushed after an operation at a position, as the frames before and after it
tell: what is on top of the former frames was pushed there. -/
def pushesAfter (position : Nat) (before after : List Frame) (pushes : List Push) : List Push :=
  (after.take (after.length - before.length)).map (Push.mk position) ++
    pushes.drop (before.length - after.length)

theorem pushesAfter_same {before after : List Frame} (same : after.length = before.length)
    (pushes : List Push) : pushesAfter position before after pushes = pushes := by
  rw [pushesAfter, same, Nat.sub_self, List.take_zero, List.map_nil, List.nil_append, List.drop_zero]

theorem pushesAfter_push (frame : Frame) (frames : List Frame) (pushes : List Push) :
    pushesAfter position frames (frame :: frames) pushes = ⟨position, frame⟩ :: pushes := by
  have one : (frame :: frames).length - frames.length = 1 := Nat.add_sub_cancel_left _ 1
  have none : frames.length - (frame :: frames).length = 0 := Nat.sub_eq_zero_of_le (Nat.le_succ _)
  rw [pushesAfter, one, none]
  rfl

theorem pushesAfter_pop (frame : Frame) (frames : List Frame) (push : Push) (pushes : List Push) :
    pushesAfter position (frame :: frames) frames (push :: pushes) = pushes := by
  have one : (frame :: frames).length - frames.length = 1 := Nat.add_sub_cancel_left _ 1
  have none : frames.length - (frame :: frames).length = 0 := Nat.sub_eq_zero_of_le (Nat.le_succ _)
  rw [pushesAfter, one, none]
  rfl

/-- Frames that belong to scopes: each was pushed where its scope was opened and knows
where its alternative is closed, and the counts of findings that the frames remember
grow from the outermost to the innermost and further to the present count. -/
inductive Stacked : Nat → List Frame → List Scope → List Push → Prop where
  | nil (count : Nat) : Stacked count [] [] []
  | cons {count : Nat} {frame : Frame} {frames : List Frame} {scope : Scope} {outer : List Scope}
      {push : Push} {pushes : List Push} (opened : push.opening = scope.opening)
      (continues : Continues push.frame frame)
      (closing : ∀ place ∈ scope.closing, frame.closing = place)
      (begun : frame.mark ≤ frame.alternativeMark) (counted : frame.alternativeMark ≤ count)
      (below : Stacked frame.mark frames outer pushes) :
      Stacked count (frame :: frames) (scope :: outer) (push :: pushes)

section

variable {count : Nat} {frames : List Frame} {scopes : List Scope} {pushes : List Push}

theorem Stacked.mono {more : Nat} (stacked : Stacked count frames scopes pushes)
    (grows : count ≤ more) : Stacked more frames scopes pushes := by
  cases stacked with
  | nil => exact .nil more
  | cons opened continues closing begun counted below =>
      exact .cons opened continues closing begun (Nat.le_trans counted grows) below

theorem Stacked.length_eq (stacked : Stacked count frames scopes pushes) :
    frames.length = scopes.length := by
  induction stacked with
  | nil => rfl
  | cons opened continues closing begun counted below inductionHypothesis =>
      rw [List.length_cons, List.length_cons, inductionHypothesis]

theorem Stacked.map_opening (stacked : Stacked count frames scopes pushes) :
    pushes.map Push.opening = scopes.map Scope.opening := by
  induction stacked with
  | nil => rfl
  | cons opened continues closing begun counted below inductionHypothesis =>
      rw [List.map_cons, List.map_cons, opened, inductionHypothesis]

/-- Inside of a scope there is a frame on top. -/
theorem Stacked.top {scope : Scope} (stacked : Stacked count frames (scope :: scopes) pushes) :
    ∃ frame others push earlier, frames = frame :: others ∧ pushes = push :: earlier ∧
      push.opening = scope.opening ∧ Continues push.frame frame ∧
      frame.mark ≤ frame.alternativeMark ∧ frame.alternativeMark ≤ count ∧
      Stacked frame.mark others scopes earlier := by
  cases stacked with
  | cons opened continues closing begun counted below =>
      exact ⟨_, _, _, _, rfl, rfl, opened, continues, begun, counted, below⟩

/-- A finding leads to the end of the innermost alternative, on to the next position,
or nowhere if no union is open. -/
theorem Stacked.afterFinding {machine : Machine} {next : Nat}
    (stacked : Stacked count machine.frames scopes pushes) (escapes : program.Escapes scopes)
    (flows : program.Flows scopes next) :
    (∀ reached ∈ machine.afterFinding earlyFail next, program.Flows scopes reached) ∧
      (machine.afterFinding earlyFail next = none → machine.frames = []) := by
  rw [Machine.afterFinding]
  generalize machine.frames = frames at stacked
  cases stacked with
  | nil =>
      refine ⟨fun reached leads => ?_, fun _ => rfl⟩
      cases earlyFail with
      | true => cases leads
      | false =>
          cases leads
          exact flows
  | @cons _ frame _ scope _ _ _ opened continues closing begun counted below =>
      refine ⟨fun reached leads => ?_, fun nowhere => absurd nowhere (Option.some_ne_none _)⟩
      rcases escapes scope rfl with ⟨place, ends, ended⟩
      cases halting : frame.halts with
      | true =>
          simp only [halting, if_true] at leads
          cases leads
          exact (closing place ends) ▸ ended
      | false =>
          simp only [halting, Bool.false_eq_true, if_false] at leads
          cases leads
          exact flows

end

/-! ## The invariant -/

/-- Values were taken from earlier slots than those they stand in. -/
def Linked (slots : Array Slot) : Prop :=
  ∀ (slot : Nat) (entry : Slot), slots[slot]? = some entry → ∀ link ∈ entry.link, link.1 < slot

theorem Advances.linked {op : Op} {before after : Machine} {exit : Option Nat}
    (advances : Advances earlyFail position op before after exit) (forward : op.Forward)
    (linked : Linked before.slots) : Linked after.slots := by
  intro slot entry listed link taken
  rcases advances.links slot entry listed with old | ⟨source, segment, written, newer⟩
  · exact linked slot entry old link taken
  · rw [newer] at taken
    cases taken
    exact forward _ written

/-- What holds of a machine at a position, with the frames as they were pushed. -/
structure Invariant (program : Program) (position : Nat) (machine : Machine) (pushes : List Push) :
    Prop where
  position_le : position ≤ program.size
  fits : machine.Fits program
  linked : Linked machine.slots
  stacked : Stacked machine.found.size machine.frames (program.scopes position) pushes

/-- What an operation leads to: the invariant holds where it goes on, and no union is
open if it ends the run. -/
structure Proceeds (program : Program) (position : Nat) (pushes : List Push) (before after : Machine)
    (exit : Option Nat) : Prop where
  goesOn : ∀ next ∈ exit,
    Invariant program next after (pushesAfter position before.frames after.frames pushes)
  ends : exit = none → after.frames = []

theorem flows_succ {op : Op} (fetched : program.ops[position]? = some op) :
    program.Flows (op.scopesAfter position (program.scopes position)) (position + 1) :=
  ⟨(Array.getElem?_eq_some_iff.mp fetched).1, Program.scopes_succ fetched⟩

/-- Proceeding to one place. -/
theorem Proceeds.goOn {pushes : List Push} {before after : Machine} {next : Nat}
    (invariant : Invariant program next after (pushesAfter position before.frames after.frames pushes)) :
    Proceeds program position pushes before after (some next) where
  goesOn reached leads := by
    cases leads
    exact invariant
  ends nowhere := nomatch nowhere

/-- Proceeding to wherever a finding leads. -/
theorem Proceeds.afterFinding {pushes later : List Push} {before middle after : Machine} {next : Nat}
    {scopes : List Scope} (frames_eq : after.frames = middle.frames)
    (stacked : Stacked after.found.size middle.frames scopes later) (escapes : program.Escapes scopes)
    (flows : program.Flows scopes next)
    (invariant : ∀ reached, program.Flows scopes reached →
      Invariant program reached after (pushesAfter position before.frames after.frames pushes)) :
    Proceeds program position pushes before after (middle.afterFinding earlyFail next) := by
  rcases stacked.afterFinding escapes flows with ⟨onward, nowhere⟩
  exact ⟨fun reached leads => invariant reached (onward reached leads),
    fun none => frames_eq.trans (nowhere none)⟩

section

variable {pushes : List Push} {machine : Machine} (invariant : Invariant program position machine pushes)

include invariant

/-- An operation that opens and closes nothing stays in the scopes it is in. -/
theorem Invariant.plain {op : Op} (fetched : program.ops[position]? = some op) (forward : op.Forward)
    (plain : op.isPlain = true) (escapes : program.Escapes (program.scopes position))
    (targets : ∀ target ∈ op.target?, program.Flows (program.scopes position) target) :
    Proceeds program position pushes machine (machine.execute program earlyFail position op).1
      (machine.execute program earlyFail position op).2 := by
  have advances := execute_advances program earlyFail position machine plain
  generalize (machine.execute program earlyFail position op).1 = after at advances
  have stacked : Stacked after.found.size machine.frames (program.scopes position) pushes :=
    invariant.stacked.mono advances.found_le
  have preserved : ∀ reached, program.Flows (program.scopes position) reached →
      Invariant program reached after (pushesAfter position machine.frames after.frames pushes) := by
    intro reached flows
    refine ⟨flows.1, ⟨?slots, ?cursors⟩, advances.linked forward invariant.linked, ?stacked⟩
    case slots =>
      rw [advances.slots_size]
      exact invariant.fits.slots
    case cursors =>
      rw [advances.cursors_size]
      exact invariant.fits.cursors
    case stacked =>
      rw [pushesAfter_same (congrArg List.length advances.frames_eq), flows.2, advances.frames_eq]
      exact stacked
  -- Both places where the operation can lead have the scopes of its position, and a
  -- finding leads to one of them or to the end of the alternative.
  rcases advances.leads with ⟨next, place, exit⟩
  have flows : program.Flows (program.scopes position) next := by
    rcases place with straight | jumps
    · have behind := flows_succ fetched
      rw [Op.scopesAfter_of_plain plain, ← straight] at behind
      exact behind
    · exact targets next jumps
  rcases exit with silent | found
  · rw [silent]
    exact .goOn (preserved next flows)
  · rw [found]
    exact .afterFinding advances.frames_eq stacked escapes flows preserved

/-- Opening and closing touches neither slots nor cursors. -/
theorem Invariant.reframe {next : Nat} {after : Machine} {scopes : List Scope} {later : List Push}
    (slots_eq : after.slots = machine.slots) (cursors_eq : after.cursors = machine.cursors)
    (flows : program.Flows scopes next)
    (stacked : Stacked after.found.size after.frames scopes later) :
    Invariant program next after later where
  position_le := flows.1
  fits := by
    constructor
    · rw [slots_eq]
      exact invariant.fits.slots
    · rw [cursors_eq]
      exact invariant.fits.cursors
  linked := slots_eq ▸ invariant.linked
  stacked := flows.2 ▸ stacked

/-- A union is opened with a frame that remembers how many findings there are. -/
theorem Invariant.openUnion {synthesized : Bool}
    (fetched : program.ops[position]? = some (.openUnion synthesized)) :
    Proceeds program position pushes machine
      (machine.execute program earlyFail position (.openUnion synthesized)).1
      (machine.execute program earlyFail position (.openUnion synthesized)).2 := by
  refine .goOn (invariant.reframe rfl rfl (flows_succ fetched) ?_)
  simp only [execute, pushesAfter_push]
  exact .cons rfl ⟨rfl, rfl, rfl⟩ (fun place ends => absurd ends (Option.not_mem_none place))
    (Nat.le_refl _) (Nat.le_refl _) invariant.stacked

/-- A frame is set anew for every alternative of its union. -/
theorem Invariant.openAlternative {closing : Nat} {scope : Scope} {outer : List Scope}
    (fetched : program.ops[position]? = some (.openAlternative closing))
    (inside : program.scopes position = scope :: outer) :
    Proceeds program position pushes machine
      (machine.execute program earlyFail position (.openAlternative closing)).1
      (machine.execute program earlyFail position (.openAlternative closing)).2 := by
  rcases (inside ▸ invariant.stacked).top with
    ⟨frame, frames, push, earlier, framesEq, pushesEq, opened, continues, begun, counted, below⟩
  have flows := flows_succ fetched
  rw [inside] at flows
  let entered : Frame := { frame with alternativeMark := machine.found.size, closing := closing }
  have stacked : Stacked machine.found.size (entered :: frames) (⟨scope.opening, some closing⟩ :: outer)
      (pushesAfter position (frame :: frames) (entered :: frames) (push :: earlier)) := by
    have same : (entered :: frames).length = (frame :: frames).length := rfl
    rw [pushesAfter_same same]
    refine .cons opened ⟨continues.mark, continues.halts, continues.synthesized⟩
      (fun place ends => ?_) (Nat.le_trans begun counted) (Nat.le_refl _) below
    cases ends
    rfl
  simp only [execute, framesEq]
  refine .goOn (invariant.reframe rfl rfl flows ?_)
  rw [framesEq, pushesEq]
  exact stacked

/-- An alternative that found nothing closes its union and takes back what was found in
the union before it.  Any other alternative leaves the union open. -/
theorem Invariant.closeAlternative {done : Nat} {scope : Scope} {outer : List Scope}
    (fetched : program.ops[position]? = some (.closeAlternative done))
    (inside : program.scopes position = scope :: outer) (leaves : program.Flows outer done) :
    Proceeds program position pushes machine
      (machine.execute program earlyFail position (.closeAlternative done)).1
      (machine.execute program earlyFail position (.closeAlternative done)).2 := by
  rcases (inside ▸ invariant.stacked).top with
    ⟨frame, frames, push, earlier, framesEq, pushesEq, opened, continues, begun, counted, below⟩
  simp only [execute, framesEq]
  by_cases accepts : machine.found.size = frame.alternativeMark
  · rw [if_pos accepts]
    refine .goOn (invariant.reframe rfl rfl leaves ?_)
    rw [framesEq, pushesEq, pushesAfter_pop]
    refine below.mono ?_
    rw [Array.size_shrink]
    exact Nat.le_min.mpr ⟨Nat.le_refl _, Nat.le_trans begun counted⟩
  · rw [if_neg accepts]
    have flows := flows_succ fetched
    rw [inside] at flows
    refine .goOn (invariant.reframe rfl rfl flows ?_)
    rw [framesEq, pushesEq, pushesAfter_same rfl]
    exact .cons opened continues (fun place ends => absurd ends (Option.not_mem_none place)) begun
      counted below

/-- A union that is closed reports in the scope around it. -/
theorem Invariant.closeUnion {slot mismatch : Nat} {scope : Scope} {outer : List Scope}
    (fetched : program.ops[position]? = some (.closeUnion slot mismatch))
    (inside : program.scopes position = scope :: outer) (escapes : program.Escapes outer) :
    Proceeds program position pushes machine
      (machine.execute program earlyFail position (.closeUnion slot mismatch)).1
      (machine.execute program earlyFail position (.closeUnion slot mismatch)).2 := by
  rcases (inside ▸ invariant.stacked).top with
    ⟨frame, frames, push, earlier, framesEq, pushesEq, opened, continues, begun, counted, below⟩
  have flows := flows_succ fetched
  rw [inside] at flows
  have marked : frame.mark ≤ machine.found.size := Nat.le_trans begun counted
  -- However the union reports, the findings that the frames around it count on stay.
  have preserved : ∀ found : Array Finding, frame.mark ≤ found.size →
      ∀ reached, program.Flows outer reached →
        Invariant program reached { machine with frames := frames, found := found }
          (pushesAfter position machine.frames frames pushes) := by
    intro found kept reached leads
    rw [framesEq, pushesEq, pushesAfter_pop]
    exact invariant.reframe rfl rfl leads (below.mono kept)
  simp only [execute, framesEq]
  cases frame.synthesized with
  | true =>
      have cut : frame.mark ≤ (machine.found.shrink frame.mark).size := by
        rw [Array.size_shrink]
        exact Nat.le_min.mpr ⟨Nat.le_refl _, marked⟩
      rcases raise_eq program
        { machine with frames := frames, found := machine.found.shrink frame.mark } mismatch slot none
        with ⟨found, raised, more⟩
      have kept := Nat.le_trans cut more
      rw [if_pos rfl, fail, raised]
      exact .afterFinding rfl (below.mono kept) escapes flows (preserved found kept)
  | false =>
      rw [if_neg Bool.false_ne_true]
      cases halts earlyFail { machine with frames := frames } with
      | true =>
          have kept : frame.mark ≤ (machine.found.shrink (frame.mark + 1)).size := by
            rw [Array.size_shrink]
            exact Nat.le_min.mpr ⟨Nat.le_succ _, marked⟩
          exact .afterFinding rfl (below.mono kept) escapes flows (preserved _ kept)
      | false => exact .goOn (preserved machine.found marked (position + 1) flows)

end
end Machine
end Conformance
