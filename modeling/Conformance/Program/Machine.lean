import Conformance.Check.Walk
import Conformance.Program.Operation

namespace Conformance

/-!
# Machine

The machine runs a program on a value.  A slot remembers the slot its value was
taken from and the step that leads there, so the place of a failure is read off
the slots when the failure is raised.

Every open union has a frame.  The frame tells how many findings there were when
the union and its current alternative began, where the alternative is closed, and
whether a finding ends it.  A finding outside of all unions ends the whole run if
the first failure is all that is asked for.

An operation answers where to go on, or nothing if the run is over.  A run is
bounded by a number of steps.  `Program.bound` is enough for every assembled
program: an operation runs at most once per part of the value, and the one that
ends a loop once more for every run of the loop.
-/

/-- A value in use.  The link tells where it was taken from. -/
structure Slot where
  value : Option Value
  link : Option (Nat × Segment)

/-- An open union. -/
structure Frame where
  mark : Nat
  alternativeMark : Nat
  closing : Nat
  halts : Bool
  synthesized : Bool
deriving DecidableEq, Repr

/-- The state of a run. -/
structure Machine where
  slots : Array Slot
  cursors : Array (List (Segment × Value))
  frames : List Frame
  found : Array Finding

/-- The steps to the value of a slot, innermost first. -/
def slotTrail (slots : Array Slot) (slot : Nat) : List Segment :=
  match slots[slot]?.bind (·.link) with
  | none => []
  | some (parent, segment) =>
      if parent < slot then segment :: slotTrail slots parent else [segment]
termination_by slot

namespace Machine

/-- The machine before a run. -/
def start (program : Program) (value : Option Value) : Machine :=
  ⟨(Array.replicate (max program.slots 1) ⟨none, none⟩).setIfInBounds 0 ⟨value, none⟩,
    Array.replicate program.cursors [], [], #[]⟩

/-- The value of a slot. -/
def value (machine : Machine) (slot : Nat) : Option Value :=
  machine.slots[slot]?.bind (·.value)

/-- Puts a value into a slot. -/
def load (machine : Machine) (target : Nat) (value : Option Value) (source : Nat)
    (segment : Segment) : Machine :=
  { machine with slots := machine.slots.setIfInBounds target ⟨value, some (source, segment)⟩ }

/-- Starts a loop. -/
def begin (machine : Machine) (cursor : Nat) (values : List (Segment × Value)) : Machine :=
  { machine with cursors := machine.cursors.setIfInBounds cursor values }

/-- Whether a finding ends the innermost scope. -/
def halts (earlyFail : Bool) (machine : Machine) : Bool :=
  match machine.frames with
  | [] => earlyFail
  | frame :: _ => frame.halts

/-- Where to go on after a finding, `next` being the place if nothing halts. -/
def afterFinding (earlyFail : Bool) (machine : Machine) (next : Nat) : Option Nat :=
  match machine.frames with
  | [] => if earlyFail then none else some next
  | frame :: _ => some (if frame.halts then frame.closing else next)

/-- Adds the finding of a template about the value of a slot. -/
def raise (program : Program) (machine : Machine) (template slot : Nat) (count : Option Nat) :
    Machine :=
  match program.templates[template]? with
  | none => machine
  | some template =>
      let finding :=
        template.finding (machine.value slot) count (slotTrail machine.slots slot).reverse
      { machine with found := machine.found.push finding }

/-- Adds a finding and answers where to go on. -/
def fail (program : Program) (earlyFail : Bool) (machine : Machine) (template slot : Nat)
    (count : Option Nat) (next : Nat) : Machine × Option Nat :=
  let machine := machine.raise program template slot count
  (machine, machine.afterFinding earlyFail next)

/-- The violation that a leaf test finds. -/
def violation? (program : Program) (test : LeafTest) (value : Value) : Option Violation :=
  match test with
  | .string length => LeafCheck.string? length value
  | .integer range => LeafCheck.integer? range value
  | .real range => LeafCheck.real? range value
  | .boolean => LeafCheck.boolean? value
  | .null => LeafCheck.null? value
  | .undefined => LeafCheck.undefined? value
  | .date => LeafCheck.date? value
  | .timestamp format => LeafCheck.timestamp? format value
  | .exact index => program.strings[index]?.bind (LeafCheck.expected? · value)
  | .pattern index => program.patterns[index]?.bind (LeafCheck.pattern? · value)
  | .buffer length => LeafCheck.buffer? length value

/-- Whether a count violates bounds, and the template that says so. -/
def countError? (bounds : Option (LengthBounds × Nat)) (count : Nat) : Option Nat :=
  match bounds with
  | some (bounds, template) => if bounds.contains count then none else some template
  | none => none

/-- Runs one operation at a position. -/
def execute (program : Program) (earlyFail : Bool) (position : Nat) (machine : Machine) :
    Op → Machine × Option Nat
  | .gate slot required nullable nullIsValue missing skip =>
      match presence required nullable nullIsValue (machine.value slot) with
      | .check => (machine, some (position + 1))
      | .skip => (machine, some skip)
      | .missing => machine.fail program earlyFail missing slot none skip
  | .test slot test wrongType constraint =>
      match (machine.value slot).bind (violation? program test) with
      | none => (machine, some (position + 1))
      | some violation =>
          let template? :=
            match violation.kind with
            | .wrongType => some wrongType
            | .constraint => constraint
          match template? with
          | some template =>
              machine.fail program earlyFail template slot violation.found (position + 1)
          | none => (machine, some (position + 1))
  | .object slot notObject skip =>
      match machine.value slot with
      | some (.record _) => (machine, some (position + 1))
      | _ => machine.fail program earlyFail notObject slot none skip
  | .array slot notArray length skip =>
      match machine.value slot with
      | some (.list items) =>
          match countError? length items.length with
          | some template =>
              machine.fail program earlyFail template slot (some items.length) skip
          | none => (machine, some (position + 1))
      | _ => machine.fail program earlyFail notArray slot none skip
  | .tuple slot notArray arity wrongLength skip =>
      match machine.value slot with
      | some (.list items) =>
          if items.length = arity then (machine, some (position + 1))
          else machine.fail program earlyFail wrongLength slot (some items.length) skip
      | _ => machine.fail program earlyFail notArray slot none skip
  | .record slot notObject keys skip =>
      match machine.value slot with
      | some (.record entries) =>
          match countError? keys entries.length with
          | some template =>
              machine.fail program earlyFail template slot (some entries.length) skip
          | none => (machine, some (position + 1))
      | _ => machine.fail program earlyFail notObject slot none skip
  | .field source target name =>
      let key := program.strings[name]?.getD ""
      let value :=
        match machine.value source with
        | some (.record entries) => Value.lookup? key entries
        | _ => none
      (machine.load target value source (.key key), some (position + 1))
  | .element source target index =>
      let value :=
        match machine.value source with
        | some (.list items) => items[index]?
        | _ => none
      (machine.load target value source (.index index), some (position + 1))
  | .items source cursor =>
      let values :=
        match machine.value source with
        | some (.list items) => Value.indexed items
        | _ => []
      (machine.begin cursor values, some (position + 1))
  | .entries source cursor =>
      let values :=
        match machine.value source with
        | some (.record entries) => Value.keyed entries
        | _ => []
      (machine.begin cursor values, some (position + 1))
  | .next source cursor target done =>
      match machine.cursors[cursor]? with
      | some ((segment, value) :: rest) =>
          ((machine.begin cursor rest).load target (some value) source segment,
            some (position + 1))
      | _ => (machine, some done)
  | .jump target => (machine, some target)
  | .openUnion synthesized =>
      let mark := machine.found.size
      let frame : Frame :=
        ⟨mark, mark, position, synthesized || machine.halts earlyFail, synthesized⟩
      ({ machine with frames := frame :: machine.frames }, some (position + 1))
  | .openAlternative closing =>
      match machine.frames with
      | frame :: frames =>
          let frame := { frame with alternativeMark := machine.found.size, closing := closing }
          ({ machine with frames := frame :: frames }, some (position + 1))
      | [] => (machine, some (position + 1))
  | .closeAlternative done =>
      match machine.frames with
      | frame :: frames =>
          if machine.found.size = frame.alternativeMark then
            ({ machine with frames := frames, found := machine.found.shrink frame.mark },
              some done)
          else (machine, some (position + 1))
      | [] => (machine, some (position + 1))
  | .closeUnion slot mismatch =>
      match machine.frames with
      | frame :: frames =>
          let machine := { machine with frames := frames }
          if frame.synthesized then
            { machine with found := machine.found.shrink frame.mark }.fail
              program earlyFail mismatch slot none (position + 1)
          else if machine.halts earlyFail then
            let machine := { machine with found := machine.found.shrink (frame.mark + 1) }
            (machine, machine.afterFinding earlyFail (position + 1))
          else (machine, some (position + 1))
      | [] => (machine, some (position + 1))

/-- Runs a program from a position for at most `fuel` operations. -/
def run (program : Program) (earlyFail : Bool) : Nat → Nat → Machine → Machine
  | 0, _, machine => machine
  | fuel + 1, position, machine =>
      match program.ops[position]? with
      | none => machine
      | some op =>
          match machine.execute program earlyFail position op with
          | (machine, some next) => run program earlyFail fuel next machine
          | (machine, none) => machine

end Machine

namespace Program

/-- The count of operations that a run on a value can take. -/
def bound (program : Program) (value : Option Value) : Nat :=
  2 * program.size * (value.elim 1 Value.size) + 2

/-- What a program finds in a value. -/
def findings (program : Program) (halt : Bool) (value : Option Value) : List Finding :=
  (Machine.run program halt (program.bound value) 0 (.start program value)).found.toList

/-- The failures of a value under a program. -/
def run (program : Program) (options : CheckOptions) (value : Option Value) : List Failure :=
  (program.findings options.earlyFail value).map (·.failure options.path)

end Program
end Conformance
