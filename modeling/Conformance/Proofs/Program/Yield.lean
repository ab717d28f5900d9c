import Conformance.Proofs.Program.Run

namespace Conformance

/-!
# What a part of a program yields

A part of a program leads from its start to its finish and finds something on its
way.  What the machine keeps of it and where it goes on depends on the scope around
the part: a scope that halts keeps the first finding and leaves for where the scope
ends, every other scope keeps all and comes out at the finish.

Parts are put together one after another, in loops, and behind operations that
prepare a slot.  A part that comes after another one is described for every machine
that the first may leave.
-/

/-! ## Sizes of values -/

theorem Value.one_le_size (value : Value) : 1 ≤ value.size := by
  cases value <;> simp only [size] <;> omega

/-- The count of values inside some values. -/
def totalSize : List (Segment × Value) → Nat
  | [] => 0
  | (_, value) :: rest => value.size + totalSize rest

theorem totalSize_indexedFrom (items : List Value) : ∀ position : Nat,
    totalSize (Value.indexedFrom position items) = Value.sizeItems items := by
  induction items with
  | nil =>
      intro position
      rfl
  | cons item rest inductionHypothesis =>
      intro position
      rw [Value.indexedFrom, totalSize, inductionHypothesis, Value.sizeItems]

theorem totalSize_keyed (entries : List (String × Value)) :
    totalSize (Value.keyed entries) = Value.sizeEntries entries := by
  induction entries with
  | nil => rfl
  | cons entry rest inductionHypothesis =>
      rcases entry with ⟨key, value⟩
      have keyed : Value.keyed ((key, value) :: rest) = (.key key, value) :: Value.keyed rest := rfl
      rw [keyed, totalSize, inductionHypothesis, Value.sizeEntries]

namespace Machine

/-! ## Scopes -/

variable {program : Program} {earlyFail : Bool}

theorem afterFinding_of_goes_on {machine : Machine} (goesOn : machine.halts earlyFail = false)
    (next : Nat) : machine.afterFinding earlyFail next = some next := by
  rw [halts] at goesOn
  rw [afterFinding]
  cases frames : machine.frames with
  | nil =>
      simp only [frames] at goesOn
      simp only [goesOn, Bool.false_eq_true, if_false]
  | cons frame rest =>
      simp only [frames] at goesOn
      simp only [goesOn, Bool.false_eq_true, if_false]

/-- A scope that halts is left for one place, wherever the finding was. -/
theorem afterFinding_of_halts {machine : Machine} (halting : machine.halts earlyFail = true)
    (first second : Nat) :
    machine.afterFinding earlyFail first = machine.afterFinding earlyFail second := by
  rw [halts] at halting
  rw [afterFinding, afterFinding]
  cases frames : machine.frames with
  | nil =>
      simp only [frames] at halting
      simp only [halting, if_true]
  | cons frame rest =>
      simp only [frames] at halting
      simp only [halting, if_true]

/-- Where a part comes out that ends at `finish` and found something or nothing. -/
def exit (earlyFail : Bool) (machine : Machine) (finish : Nat) (findings : List Finding) :
    Option Nat :=
  if findings.isEmpty then some finish else machine.afterFinding earlyFail finish

@[simp] theorem exit_nil (machine : Machine) (finish : Nat) :
    machine.exit earlyFail finish [] = some finish := rfl

theorem exit_of_ne_nil (machine : Machine) (finish : Nat) {findings : List Finding}
    (something : findings ≠ []) :
    machine.exit earlyFail finish findings = machine.afterFinding earlyFail finish := by
  have nonempty : findings.isEmpty = false := List.isEmpty_eq_false_iff.mpr something
  rw [exit, nonempty]
  rfl

theorem exit_of_goes_on {machine : Machine} {findings : List Finding}
    (goesOn : machine.halts earlyFail = false ∨ findings = []) (finish : Nat) :
    machine.exit earlyFail finish findings = some finish := by
  rcases goesOn with runsOn | nothing
  · rw [exit, afterFinding_of_goes_on runsOn, ite_self]
  · rw [nothing, exit_nil]

section

variable {index : Nat} {template : Template}

/-- A finding is added that is placed where the value of its slot was taken from. -/
theorem raise_extends (earlyFail : Bool) (slots cursors : Nat) (machine : Machine)
    (stored : program.templates[index]? = some template) (slot : Nat) (count : Option Nat) :
    Extends slots cursors (kept (machine.halts earlyFail)
      ([template.here (machine.value slot) count].map
        (Finding.beneath (slotTrail machine.slots slot))))
      machine (machine.raise program index slot count) := by
  rw [List.map_singleton, Template.here_beneath, kept_singleton, raise, stored]
  exact ⟨rfl, rfl, fun _ _ => rfl, fun _ _ => rfl, rfl, by simp⟩

theorem raise_afterFinding {machine : Machine} (stored : program.templates[index]? = some template)
    (slot : Nat) (count : Option Nat) (next : Nat) :
    (machine.raise program index slot count).afterFinding earlyFail next =
      machine.afterFinding earlyFail next := by
  rw [raise, stored]
  rfl

end

/-- The findings of a part that starts in some machine, and its bound. -/
def Yields (program : Program) (earlyFail : Bool) (steps start finish slots cursors : Nat)
    (machine : Machine) (findings : List Finding) : Prop :=
  ∃ count ≤ steps, ∃ last,
    Trace program earlyFail count start machine last (machine.exit earlyFail finish findings) ∧
    Extends slots cursors (kept (machine.halts earlyFail) findings) machine last

namespace Yields

variable {steps more start middle finish slots cursors : Nat} {machine : Machine}
  {findings others : List Finding}

theorem nothing (position slots cursors : Nat) (machine : Machine) :
    Yields program earlyFail 0 position position slots cursors machine [] := by
  refine ⟨0, Nat.le_refl 0, machine, .rest position machine, ?_⟩
  rw [kept_nil]
  exact .refl slots cursors machine

theorem mono (bound : steps ≤ more)
    (yields : Yields program earlyFail steps start finish slots cursors machine findings) :
    Yields program earlyFail more start finish slots cursors machine findings := by
  rcases yields with ⟨count, low, last, trace, extended⟩
  exact ⟨count, Nat.le_trans low bound, last, trace, extended⟩

theorem weaken {fewerSlots fewerCursors : Nat} (low : fewerSlots ≤ slots)
    (lowCursors : fewerCursors ≤ cursors)
    (yields : Yields program earlyFail steps start finish slots cursors machine findings) :
    Yields program earlyFail steps start finish fewerSlots fewerCursors machine findings := by
  rcases yields with ⟨count, bounded, last, trace, extended⟩
  exact ⟨count, bounded, last, trace, extended.weaken low lowCursors⟩

/-- Two parts one after another, the first of which leaves more alone.  If the scope
halts in the first, it keeps nothing of the second and comes out where it would have
come out there. -/
theorem append {fewerSlots fewerCursors : Nat}
    (first : Yields program earlyFail steps start middle slots cursors machine findings)
    (low : fewerSlots ≤ slots) (lowCursors : fewerCursors ≤ cursors)
    (second : ∀ (found : List Finding) (last : Machine), Extends slots cursors found machine last →
      Yields program earlyFail more middle finish fewerSlots fewerCursors last others) :
    Yields program earlyFail (steps + more) start finish fewerSlots fewerCursors machine
      (findings ++ others) := by
  rcases first with ⟨count, bound, between, trace, extended⟩
  by_cases goesOn : machine.halts earlyFail = false ∨ findings = []
  · rw [exit_of_goes_on goesOn] at trace
    rcases second _ _ extended with ⟨further, boundMore, last, traceMore, extendedMore⟩
    refine ⟨further + count, by omega, last, ?_, ?_⟩
    · have same : between.exit earlyFail finish others =
          machine.exit earlyFail finish (findings ++ others) := by
        rw [exit, extended.afterFinding_eq]
        rcases goesOn with runsOn | nothing
        · rw [afterFinding_of_goes_on runsOn, ite_self, exit_of_goes_on (.inl runsOn)]
        · rw [nothing, List.nil_append, exit]
      rw [← same]
      exact trace.append traceMore
    · rw [extended.halts_eq] at extendedMore
      rw [kept_append_of_goes_on others goesOn]
      exact (extended.weaken low lowCursors).trans extendedMore
  · rcases not_or.mp goesOn with ⟨halts, something⟩
    have halting : machine.halts earlyFail = true := by simpa using halts
    have somethingBoth : findings ++ others ≠ [] := by simp [something]
    refine ⟨count, Nat.le_add_right_of_le bound, between, ?_, ?_⟩
    · rw [exit_of_ne_nil machine _ something] at trace
      rw [exit_of_ne_nil machine _ somethingBoth, afterFinding_of_halts halting finish middle]
      exact trace
    · rw [halting] at extended ⊢
      rw [kept_append_of_halted others something]
      exact extended.weaken low lowCursors

/-- An operation that finds nothing prepares the machine for what comes next. -/
theorem silent {next : Nat} {op : Op} {prepared : Machine}
    (fetched : program.ops[start]? = some op)
    (executed : machine.execute program earlyFail start op = (prepared, some next))
    (extended : Extends slots cursors [] machine prepared)
    (yields : Yields program earlyFail steps next finish slots cursors prepared findings) :
    Yields program earlyFail (steps + 1) start finish slots cursors machine findings := by
  rcases yields with ⟨count, low, last, trace, extendedMore⟩
  refine ⟨count + 1, Nat.succ_le_succ low, last, ?_, ?_⟩
  · rw [exit, ← extended.afterFinding_eq]
    exact .step fetched executed trace
  · rw [extended.halts_eq] at extendedMore
    exact extended.trans extendedMore

/-- An operation that goes straight to the finish. -/
theorem skip {op : Op} (fetched : program.ops[start]? = some op)
    (executed : machine.execute program earlyFail start op = (machine, some finish)) :
    Yields program earlyFail 1 start finish slots cursors machine [] :=
  silent fetched executed (.refl slots cursors machine) (nothing finish slots cursors machine)

/-- An operation that raises one finding. -/
theorem raise {op : Op} {index slot : Nat} {template : Template} {count : Option Nat}
    (fetched : program.ops[start]? = some op) (stored : program.templates[index]? = some template)
    (executed : machine.execute program earlyFail start op =
      machine.fail program earlyFail index slot count finish) :
    Yields program earlyFail 1 start finish slots cursors machine
      ([template.here (machine.value slot) count].map
        (Finding.beneath (slotTrail machine.slots slot))) := by
  refine ⟨1, Nat.le_refl 1, machine.raise program index slot count, ?_, ?_⟩
  · rw [List.map_singleton, exit_of_ne_nil machine finish (List.cons_ne_nil _ _),
      ← raise_afterFinding stored slot count]
    exact .once fetched executed
  · exact raise_extends earlyFail slots cursors machine stored slot count

end Yields
/-! ## Slots and loops -/

/-- A machine with room for the slots and cursors of a program. -/
structure Fits (program : Program) (machine : Machine) : Prop where
  slots : program.slots ≤ machine.slots.size
  cursors : program.cursors ≤ machine.cursors.size

theorem Extends.fits {slots cursors : Nat} {findings : List Finding} {machine last : Machine}
    (extended : Extends slots cursors findings machine last) (fits : machine.Fits program) :
    last.Fits program := by
  constructor
  · rw [extended.slots_size]
    exact fits.slots
  · rw [extended.cursors_size]
    exact fits.cursors

section

variable {slots cursors target source : Nat}

/-- A value is loaded without touching the slots before its own. -/
theorem load_extends (fresh : slots ≤ target) (cursors : Nat) (machine : Machine)
    (value : Option Value) (source : Nat) (segment : Segment) :
    Extends slots cursors [] machine (machine.load target value source segment) where
  slots_size := Array.size_setIfInBounds
  cursors_size := rfl
  slots_eq slot low :=
    Array.getElem?_setIfInBounds_ne (Nat.ne_of_gt (Nat.lt_of_lt_of_le low fresh))
  cursors_eq _ _ := rfl
  frames_eq := rfl
  found_eq := by simp [load]

theorem load_value {machine : Machine} (room : target < machine.slots.size) (value : Option Value)
    (source : Nat) (segment : Segment) :
    (machine.load target value source segment).value target = value := by
  rw [Machine.value, load, Array.getElem?_setIfInBounds_self_of_lt room, Option.bind_some]

/-- The steps to a value that was loaded are those to its source and one more. -/
theorem load_trail {machine : Machine} (room : target < machine.slots.size) (order : source < target)
    (value : Option Value) (segment : Segment) :
    slotTrail (machine.load target value source segment).slots target =
      segment :: slotTrail machine.slots source := by
  have before : slotTrail (machine.load target value source segment).slots source =
      slotTrail machine.slots source := slotTrail_congr source fun other low =>
    Array.getElem?_setIfInBounds_ne (Nat.ne_of_gt (Nat.lt_of_le_of_lt low order))
  rw [slotTrail, load, Array.getElem?_setIfInBounds_self_of_lt room, Option.bind_some]
  simp only [if_pos order]
  exact congrArg (segment :: ·) before

theorem begin_extends {cursor : Nat} (fresh : cursors ≤ cursor) (slots : Nat) (machine : Machine)
    (values : List (Segment × Value)) :
    Extends slots cursors [] machine (machine.begin cursor values) where
  slots_size := rfl
  cursors_size := Array.size_setIfInBounds
  slots_eq _ _ := rfl
  cursors_eq other low :=
    Array.getElem?_setIfInBounds_ne (Nat.ne_of_gt (Nat.lt_of_lt_of_le low fresh))
  frames_eq := rfl
  found_eq := by simp [begin]

theorem begin_cursor {machine : Machine} {cursor : Nat} (room : cursor < machine.cursors.size)
    (values : List (Segment × Value)) : (machine.begin cursor values).cursors[cursor]? = some values :=
  Array.getElem?_setIfInBounds_self_of_lt room

end

/-- A child whose value is loaded into a new slot, and what comes after it. -/
theorem Yields.load {op : Op} {steps more start middle finish target source cursors : Nat}
    {machine : Machine} {value : Option Value} {segment : Segment} {findings others : List Finding}
    (fits : machine.Fits program) (order : source < target) (room : target < program.slots)
    (fetched : program.ops[start]? = some op)
    (executed : machine.execute program earlyFail start op =
      (machine.load target value source segment, some (start + 1)))
    (child : ∀ loaded : Machine, loaded.Fits program → loaded.value target = value →
      Yields program earlyFail steps (start + 1) middle (target + 1) cursors loaded
        (findings.map (Finding.beneath (slotTrail loaded.slots target))))
    (rest : ∀ last : Machine, last.Fits program → last.value source = machine.value source →
      Yields program earlyFail more middle finish target cursors last
        (others.map (Finding.beneath (slotTrail last.slots source)))) :
    Yields program earlyFail (steps + more + 1) start finish target cursors machine
      (findings.map (Finding.beneath (segment :: slotTrail machine.slots source)) ++
        others.map (Finding.beneath (slotTrail machine.slots source))) := by
  have slotRoom : target < machine.slots.size := Nat.lt_of_lt_of_le room fits.slots
  have loads := load_extends (Nat.le_refl target) cursors machine value source segment
  have first := child _ (loads.fits fits) (load_value slotRoom value source segment)
  rw [load_trail slotRoom order] at first
  refine silent fetched executed loads (first.append (Nat.le_succ target) (Nat.le_refl cursors) ?_)
  intro found last extended
  have whole := loads.trans (extended.weaken (Nat.le_succ target) (Nat.le_refl cursors))
  have continued := rest last (whole.fits fits) (whole.value_eq order)
  rw [whole.trail_eq order] at continued
  exact continued

/-- A loop yields what its body yields on one value after another.  The induction
is on what the cursor still holds. -/
theorem Yields.loop {head length source target cursor : Nat} {child : Judgement}
    (next : program.ops[head]? = some (.next source cursor target (head + 2 + length)))
    (jump : program.ops[head + 1 + length]? = some (.jump head))
    (order : source < target) (room : target < program.slots) (roomCursor : cursor < program.cursors)
    (body : ∀ (value : Value) (machine : Machine), machine.Fits program →
      machine.value target = some value →
      Yields program earlyFail (2 * length * value.size) (head + 1) (head + 1 + length)
        (target + 1) (cursor + 1) machine
        ((child (some value)).map (Finding.beneath (slotTrail machine.slots target))))
    (values : List (Segment × Value)) :
    ∀ machine : Machine, machine.Fits program → machine.cursors[cursor]? = some values →
      Yields program earlyFail (1 + 2 * (length + 1) * totalSize values) head (head + 2 + length)
        target cursor machine
        ((child.each values).map (Finding.beneath (slotTrail machine.slots source))) := by
  induction values with
  | nil =>
      intro machine fits holds
      refine mono (Nat.le_add_right 1 _) (skip next ?_)
      simp only [execute, holds]
  | cons entry rest inductionHypothesis =>
      intro machine fits holds
      rcases entry with ⟨segment, value⟩
      let advanced := machine.begin cursor rest
      let loaded := advanced.load target (some value) source segment
      have started : Extends target cursor [] machine loaded :=
        (begin_extends (Nat.le_refl cursor) target machine rest).trans
          (load_extends (Nat.le_refl target) cursor advanced (some value) source segment)
      have loadedFits : loaded.Fits program := started.fits fits
      have slotRoom : target < advanced.slots.size := Nat.lt_of_lt_of_le room fits.slots
      have cursorRoom : cursor < machine.cursors.size := Nat.lt_of_lt_of_le roomCursor fits.cursors
      have remaining : loaded.cursors[cursor]? = some rest := begin_cursor cursorRoom rest
      have first := body value loaded loadedFits (load_value slotRoom (some value) source segment)
      rw [load_trail slotRoom order] at first
      have executed : machine.execute program earlyFail head
          (.next source cursor target (head + 2 + length)) = (loaded, some (head + 1)) := by
        simp only [execute, holds]
        rfl
      have again : ∀ (found : List Finding) (last : Machine),
          Extends (target + 1) (cursor + 1) found loaded last →
          Yields program earlyFail (1 + 2 * (length + 1) * totalSize rest + 1) (head + 1 + length)
            (head + 2 + length) target cursor last
            ((child.each rest).map (Finding.beneath (slotTrail machine.slots source))) := by
        intro found last extended
        have whole := started.trans (extended.weaken (Nat.le_succ target) (Nat.le_succ cursor))
        have holdsRest : last.cursors[cursor]? = some rest :=
          (extended.cursors_eq cursor (Nat.lt_succ_self cursor)).trans remaining
        have others := inductionHypothesis last (extended.fits loadedFits) holdsRest
        rw [whole.trail_eq order] at others
        exact silent jump rfl (.refl target cursor last) others
      have yields := silent next executed started
        (first.append (Nat.le_succ target) (Nat.le_succ cursor) again)
      rw [Judgement.each_cons_beneath]
      refine mono ?_ yields
      have positive : 1 ≤ value.size := value.one_le_size
      simp only [totalSize, Nat.mul_add, Nat.add_mul]
      omega

end Machine
end Conformance
