import Conformance.Proofs.Program.Code
import Mathlib.Data.List.Range

namespace Conformance

/-!
# The arrangement of code

Operations are told here together with their positions, so that it can be said of a piece of code
where its operations lead and in which order they come, whatever surrounds it.

Leaps lead over later operations only, to the end of the code or to its exit, and of two leaps the
second one begins behind the end of the first or ends no later.  Every operation of a loop has its
place in a whole loop.  Slots and cursors are handed out in the order of the operations that fill
them, and a value is read from its slot only behind the operation that loads it.
-/

/-- Operations with their positions. -/
abbrev Listing := List (Op × Nat)

/-- The operations of a block that starts at a position. -/
def listing (start : Nat) (block : List Op) : Listing := block.zipIdx start

section

variable {start : Nat} {op : Op} {entry : Op × Nat} {block first second : List Op}

@[simp] theorem listing_cons : listing start (op :: block) = (op, start) :: listing (start + 1) block := rfl

@[simp] theorem listing_append :
    listing start (first ++ second) = listing start first ++ listing (start + first.length) second :=
  List.zipIdx_append

theorem listing_loopBlock {sweep : Op} {slot cursor target : Nat} :
    listing start (loopBlock sweep start slot cursor target block) =
      (sweep, start) :: (.next slot cursor target (start + 2 + block.length + 1), start + 1) ::
        (listing (start + 2) block ++ [(.jump (start + 1), start + 2 + block.length)]) := by
  have place : start + 1 + 1 + block.length = start + 2 + block.length := by omega
  rw [loopBlock, List.cons_append, List.cons_append, listing_cons, listing_cons, listing_append, place]
  rfl

theorem le_of_mem_listing (listed : entry ∈ listing start block) : start ≤ entry.2 :=
  List.le_snd_of_mem_zipIdx listed

end

namespace Op

variable {slot : Nat} {op : Op} {link : Nat × Nat}

/-- Whether an operation belongs to a loop. -/
def loops : Op → Bool
  | .items _ _ | .entries _ _ | .next _ _ _ _ | .jump _ => true
  | _ => false

/-- The cursor that the head of a loop advances. -/
def advanced? : Op → Option Nat
  | .next _ cursor _ _ => some cursor
  | _ => none

/-- The operation that starts a loop. -/
theorem sweep?_cases {source cursor : Nat} (sweeps : op.sweep? = some (source, cursor)) :
    op = .items source cursor ∨ op = .entries source cursor := by
  cases op <;> cases sweeps
  · exact .inl rfl
  · exact .inr rfl

theorem leap?_of_sweep? (sweeps : op.sweep? = some link) : op.leap? = none := by
  rcases sweep?_cases sweeps with rfl | rfl <;> rfl

theorem read?_of_sweep? (sweeps : op.sweep? = some link) : op.read? = some link.1 := by
  rcases sweep?_cases sweeps with rfl | rfl <;> rfl

theorem loops_of_sweep? (sweeps : op.sweep? = some link) : op.loops = true := by
  rcases sweep?_cases sweeps with rfl | rfl <;> rfl

theorem read?_of_link? (loads : op.link? = some link) : op.read? = some link.1 := by
  cases op <;> cases loads <;> rfl

theorem link?_of_written? (writes : op.written? = some slot) :
    ∃ source, op.link? = some (source, slot) := by
  rcases Option.map_eq_some_iff.mp writes with ⟨⟨source, _⟩, loads, rfl⟩
  exact ⟨source, loads⟩

theorem loops_of_link? (loads : op.link? = some link) (straight : op.leap? = none) :
    op.loops = false := by
  cases op with
  | next _ _ _ _ => cases straight
  | field _ _ _ => rfl
  | element _ _ _ => rfl
  | _ => cases loads

theorem Stays.loops_eq (stays : op.Stays slot) : op.loops = false := by
  cases op with
  | items _ _ => cases stays.unswept
  | entries _ _ => cases stays.unswept
  | next _ _ _ _ => cases stays.unlinked
  | jump target => exact absurd rfl (stays.ahead target)
  | _ => rfl

theorem Stays.read_eq {read : Nat} (stays : op.Stays slot) (reads : op.read? = some read) :
    read = slot := by
  rcases stays.read with none | same
  · cases none.symm.trans reads
  · exact Option.some.inj (reads.symm.trans same)

/-- The operation that advances a cursor. -/
theorem advanced?_cases {cursor : Nat} (advances : op.advanced? = some cursor) :
    ∃ source target done, op = .next source cursor target done := by
  cases op <;> cases advances
  exact ⟨_, _, _, rfl⟩

/-- A cursor is used where a loop starts and where it is advanced. -/
theorem cursors_cases {cursor : Nat} (uses : cursor ∈ op.cursors) :
    (∃ source, op.sweep? = some (source, cursor)) ∨ op.advanced? = some cursor := by
  cases op with
  | items source _ | entries source _ =>
      cases List.mem_singleton.mp uses
      exact .inl ⟨source, rfl⟩
  | next _ _ _ _ =>
      cases List.mem_singleton.mp uses
      exact .inr rfl
  | _ => exact absurd uses List.not_mem_nil

theorem advanced?_of_loops (straight : op.loops = false) : op.advanced? = none := by
  cases op <;> first | rfl | cases straight

end Op

/-- Of two leaps the second begins behind the end of the first one or ends no later. -/
def LeapsNested (first second : Op × Nat) : Prop :=
  ∀ target, first.1.leap? = some target → ∀ limit, second.1.leap? = some limit →
    target ≤ second.2 ∨ limit ≤ target

theorem leapsNested_of_straight {first : Op × Nat} (straight : first.1.leap? = none)
    (second : Op × Nat) : LeapsNested first second := by
  intro target leaps
  cases straight.symm.trans leaps

/-- A loop: the operation that starts it, its head right behind, and the jump back to the head at its
end.  The head leads behind this jump when the loop is over. -/
structure WholeLoop (code : Listing) (first last source cursor target : Nat) : Prop where
  begins : ∃ sweep, Op.sweep? sweep = some (source, cursor) ∧ (sweep, first) ∈ code
  head : (Op.next source cursor target (last + 1), first + 1) ∈ code
  back : (Op.jump (first + 1), last) ∈ code
  later : first + 1 < last

theorem WholeLoop.mono {code more : Listing} {first last source cursor target : Nat}
    (loop : WholeLoop code first last source cursor target) (part : code ⊆ more) :
    WholeLoop more first last source cursor target where
  begins := loop.begins.imp fun _ found => ⟨found.1, part found.2⟩
  head := part loop.head
  back := part loop.back
  later := loop.later

/-- An operation of a loop has its place in a whole loop. -/
def HasLoop (code : Listing) (entry : Op × Nat) : Prop :=
  ∃ first last source cursor target, WholeLoop code first last source cursor target ∧
    (entry.2 = first ∨ entry.2 = first + 1 ∨ entry.2 = last)

theorem HasLoop.mono {code more : Listing} {entry : Op × Nat} (hasLoop : HasLoop code entry)
    (part : code ⊆ more) : HasLoop more entry := by
  rcases hasLoop with ⟨first, last, source, cursor, target, loop, place⟩
  exact ⟨first, last, source, cursor, target, loop.mono part, place⟩

/-- Numbers that were handed out one after another, from one count to another. -/
def HandedOut (numbers : List Nat) (before after : Nat) : Prop :=
  before ≤ after ∧ numbers = List.range' before (after - before)

theorem HandedOut.nil (count : Nat) : HandedOut [] count count :=
  ⟨Nat.le_refl count, by rw [Nat.sub_self]; rfl⟩

theorem HandedOut.append {first second : List Nat} {before between after : Nat}
    (early : HandedOut first before between) (late : HandedOut second between after) :
    HandedOut (first ++ second) before after := by
  refine ⟨Nat.le_trans early.1 late.1, ?_⟩
  have middle : between = before + (between - before) := (Nat.add_sub_of_le early.1).symm
  have whole : between - before + (after - between) = after - before := by
    have := early.1
    have := late.1
    omega
  rw [early.2, late.2, ← whole, ← List.range'_append_1, ← middle]

theorem HandedOut.cons {numbers : List Nat} {before after : Nat}
    (rest : HandedOut numbers (before + 1) after) : HandedOut (before :: numbers) before after := by
  have single : HandedOut [before] before (before + 1) := by
    refine ⟨Nat.le_succ before, ?_⟩
    rw [Nat.add_sub_cancel_left]
    rfl
  exact single.append rest

theorem HandedOut.nodup {numbers : List Nat} {before after : Nat}
    (handedOut : HandedOut numbers before after) : numbers.Nodup := by
  rw [handedOut.2]
  exact List.nodup_range'

theorem HandedOut.mem_iff {numbers : List Nat} {before after : Nat}
    (handedOut : HandedOut numbers before after) {number : Nat} :
    number ∈ numbers ↔ before ≤ number ∧ number < after := by
  rw [handedOut.2, List.mem_range'_1, Nat.add_sub_of_le handedOut.1]

/-- An operation that takes no number. -/
theorem HandedOut.of_none {op : Op} {taken? : Op → Option Nat} (none : taken? op = none) (count : Nat) :
    HandedOut ([op].filterMap taken?) count count := by
  rw [List.filterMap_cons_none none]
  exact .nil count

namespace Code

variable {exit start slot : Nat} {before after : Counts} {op : Op} {block : List Op}

/-! ## Leaps -/

/-- Leaps lead forward, to the end of the code or to its exit. -/
theorem leaps_forward (code : Code exit start slot before block after) :
    ∀ entry ∈ listing start block, ∀ target, entry.1.leap? = some target →
      entry.2 < target ∧ (target ≤ start + block.length ∨ target = exit) := by
  induction code with
  | nothing => exact fun _ listed => nomatch listed
  | single stays leaps =>
      intro entry listed target leap
      cases List.mem_singleton.mp listed
      rcases leaps target leap with ⟨rfl, later⟩
      exact ⟨later, .inr rfl⟩
  | append early late earlyHypothesis lateHypothesis =>
      intro entry listed target leaps
      rw [List.length_append]
      rcases List.mem_append.mp (listing_append ▸ listed) with here | there
      · have place := earlyHypothesis entry here target leaps
        omega
      · have place := lateHypothesis entry there target leaps
        omega
  | closed inner inductionHypothesis =>
      intro entry listed target leaps
      have place := inductionHypothesis entry listed target leaps
      omega
  | child loads straight inner inductionHypothesis =>
      intro entry listed target leaps
      rw [Program.add_length_cons]
      rcases List.mem_cons.mp listed with rfl | below
      · cases straight.symm.trans leaps
      · exact inductionHypothesis entry below target leaps
  | @loop exit start slot before after sweep block sweeps inner inductionHypothesis =>
      intro entry listed target leaps
      rw [add_length_loopBlock]
      rw [listing_loopBlock, List.mem_cons, List.mem_cons, List.mem_append, List.mem_singleton]
        at listed
      rcases listed with rfl | rfl | below | rfl
      · rw [Op.leap?_of_sweep? sweeps] at leaps
        cases leaps
      · cases leaps
        omega
      · have place := inductionHypothesis entry below target leaps
        omega
      · cases leaps

theorem leaps_nested (code : Code exit start slot before block after) :
    start + block.length ≤ exit → (listing start block).Pairwise LeapsNested := by
  induction code with
  | nothing => exact fun _ => .nil
  | single => exact fun _ => List.pairwise_singleton _ _
  | append early late earlyHypothesis lateHypothesis =>
      intro ends
      rw [List.length_append, ← Nat.add_assoc] at ends
      rw [listing_append, List.pairwise_append]
      refine ⟨earlyHypothesis (by omega), lateHypothesis ends, ?_⟩
      intro one first two second target leaps limit leapsToo
      have place := early.leaps_forward one first target leaps
      have placeToo := late.leaps_forward two second limit leapsToo
      have behind := le_of_mem_listing second
      omega
  | closed inner inductionHypothesis => exact fun _ => inductionHypothesis (Nat.le_refl _)
  | child loads straight inner inductionHypothesis =>
      intro ends
      rw [Program.add_length_cons] at ends
      exact .cons (fun other _ => leapsNested_of_straight straight other) (inductionHypothesis ends)
  | loop sweeps inner inductionHypothesis =>
      intro ends
      rw [listing_loopBlock, List.pairwise_cons, List.pairwise_cons, List.pairwise_append]
      refine ⟨fun other _ => leapsNested_of_straight (Op.leap?_of_sweep? sweeps) other, ?head,
        inductionHypothesis (Nat.le_succ _), List.pairwise_singleton _ _, ?back⟩
      case head =>
        intro other listed target leaps limit leapsToo
        cases leaps
        rcases List.mem_append.mp listed with below | last
        · have place := inner.leaps_forward other below limit leapsToo
          omega
        · cases List.mem_singleton.mp last
          cases leapsToo
      case back =>
        intro one below last isLast target leaps limit leapsToo
        cases List.mem_singleton.mp isLast
        cases leapsToo

/-! ## Loops -/

theorem hasLoop (code : Code exit start slot before block after) :
    ∀ entry ∈ listing start block, entry.1.loops = true → HasLoop (listing start block) entry := by
  induction code with
  | nothing => exact fun _ listed => nomatch listed
  | single stays =>
      intro entry listed inLoop
      cases List.mem_singleton.mp listed
      cases stays.loops_eq.symm.trans inLoop
  | append early late earlyHypothesis lateHypothesis =>
      intro entry listed inLoop
      rw [listing_append] at listed ⊢
      rcases List.mem_append.mp listed with here | there
      · exact (earlyHypothesis entry here inLoop).mono (List.subset_append_left _ _)
      · exact (lateHypothesis entry there inLoop).mono (List.subset_append_right _ _)
  | closed inner inductionHypothesis => exact inductionHypothesis
  | child loads straight inner inductionHypothesis =>
      intro entry listed inLoop
      rcases List.mem_cons.mp listed with rfl | below
      · cases (Op.loops_of_link? loads straight).symm.trans inLoop
      · exact (inductionHypothesis entry below inLoop).mono (List.subset_cons_self _ _)
  | @loop exit start slot before after sweep block sweeps inner inductionHypothesis =>
      intro entry listed inLoop
      rw [listing_loopBlock] at listed ⊢
      have part : listing (start + 2) block ⊆ (sweep, start) ::
          (.next slot before.cursors before.slots (start + 2 + block.length + 1), start + 1) ::
          (listing (start + 2) block ++ [(.jump (start + 1), start + 2 + block.length)]) :=
        fun other below => List.mem_cons_of_mem _ (List.mem_cons_of_mem _ (List.mem_append_left _ below))
      have whole : WholeLoop ((sweep, start) ::
          (.next slot before.cursors before.slots (start + 2 + block.length + 1), start + 1) ::
          (listing (start + 2) block ++ [(.jump (start + 1), start + 2 + block.length)]))
          start (start + 2 + block.length) slot before.cursors before.slots :=
        ⟨⟨sweep, sweeps, List.mem_cons_self⟩, List.mem_cons_of_mem _ List.mem_cons_self,
          List.mem_cons_of_mem _ (List.mem_cons_of_mem _ (List.mem_append_right _ List.mem_cons_self)),
          by omega⟩
      rcases List.mem_cons.mp listed with rfl | inside
      · exact ⟨_, _, _, _, _, whole, .inl rfl⟩
      rcases List.mem_cons.mp inside with rfl | further
      · exact ⟨_, _, _, _, _, whole, .inr (.inl rfl)⟩
      rcases List.mem_append.mp further with below | last
      · exact (inductionHypothesis entry below inLoop).mono part
      · cases List.mem_singleton.mp last
        exact ⟨_, _, _, _, _, whole, .inr (.inr rfl)⟩

/-! ## Slots and cursors in their order -/

/-- New slots are written in their order. -/
theorem slots_handedOut (code : Code exit start slot before block after) :
    HandedOut (block.filterMap Op.written?) before.slots after.slots := by
  induction code with
  | nothing => exact .nil _
  | single stays => exact .of_none (congrArg (Option.map Prod.snd) stays.unlinked) _
  | append early late earlyHypothesis lateHypothesis =>
      rw [List.filterMap_append]
      exact earlyHypothesis.append lateHypothesis
  | closed inner inductionHypothesis => exact inductionHypothesis
  | @child exit start slot before after op block loads straight inner inductionHypothesis =>
      have written : op.written? = some before.slots := congrArg (Option.map Prod.snd) loads
      rw [List.filterMap_cons_some written]
      exact inductionHypothesis.cons
  | loop sweeps inner inductionHypothesis =>
      rcases Op.sweep?_cases sweeps with rfl | rfl
      all_goals
        simp only [loopBlock, List.cons_append, List.filterMap_cons, List.filterMap_append,
          List.filterMap_nil, List.append_nil, Op.written?, Op.link?, Option.map_none, Option.map_some]
        exact inductionHypothesis.cons

/-- New cursors are advanced in their order. -/
theorem cursors_handedOut (code : Code exit start slot before block after) :
    HandedOut (block.filterMap Op.advanced?) before.cursors after.cursors := by
  induction code with
  | nothing => exact .nil _
  | single stays => exact .of_none (Op.advanced?_of_loops stays.loops_eq) _
  | append early late earlyHypothesis lateHypothesis =>
      rw [List.filterMap_append]
      exact earlyHypothesis.append lateHypothesis
  | closed inner inductionHypothesis => exact inductionHypothesis
  | child loads straight inner inductionHypothesis =>
      rw [List.filterMap_cons_none (Op.advanced?_of_loops (Op.loops_of_link? loads straight))]
      exact inductionHypothesis
  | loop sweeps inner inductionHypothesis =>
      rcases Op.sweep?_cases sweeps with rfl | rfl
      all_goals
        simp only [loopBlock, List.cons_append, List.filterMap_cons, List.filterMap_append,
          List.filterMap_nil, List.append_nil, Op.advanced?]
        exact inductionHypothesis.cons

theorem slots_le (code : Code exit start slot before block after) : before.slots ≤ after.slots :=
  code.slots_handedOut.1

/-- What code writes are new slots. -/
theorem written_mem (code : Code exit start slot before block after) (listed : op ∈ block)
    {written : Nat} (writes : op.written? = some written) :
    before.slots ≤ written ∧ written < after.slots :=
  code.slots_handedOut.mem_iff.mp (List.mem_filterMap.mpr ⟨op, listed, writes⟩)

/-- What code reads has been handed out. -/
theorem read_lt (code : Code exit start slot before block after) :
    slot < before.slots → ∀ op ∈ block, ∀ read, op.read? = some read → read < after.slots := by
  induction code with
  | nothing => exact fun _ _ listed => nomatch listed
  | single stays =>
      intro low op listed read reads
      cases List.mem_singleton.mp listed
      exact stays.read_eq reads ▸ low
  | append early late earlyHypothesis lateHypothesis =>
      intro low op listed read reads
      rcases List.mem_append.mp listed with here | there
      · exact Nat.lt_of_lt_of_le (earlyHypothesis low op here read reads) late.slots_le
      · exact lateHypothesis (Nat.lt_of_lt_of_le low early.slots_le) op there read reads
  | closed inner inductionHypothesis => exact inductionHypothesis
  | child loads straight inner inductionHypothesis =>
      intro low op listed read reads
      rcases List.mem_cons.mp listed with rfl | below
      · cases (Op.read?_of_link? loads).symm.trans reads
        exact Nat.lt_of_lt_of_le (Nat.lt_succ_of_lt low) inner.slots_le
      · exact inductionHypothesis (Nat.lt_succ_self _) op below read reads
  | loop sweeps inner inductionHypothesis =>
      intro low op listed read reads
      have lower := Nat.lt_of_lt_of_le (Nat.lt_succ_of_lt low) inner.slots_le
      rcases List.mem_cons.mp listed with rfl | inside
      · cases (Op.read?_of_sweep? sweeps).symm.trans reads
        exact lower
      rcases List.mem_cons.mp inside with rfl | further
      · cases reads
        exact lower
      rcases List.mem_append.mp further with below | last
      · exact inductionHypothesis (Nat.lt_succ_self _) op below read reads
      · cases List.mem_singleton.mp last
        cases reads

/-- No slot is written behind an operation that reads it. -/
theorem read_lt_written (code : Code exit start slot before block after) :
    slot < before.slots → block.Pairwise fun first second =>
      ∀ read, first.read? = some read → ∀ written, second.written? = some written → read < written := by
  induction code with
  | nothing => exact fun _ => .nil
  | single => exact fun _ => List.pairwise_singleton _ _
  | append early late earlyHypothesis lateHypothesis =>
      intro low
      have lower := Nat.lt_of_lt_of_le low early.slots_le
      refine List.pairwise_append.mpr ⟨earlyHypothesis low, lateHypothesis lower, ?_⟩
      intro one first two second read reads written writes
      exact Nat.lt_of_lt_of_le (early.read_lt low one first read reads) (late.written_mem second writes).1
  | closed inner inductionHypothesis => exact inductionHypothesis
  | child loads straight inner inductionHypothesis =>
      intro low
      refine .cons ?_ (inductionHypothesis (Nat.lt_succ_self _))
      intro other below read reads written writes
      cases (Op.read?_of_link? loads).symm.trans reads
      exact Nat.lt_of_lt_of_le (Nat.lt_succ_of_lt low) (inner.written_mem below writes).1
  | @loop exit start slot before after sweep block sweeps inner inductionHypothesis =>
      intro low
      have inside : ∀ other ∈ block ++ [Op.jump (start + 1)], ∀ written, other.written? = some written →
          slot < written := by
        intro other listed written writes
        rcases List.mem_append.mp listed with below | last
        · exact Nat.lt_of_lt_of_le (Nat.lt_succ_of_lt low) (inner.written_mem below writes).1
        · cases List.mem_singleton.mp last
          cases writes
      refine .cons ?sweep (.cons ?head ?body)
      case sweep =>
        intro other listed read reads written writes
        cases (Op.read?_of_sweep? sweeps).symm.trans reads
        rcases List.mem_cons.mp listed with rfl | further
        · cases writes
          exact low
        · exact inside other further written writes
      case head =>
        intro other listed read reads
        cases reads
        exact inside other listed
      case body =>
        refine List.pairwise_append.mpr
          ⟨inductionHypothesis (Nat.lt_succ_self _), List.pairwise_singleton _ _, ?_⟩
        intro one below last isLast read reads written writes
        cases List.mem_singleton.mp isLast
        cases writes

end Code
end Conformance
