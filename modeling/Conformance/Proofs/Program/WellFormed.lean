import Conformance.Proofs.Program.Arrangement
import Conformance.Proofs.Program.Entries
import Conformance.Proofs.Program.Safety

namespace Conformance

/-!
# Well-formed programs

An assembled program is put together right in everything that a machine relies on without a look.
Whatever leads over other operations leads forward and into no block that it does not lead out of,
and only the end of a loop leads back, to the head of this loop.  Every slot but that of the checked
value is filled by one operation, which comes before all that read it, and every cursor belongs to
one loop.

The tables have no entry twice and none in vain.  They list what the tree needs in the order in which
a walk from its root first needs it.
-/

namespace Program

/-- A loop: its head loads one part of a value after another and leads behind the end of the loop,
where an operation leads back to the head. -/
structure IsLoop (program : Program) (head last : Nat) : Prop where
  advances : ∃ source cursor target,
    program.ops[head]? = some (.next source cursor target (last + 1))
  returns : program.ops[last]? = some (.jump head)
  later : head < last

/-- The one operation that loads a value into a slot, out of a smaller slot and before all that read
it. -/
structure Fills (program : Program) (position slot : Nat) : Prop where
  loads : ∃ op source, program.ops[position]? = some op ∧ op.link? = some (source, slot) ∧
    source < slot
  only : ∀ (other : Nat) (op : Op), program.ops[other]? = some op → op.written? = some slot →
    other = position
  first : ∀ (other : Nat) (op : Op), program.ops[other]? = some op → op.read? = some slot →
    position < other

/-- The one loop that uses a cursor.  The operation that starts it and its head right behind are all
that name the cursor. -/
structure Sweeps (program : Program) (start cursor : Nat) : Prop where
  starts : ∃ op source target done, program.ops[start]? = some op ∧
    op.sweep? = some (source, cursor) ∧
    program.ops[start + 1]? = some (.next source cursor target done)
  only : ∀ (position : Nat) (op : Op), program.ops[position]? = some op → cursor ∈ op.cursors →
    position = start ∨ position = start + 1

/-- A program whose leaps, loops, slots, cursors and tables are in order. -/
structure WellFormed (program : Program) : Prop where
  /-- What leads over other operations leads forward, and to the end of the program at most. -/
  forward : ∀ (position : Nat) (op : Op) (target : Nat), program.ops[position]? = some op →
    op.leap? = some target → position < target ∧ target ≤ program.size
  /-- Of two leaps the second begins behind the end of the first or ends no later. -/
  nested : ∀ (first second : Nat) (op other : Op) (target limit : Nat), first < second →
    program.ops[first]? = some op → program.ops[second]? = some other →
    op.leap? = some target → other.leap? = some limit → target ≤ second ∨ limit ≤ target
  /-- Whatever leads back ends a loop and leads to its head, and this is the innermost loop here. -/
  returns : ∀ (position head : Nat), program.ops[position]? = some (.jump head) →
    program.IsLoop head position ∧ ∀ (other last : Nat), program.IsLoop other last →
      other < position → position ≤ last → other ≤ head
  /-- Every head of a loop is led back to from the end of this loop. -/
  heads : ∀ (head source cursor target done : Nat),
    program.ops[head]? = some (.next source cursor target done) →
    ∃ last, done = last + 1 ∧ program.IsLoop head last
  /-- Nothing is loaded into the slot of the checked value. -/
  written : ∀ (position : Nat) (op : Op) (slot : Nat), program.ops[position]? = some op →
    op.written? = some slot → 0 < slot ∧ slot < program.slots
  /-- Every other slot is filled. -/
  slots : ∀ slot, 0 < slot → slot < program.slots → ∃ position, program.Fills position slot
  /-- Every cursor belongs to a loop. -/
  cursors : ∀ cursor, cursor < program.cursors → ∃ start, program.Sweeps start cursor
  /-- Every index is an index of its table. -/
  inRange : ∀ (position : Nat) (op : Op), program.ops[position]? = some op →
    op.InRange program.tables
  templates : program.templates.toList.Nodup
  strings : program.strings.toList.Nodup
  /-- Every template is reported by some operation. -/
  reported : ∀ index, index < program.templates.size →
    ∃ (position : Nat) (op : Op), program.ops[position]? = some op ∧ index ∈ op.templates
  /-- Every string is looked up or compared with by some operation. -/
  compared : ∀ index, index < program.strings.size →
    ∃ (position : Nat) (op : Op), program.ops[position]? = some op ∧ index ∈ op.strings

/-! ## Positions -/

section

variable {program : Program} {op other : Op} {first second position : Nat}

theorem mem_listing_iff :
    (op, position) ∈ listing 0 program.ops.toList ↔ program.ops[position]? = some op := by
  rw [listing, List.mem_zipIdx_iff_getElem?, Array.getElem?_toList]

theorem exists_fetched (listed : op ∈ program.ops.toList) :
    ∃ position : Nat, program.ops[position]? = some op := by
  rcases List.mem_iff_getElem?.mp listed with ⟨position, found⟩
  exact ⟨position, Array.getElem?_toList.symm.trans found⟩

/-- What holds of the operations in their order holds of any two positions. -/
theorem of_pairwise {relation : Op × Nat → Op × Nat → Prop}
    (pairwise : (listing 0 program.ops.toList).Pairwise relation) (order : first < second)
    (here : program.ops[first]? = some op) (there : program.ops[second]? = some other) :
    relation (op, first) (other, second) := by
  have found : ∀ {position : Nat} {op : Op}, program.ops[position]? = some op →
      (listing 0 program.ops.toList)[position]? = some (op, position) := by
    intro position op fetched
    rw [listing, List.getElem?_zipIdx, Array.getElem?_toList, fetched, Nat.zero_add]
    rfl
  rcases List.getElem?_eq_some_iff.mp (found here) with ⟨inside, same⟩
  rcases List.getElem?_eq_some_iff.mp (found there) with ⟨insideToo, sameToo⟩
  have holds := List.pairwise_iff_getElem.mp pairwise first second inside insideToo order
  rwa [same, sameToo] at holds

/-- The same where positions play no part. -/
theorem of_pairwise_ops {relation : Op → Op → Prop} (pairwise : program.ops.toList.Pairwise relation)
    (order : first < second) (here : program.ops[first]? = some op)
    (there : program.ops[second]? = some other) : relation op other := by
  have places : (listing 0 program.ops.toList).map Prod.fst = program.ops.toList := List.zipIdx_map_fst ..
  rw [← places, List.pairwise_map] at pairwise
  exact of_pairwise pairwise order here there

/-- No two operations take the same number if none is listed twice. -/
theorem position_unique {taken? : Op → Option Nat} {number : Nat}
    (once : (program.ops.toList.filterMap taken?).Nodup)
    (here : program.ops[first]? = some op) (there : program.ops[second]? = some other)
    (taken : taken? op = some number) (takenToo : taken? other = some number) : first = second := by
  have differ := List.pairwise_filterMap.mp once
  rcases Nat.lt_trichotomy first second with order | same | order
  · exact absurd rfl (of_pairwise_ops differ order here there number taken number takenToo)
  · exact same
  · exact absurd rfl (of_pairwise_ops differ order there here number takenToo number taken)

end

/-! ## The code of a program -/

/-- The operations of a program as code that reads the checked value from slot 0. -/
def IsCode (program : Program) : Prop :=
  Code program.size 0 0 ⟨1, 0⟩ program.ops.toList ⟨program.slots, program.cursors⟩

namespace IsCode

variable {program : Program} {op : Op} {position : Nat}

theorem forward (code : program.IsCode) {target : Nat} (fetched : program.ops[position]? = some op)
    (leaps : op.leap? = some target) : position < target ∧ target ≤ program.size := by
  have place := code.leaps_forward (op, position) (mem_listing_iff.mpr fetched) target leaps
  have size : program.ops.toList.length = program.size := rfl
  omega

theorem nested (code : program.IsCode) {first second target limit : Nat} {other : Op}
    (order : first < second) (here : program.ops[first]? = some op)
    (there : program.ops[second]? = some other) (leaps : op.leap? = some target)
    (leapsToo : other.leap? = some limit) : target ≤ second ∨ limit ≤ target := by
  have ends : 0 + program.ops.toList.length ≤ program.size := Nat.le_of_eq (Nat.zero_add _)
  exact of_pairwise (code.leaps_nested ends) order here there target leaps limit leapsToo

/-! ### Loops -/

/-- The end of a whole loop. -/
theorem loop_of_jump (code : program.IsCode) {head : Nat}
    (fetched : program.ops[position]? = some (.jump head)) :
    ∃ first source cursor target, head = first + 1 ∧
      WholeLoop (listing 0 program.ops.toList) first position source cursor target := by
  rcases code.hasLoop (.jump head, position) (mem_listing_iff.mpr fetched) rfl with
    ⟨first, last, source, cursor, target, loop, rfl | rfl | rfl⟩
  · rcases loop.begins with ⟨sweep, sweeps, begins⟩
    cases fetched.symm.trans (mem_listing_iff.mp begins)
    cases sweeps
  · cases fetched.symm.trans (mem_listing_iff.mp loop.head)
  · cases fetched.symm.trans (mem_listing_iff.mp loop.back)
    exact ⟨first, source, cursor, target, rfl, loop⟩

/-- The head of a whole loop. -/
theorem loop_of_next (code : program.IsCode) {source cursor target done : Nat}
    (fetched : program.ops[position]? = some (.next source cursor target done)) :
    ∃ first last, position = first + 1 ∧ done = last + 1 ∧
      WholeLoop (listing 0 program.ops.toList) first last source cursor target := by
  rcases code.hasLoop (.next source cursor target done, position) (mem_listing_iff.mpr fetched) rfl with
    ⟨first, last, origin, used, into, loop, rfl | rfl | rfl⟩
  · rcases loop.begins with ⟨sweep, sweeps, begins⟩
    cases fetched.symm.trans (mem_listing_iff.mp begins)
    cases sweeps
  · cases fetched.symm.trans (mem_listing_iff.mp loop.head)
    exact ⟨first, last, rfl, rfl, loop⟩
  · cases fetched.symm.trans (mem_listing_iff.mp loop.back)

/-- The beginning of a whole loop. -/
theorem loop_of_sweep (code : program.IsCode) {source cursor : Nat}
    (fetched : program.ops[position]? = some op) (sweeps : op.sweep? = some (source, cursor)) :
    ∃ last target,
      WholeLoop (listing 0 program.ops.toList) position last source cursor target := by
  rcases code.hasLoop (op, position) (mem_listing_iff.mpr fetched) (Op.loops_of_sweep? sweeps) with
    ⟨first, last, origin, used, target, loop, rfl | rfl | rfl⟩
  · rcases loop.begins with ⟨sweep, begun, begins⟩
    cases fetched.symm.trans (mem_listing_iff.mp begins)
    cases sweeps.symm.trans begun
    exact ⟨last, target, loop⟩
  · cases fetched.symm.trans (mem_listing_iff.mp loop.head)
    cases sweeps
  · cases fetched.symm.trans (mem_listing_iff.mp loop.back)
    cases sweeps

end IsCode

theorem isLoop_of_whole {program : Program} {first last source cursor target : Nat}
    (loop : WholeLoop (listing 0 program.ops.toList) first last source cursor target) :
    program.IsLoop (first + 1) last where
  advances := ⟨source, cursor, target, mem_listing_iff.mp loop.head⟩
  returns := mem_listing_iff.mp loop.back
  later := loop.later

namespace IsCode

variable {program : Program} {position : Nat}

theorem returns (code : program.IsCode) {head : Nat}
    (fetched : program.ops[position]? = some (.jump head)) :
    program.IsLoop head position ∧ ∀ other last, program.IsLoop other last → other < position →
      position ≤ last → other ≤ head := by
  rcases code.loop_of_jump fetched with ⟨first, source, cursor, target, rfl, loop⟩
  refine ⟨isLoop_of_whole loop, fun other last around before behind => ?_⟩
  by_contra inside
  rcases around.advances with ⟨_, _, _, advances⟩
  -- The other loop would begin within this one, so it would end with it and have the same head.
  have ends : position + 1 ≤ other ∨ last + 1 ≤ position + 1 :=
    code.nested (Nat.lt_of_not_le inside) (mem_listing_iff.mp loop.head) advances rfl rfl
  have same : last = position := by omega
  have returns := around.returns
  rw [same, fetched] at returns
  cases returns
  exact inside (Nat.le_refl _)

theorem heads (code : program.IsCode) {source cursor target done : Nat}
    (fetched : program.ops[position]? = some (.next source cursor target done)) :
    ∃ last, done = last + 1 ∧ program.IsLoop position last := by
  rcases code.loop_of_next fetched with ⟨first, last, rfl, rfl, loop⟩
  exact ⟨last, rfl, isLoop_of_whole loop⟩

/-! ### Slots and cursors -/

theorem written (code : program.IsCode) {op : Op} {slot : Nat}
    (fetched : program.ops[position]? = some op) (writes : op.written? = some slot) :
    0 < slot ∧ slot < program.slots :=
  code.written_mem (List.mem_of_getElem? (Array.getElem?_toList.trans fetched)) writes

theorem slots (code : program.IsCode) (sound : program.Sound) {slot : Nat} (positive : 0 < slot)
    (inside : slot < program.slots) : ∃ position, program.Fills position slot := by
  have handedOut := code.slots_handedOut
  have member := handedOut.mem_iff.mpr ⟨positive, inside⟩
  rcases List.mem_filterMap.mp member with ⟨op, listed, writes⟩
  rcases exists_fetched listed with ⟨position, fetched⟩
  rcases Op.link?_of_written? writes with ⟨source, loads⟩
  have lower : source < slot := sound.forward position op fetched (source, slot) loads
  refine ⟨position, ⟨op, source, fetched, loads, lower⟩, ?only, ?first⟩
  case only =>
    intro other writer there writesToo
    exact position_unique handedOut.nodup there fetched writesToo writes
  case first =>
    intro other reader there reads
    by_contra early
    rcases Nat.lt_or_eq_of_le (Nat.le_of_not_lt early) with before | rfl
    · have ordered := of_pairwise_ops (code.read_lt_written Nat.zero_lt_one) before there fetched
      exact Nat.lt_irrefl slot (ordered slot reads slot writes)
    · cases fetched.symm.trans there
      have same : slot = source := Option.some.inj (reads.symm.trans (Op.read?_of_link? loads))
      exact Nat.lt_irrefl slot (same ▸ lower)

theorem cursors (code : program.IsCode) {cursor : Nat} (inside : cursor < program.cursors) :
    ∃ start, program.Sweeps start cursor := by
  have handedOut := code.cursors_handedOut
  have member := handedOut.mem_iff.mpr ⟨Nat.zero_le cursor, inside⟩
  rcases List.mem_filterMap.mp member with ⟨op, listed, advances⟩
  rcases exists_fetched listed with ⟨position, fetched⟩
  rcases Op.advanced?_cases advances with ⟨source, target, done, rfl⟩
  rcases code.loop_of_next fetched with ⟨start, last, rfl, rfl, loop⟩
  rcases loop.begins with ⟨sweep, sweeps, begins⟩
  refine ⟨start, ⟨sweep, source, target, last + 1, mem_listing_iff.mp begins, sweeps, fetched⟩, ?_⟩
  intro position op there uses
  rcases Op.cursors_cases uses with ⟨other, begun⟩ | advancesToo
  · rcases code.loop_of_sweep there begun with ⟨_, _, loopToo⟩
    have same : position + 1 = start + 1 :=
      position_unique handedOut.nodup (mem_listing_iff.mp loopToo.head) fetched rfl rfl
    exact .inl (Nat.succ.inj same)
  · exact .inr (position_unique handedOut.nodup there fetched advancesToo rfl)

end IsCode

/-! ## The tables of a program -/

section

variable {program : Program} {needs : List Need}

/-- What a table lists is needed. -/
theorem needed_of_lists {Entry : Type} [BEq Entry] [LawfulBEq Entry] {table : Array Entry}
    {listed? : Need → Option Entry} (lists : table.toList = (needs.filterMap listed?).eraseDups)
    {index : Nat} (inside : index < table.size) : ∃ need ∈ needs, listed? need = some table[index] := by
  have listed := Array.getElem_mem_toList inside
  rw [lists, List.mem_eraseDups] at listed
  exact List.mem_filterMap.mp listed

/-- An entry of a table without repetitions is found at one index. -/
theorem index_unique {Entry : Type} {table : Array Entry} {index found : Nat}
    (once : table.toList.Nodup) (inside : index < table.size)
    (there : table[found]? = some table[index]) : found = index := by
  have same : table.toList[index]? = table.toList[found]? := by
    rw [Array.getElem?_toList, Array.getElem?_toList, Array.getElem?_eq_getElem inside, there]
  exact ((List.getElem?_inj inside once).mp same).symm

theorem lists_of_serves (serves : Serves .initial program.tables program.ops.toList needs) :
    Lists program.tables needs :=
  serves.lists [] ⟨rfl, rfl⟩

theorem cited_of_serves (serves : Serves .initial program.tables program.ops.toList needs) {need : Need}
    (needed : need ∈ needs) :
    ∃ (position : Nat) (op : Op), program.ops[position]? = some op ∧ op.Cites program.tables need := by
  rcases serves.cites program.tables (.refl program.tables) need needed with ⟨op, listed, cites⟩
  rcases exists_fetched listed with ⟨position, fetched⟩
  exact ⟨position, op, fetched, cites⟩

theorem reported_of_serves (serves : Serves .initial program.tables program.ops.toList needs)
    {index : Nat} (inside : index < program.templates.size) :
    ∃ (position : Nat) (op : Op), program.ops[position]? = some op ∧ index ∈ op.templates := by
  have lists : program.templates.toList = _ := (lists_of_serves serves).templates
  rcases needed_of_lists lists inside with ⟨need, needed, same⟩
  rw [Need.template?_eq_some.mp same] at needed
  rcases cited_of_serves serves needed with ⟨position, op, fetched, found, reports, there⟩
  have once : program.templates.toList.Nodup := lists ▸ nodup_eraseDups _
  exact ⟨position, op, fetched, index_unique once inside there ▸ reports⟩

theorem compared_of_serves (serves : Serves .initial program.tables program.ops.toList needs)
    {index : Nat} (inside : index < program.strings.size) :
    ∃ (position : Nat) (op : Op), program.ops[position]? = some op ∧ index ∈ op.strings := by
  have lists : program.strings.toList = _ := (lists_of_serves serves).strings
  rcases needed_of_lists lists inside with ⟨need, needed, same⟩
  rw [Need.string?_eq_some.mp same] at needed
  rcases cited_of_serves serves needed with ⟨position, op, fetched, found, compares, there⟩
  have once : program.strings.toList.Nodup := lists ▸ nodup_eraseDups _
  exact ⟨position, op, fetched, index_unique once inside there ▸ compares⟩

end
end Program

/-! ## Assembled programs -/

namespace Schema

variable {schema : Schema} {mode : UnionMode} {budget : Nat} {program : Program}

theorem layout_isCode (schema : Schema) (mode : UnionMode) : (schema.layout mode).IsCode :=
  Layout.node_code schema.rootShape (schema.layout mode).size 0 0 .initial

theorem layout_serves (schema : Schema) (mode : UnionMode) :
    Serves .initial (schema.layout mode).tables (schema.layout mode).ops.toList
      schema.rootShape.needs :=
  Layout.node_serves schema.rootShape 0 0 .initial

theorem layout_wellFormed (schema : Schema) (mode : UnionMode) : (schema.layout mode).WellFormed := by
  have code := schema.layout_isCode mode
  have serves := schema.layout_serves mode
  have sound := schema.layout_sound mode
  have lists := Program.lists_of_serves serves
  exact
    { forward := fun _ _ _ fetched leaps => code.forward fetched leaps
      nested := fun _ _ _ _ _ _ order here there leaps leapsToo =>
        code.nested order here there leaps leapsToo
      returns := fun _ _ fetched => code.returns fetched
      heads := fun _ _ _ _ _ fetched => code.heads fetched
      written := fun _ _ _ fetched writes => code.written fetched writes
      slots := fun _ positive inside => code.slots sound positive inside
      cursors := fun _ inside => code.cursors inside
      inRange := sound.inRange
      templates := lists.templates ▸ nodup_eraseDups _
      strings := lists.strings ▸ nodup_eraseDups _
      reported := fun _ inside => Program.reported_of_serves serves inside
      compared := fun _ inside => Program.compared_of_serves serves inside }

/-- An assembled program is well-formed, and its tables list what the tree needs, in the order of a
walk from the root. -/
theorem assembled_wellFormed (assembled : schema.assemble mode budget = .ok program) :
    program.WellFormed ∧
    program.templates.toList = (schema.rootShape.needs.filterMap Need.template?).eraseDups ∧
    program.strings.toList = (schema.rootShape.needs.filterMap Need.string?).eraseDups := by
  rw [layout_of_assemble assembled]
  have lists := Program.lists_of_serves (schema.layout_serves mode)
  exact ⟨schema.layout_wellFormed mode, lists.templates, lists.strings⟩

/-- A loop around a union with a loop in one of its alternatives.  The mismatch of the union is listed
before what its alternatives report. -/
theorem assembled_wellFormed_listOfUnions :
    listOfUnions.assemble .all 64 = .ok (listOfUnions.layout .all) ∧
    (listOfUnions.layout .all).WellFormed ∧
    (listOfUnions.layout .all).templates.toList.map (·.kind) =
      [.required, .notArray, .wrongLength, .compositeMismatch, .notString, .wrongLength, .notInteger,
        .outOfRange] := by
  rcases assembled_wellFormed assemble_listOfUnions with ⟨wellFormed, templates, _⟩
  refine ⟨assemble_listOfUnions, wellFormed, ?_⟩
  rw [templates]
  decide

end Schema
end Conformance
