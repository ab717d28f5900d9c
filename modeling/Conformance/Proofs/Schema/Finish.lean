import Conformance.Proofs.Schema.Offence

namespace Conformance

/-!
# What finishing accepts

An arena is authored by calls that never fail for a wrong number: a call takes any number as a
child, and copies or changes a node only if there is one.  All of that is left to finishing,
which accepts exactly the arenas in which children come before their parents and every node is
proper in itself, and which reports the first offence of any other arena.

Who passes on only the numbers that earlier calls answered cannot go wrong about numbers.  A
number is answered by the call that adds its node, and whatever is added, copied or changed
after that, the children of a node stay those that it was added or copied with.
-/

namespace Arena

/-- An arena from which a schema can be made with a node as its root. -/
structure WellFormed (arena : Arena) (root : NodeId) : Prop where
  root_lt : root < arena.nodes.size
  child_lt : ∀ {id : Nat} {node : Node}, arena.nodes[id]? = some node →
    ∀ child ∈ node.form.children, child < id
  proper : ∀ {id : Nat} {node : Node}, arena.nodes[id]? = some node → node.form.Proper

/-- The offence of the first node of an arena that offends. -/
def Offends (arena : Arena) (error : SchemaError) : Prop :=
  FirstOffence (fun front node => node.Offends arena.nodes.size front.length) arena.nodes.toList error

variable {arena : Arena} {root : NodeId} {schema : Schema} {error : SchemaError}

/-- Finishing answers with the arena and the root, or with an error. -/
theorem finish_eq_ok_iff :
    arena.finish root = .ok schema ↔
      root < arena.nodes.size ∧ nodesError? arena.nodes.size 0 arena.nodes.toList = none ∧
        schema.nodes = arena.nodes ∧ schema.root = root := by
  rw [finish]
  constructor
  · intro finished
    split at finished
    case isTrue root_lt =>
      split at finished
      case h_1 => cases finished
      case h_2 no_error =>
        cases finished
        exact ⟨root_lt, no_error, rfl, rfl⟩
    case isFalse => cases finished
  · rintro ⟨root_lt, no_error, sameNodes, sameRoot⟩
    rw [dif_pos root_lt]
    split
    case h_1 found => exact absurd (no_error.symm.trans found) nofun
    case h_2 =>
      rcases schema with ⟨nodes, given, _, _⟩
      cases sameNodes
      cases sameRoot
      rfl

theorem finish_eq_error_iff :
    arena.finish root = .error error ↔
      arena.nodes.size ≤ root ∧ error = .unknownNode root ∨
        root < arena.nodes.size ∧ nodesError? arena.nodes.size 0 arena.nodes.toList = some error := by
  rw [finish]
  split
  case isTrue root_lt =>
    have known : ¬ arena.nodes.size ≤ root := Nat.not_le.mpr root_lt
    split
    case h_1 found no_error => simp [known, root_lt, no_error]
    case h_2 no_error => simp [known, no_error]
  case isFalse missing => simp [missing, Nat.le_of_not_lt missing, eq_comm]

theorem wellFormed_iff :
    arena.WellFormed root ↔
      root < arena.nodes.size ∧ nodesError? arena.nodes.size 0 arena.nodes.toList = none := by
  rw [nodesError?_eq_none_iff]
  constructor
  · rintro ⟨root_lt, child_lt, proper⟩
    refine ⟨root_lt, ?_⟩
    intro id node listed
    rw [Array.getElem?_toList] at listed
    have bound := (Array.getElem?_eq_some_iff.mp listed).1
    rw [Nat.zero_add, Node.error?_eq_none_iff (Nat.le_of_lt bound)]
    exact ⟨child_lt listed, proper listed⟩
  · rintro ⟨root_lt, every⟩
    have fits {id : Nat} {node : Node} (listed : arena.nodes[id]? = some node) :
        (∀ child ∈ node.form.children, child < id) ∧ node.form.Proper := by
      have bound := (Array.getElem?_eq_some_iff.mp listed).1
      have here := every id node (by rwa [Array.getElem?_toList])
      rwa [Nat.zero_add, Node.error?_eq_none_iff (Nat.le_of_lt bound)] at here
    exact ⟨root_lt, fun listed => (fits listed).1, fun listed => (fits listed).2⟩

theorem nodesError?_eq_some_iff_offends :
    nodesError? arena.nodes.size 0 arena.nodes.toList = some error ↔ arena.Offends error := by
  rw [nodesError?_eq_some_iff (by simp), Offends]
  simp only [Nat.zero_add]

/-! ## Calls -/

/-- A call on an arena in the making. -/
inductive Call where
  | push (node : Node)
  | add (form : Form NodeId)
  | addPattern (source : String)
  | addVariant (id : NodeId) (variant : Variant)
  | setName (id : NodeId) (name : String)
  | setRename (id : NodeId) (rename : String)

namespace Call

/-- The numbers that a call is given. -/
def given : Call → List NodeId
  | .push node => node.form.children
  | .add form => form.children
  | .addPattern _ => []
  | .addVariant id _ | .setName id _ | .setRename id _ => [id]

/-- An arena with the number of the node that was added. -/
def answering (added : Arena × NodeId) : Arena × Option NodeId := (added.1, some added.2)

/-- What a call makes of an arena, with the number that it answers.  A malformed pattern is
answered with none. -/
def perform (arena : Arena) : Call → Arena × Option NodeId
  | .push node => answering (arena.push node)
  | .add form => answering (arena.add form)
  | .addPattern source =>
      match arena.addPattern source with
      | .ok added => answering added
      | .error _ => (arena, none)
  | .addVariant id variant => answering (arena.addVariant id variant)
  | .setName id name => (arena.setName id name, some id)
  | .setRename id rename => (arena.setRename id rename, some id)

end Call

/-- An arena in the making with the numbers that have been answered. -/
structure Draft where
  arena : Arena
  answered : List NodeId

namespace Draft

/-- A draft after one more call. -/
def next (draft : Draft) (call : Call) : Draft :=
  let (arena, number?) := call.perform draft.arena
  ⟨arena, number?.toList ++ draft.answered⟩

/-- A draft after some calls, the first of them first. -/
def after (draft : Draft) (calls : List Call) : Draft := calls.foldl next draft

/-- An arena without nodes, before any call. -/
def empty : Draft := ⟨.empty, []⟩

/-- Every number that is given to a call was answered before. -/
def Orderly : Draft → List Call → Prop
  | _, [] => True
  | draft, call :: rest => (∀ id ∈ call.given, id ∈ draft.answered) ∧ Orderly (draft.next call) rest

/-- The numbers that have been answered are those of nodes, and the children of every node come
before it. -/
structure Sound (draft : Draft) : Prop where
  answered_lt : ∀ id ∈ draft.answered, id < draft.arena.nodes.size
  child_lt : ∀ {id : Nat} {node : Node}, draft.arena.nodes[id]? = some node →
    ∀ child ∈ node.form.children, child < id

variable {draft : Draft} {calls : List Call} {node : Node} {id : NodeId}

/-- A node can be added below which only nodes stand that are there already. -/
theorem Sound.push (sound : draft.Sound) (node : Node) (known : ∀ child ∈ node.form.children,
    child < draft.arena.nodes.size) :
    Sound ⟨(draft.arena.push node).1, (draft.arena.push node).2 :: draft.answered⟩ := by
  refine ⟨List.forall_mem_cons.mpr ⟨?_, ?_⟩, ?_⟩
  · rw [Arena.push, Array.size_push]
    exact Nat.lt_succ_self _
  · intro id answered
    rw [Arena.push, Array.size_push]
    exact Nat.lt_succ_of_lt (sound.answered_lt id answered)
  · intro id other listed
    rw [Arena.push, Array.getElem?_push] at listed
    split at listed
    case isTrue last =>
      cases listed
      rw [last]
      exact known
    case isFalse => exact sound.child_lt listed

/-- A node can be changed without its form. -/
theorem Sound.change (sound : draft.Sound) {update : Node → Node}
    (keeps : ∀ node, (update node).form = node.form) (answered : id ∈ draft.answered) :
    Sound ⟨draft.arena.change id update, id :: draft.answered⟩ := by
  have size : (draft.arena.change id update).nodes.size = draft.arena.nodes.size := by
    rw [Arena.change, Array.size_modify]
  refine ⟨List.forall_mem_cons.mpr ⟨?_, ?_⟩, ?_⟩
  · rw [size]
    exact sound.answered_lt id answered
  · intro other listed
    rw [size]
    exact sound.answered_lt other listed
  · intro other changed listed
    rw [Arena.change, Array.getElem?_modify] at listed
    split at listed
    case isTrue =>
      rcases Option.map_eq_some_iff.mp listed with ⟨node, found, rfl⟩
      rw [keeps]
      exact sound.child_lt found
    case isFalse => exact sound.child_lt listed

/-- A call that is given numbers that were answered keeps a draft sound. -/
theorem Sound.next (sound : draft.Sound) {call : Call}
    (known : ∀ id ∈ call.given, id ∈ draft.answered) : (draft.next call).Sound := by
  have before : ∀ child ∈ call.given, child < draft.arena.nodes.size :=
    fun child given => sound.answered_lt child (known child given)
  cases call with
  | push node => exact sound.push node before
  | add form => exact sound.push (.ofForm form) before
  | addPattern source =>
      rw [Draft.next, Call.perform, Arena.addPattern]
      cases Pattern.ofSource? source with
      | some pattern => exact sound.push (.ofForm (.leaf (.pattern pattern))) nofun
      | none => exact sound
  | addVariant id variant =>
      rw [Draft.next, Call.perform, Arena.addVariant]
      cases listed : draft.arena.nodes[id]? with
      | some node =>
          have bound := (Array.getElem?_eq_some_iff.mp listed).1
          exact sound.push (node.withVariant variant) fun child member =>
            Nat.lt_trans (sound.child_lt listed child member) bound
      | none =>
          exact ⟨List.forall_mem_cons.mpr ⟨before id List.mem_cons_self, sound.answered_lt⟩,
            sound.child_lt⟩
  | setName id name => exact sound.change (fun _ => rfl) (known id List.mem_cons_self)
  | setRename id rename => exact sound.change (fun _ => rfl) (known id List.mem_cons_self)

/-- Who passes on only numbers that were answered keeps a draft sound. -/
theorem Sound.after (sound : draft.Sound) (orderly : draft.Orderly calls) :
    (draft.after calls).Sound := by
  induction calls generalizing draft with
  | nil => exact sound
  | cons call rest inductionHypothesis =>
      exact inductionHypothesis (sound.next orderly.1) orderly.2

theorem sound_empty : empty.Sound :=
  ⟨fun _ => nofun, fun listed => by cases listed⟩

end Draft

/-- Finishing is exact.  Whatever calls an arena comes from and whatever number is given for the
root, a schema is made of it if and only if the arena is well formed.  The schema has the nodes
of the arena as they are.  Otherwise the error is that the root is unknown, or else the offence
of the first node that offends.  Where all numbers that were passed to calls had been answered
by earlier ones, every number that was answered is that of a node, and the children of all
nodes come before them. -/
theorem finish_exact (calls : List Call) (root : NodeId) :
    let draft := Draft.empty.after calls
    ((∃ schema, draft.arena.finish root = .ok schema) ↔ draft.arena.WellFormed root) ∧
    (∀ schema, draft.arena.finish root = .ok schema →
      schema.nodes = draft.arena.nodes ∧ schema.root = root) ∧
    (∀ error, draft.arena.finish root = .error error ↔
      draft.arena.nodes.size ≤ root ∧ error = .unknownNode root ∨
        root < draft.arena.nodes.size ∧ draft.arena.Offends error) ∧
    (Draft.empty.Orderly calls →
      (∀ id ∈ draft.answered, id < draft.arena.nodes.size) ∧
      ∀ (id : NodeId) (node : Node), draft.arena.nodes[id]? = some node →
        ∀ child ∈ node.form.children, child < id) := by
  intro draft
  refine ⟨?accepted, ?unchanged, ?refused, ?orderly⟩
  case accepted =>
    rw [wellFormed_iff]
    constructor
    · rintro ⟨schema, finished⟩
      rcases finish_eq_ok_iff.mp finished with ⟨root_lt, no_error, _⟩
      exact ⟨root_lt, no_error⟩
    · rintro ⟨root_lt, no_error⟩
      exact ⟨⟨draft.arena.nodes, root, root_lt, no_error⟩,
        finish_eq_ok_iff.mpr ⟨root_lt, no_error, rfl, rfl⟩⟩
  case unchanged => exact fun schema finished => (finish_eq_ok_iff.mp finished).2.2
  case refused =>
    intro error
    rw [finish_eq_error_iff, nodesError?_eq_some_iff_offends]
  case orderly =>
    intro orderly
    have sound := Draft.sound_empty.after orderly
    exact ⟨sound.answered_lt, fun _ _ listed => sound.child_lt listed⟩

/-- The calls that author an object with a name for a tag, another one that may be missing, and
by mistake the first field again. -/
def tagCalls : List Call :=
  [.add (.leaf (.string ⟨2, 10⟩)), .addVariant 0 .optional, .setName 1 "Tag",
    .add (.object [("first", 0), ("other", 1), ("first", 0)])]

/-- All numbers are in order, so the object is reported for its field. -/
theorem finish_exact_tagCalls :
    let draft := Draft.empty.after tagCalls
    Draft.empty.Orderly tagCalls ∧ draft.answered = [2, 1, 1, 0] ∧
      (∀ id ∈ draft.answered, id < draft.arena.nodes.size) ∧
      draft.arena.Offends (.repeatedField 2 "first") ∧ ¬ draft.arena.WellFormed 2 := by
  intro draft
  have orderly : Draft.empty.Orderly tagCalls :=
    ⟨by decide, by decide, by decide, by decide, trivial⟩
  have reported : draft.arena.finish 2 = .error (.repeatedField 2 "first") := by rfl
  rcases finish_exact tagCalls 2 with ⟨accepted, _, refused, numbers⟩
  refine ⟨orderly, by decide, (numbers orderly).1, ?offends, ?refused⟩
  case offends =>
    rcases (refused _).mp reported with ⟨_, unknown⟩ | ⟨_, offends⟩
    · cases unknown
    · exact offends
  case refused =>
    intro wellFormed
    rcases accepted.mpr wellFormed with ⟨schema, finished⟩
    cases finished.symm.trans reported

end Arena
end Conformance
