import Conformance.Json.Reader
import Conformance.Proofs.Json.Spelling

namespace Conformance
namespace Json

/-!
# Printed JSON is read again

What is printed for a tree spells the tokens of the tree, on whatever level the tree stands.
The machine that reads tokens takes those of a tree as the tree, wherever one may stand, as
long as there is room for its lists and maps.  So printing and reading are inverse on the
trees whose numbers are read back and whose containers are not nested too deep.
-/

namespace Tree

mutual

/-- How deep lists and maps are nested in a tree. -/
def depth : Tree → Nat
  | .list items => 1 + depthItems items
  | .map entries => 1 + depthEntries entries
  | _ => 0

/-- How deep the deepest item is nested. -/
def depthItems : List Tree → Nat
  | [] => 0
  | item :: rest => max (depth item) (depthItems rest)

/-- How deep the deepest tree of an entry is nested. -/
def depthEntries : List (String × Tree) → Nat
  | [] => 0
  | (_, tree) :: rest => max (depth tree) (depthEntries rest)

end

mutual

/-- The tokens of a tree. -/
def tokens : Tree → List Token
  | .null => [.null]
  | .boolean value => [.boolean value]
  | .number value => [.number value]
  | .text value => [.text value]
  | .list [] => [.openList, .closeList]
  | .list (item :: rest) => .openList :: tokens item ++ itemTokens rest
  | .map [] => [.openMap, .closeMap]
  | .map ((key, tree) :: rest) =>
      .openMap :: .text key :: .colon :: tokens tree ++ entryTokens rest

/-- The tokens of the items after the first, up to the closing bracket. -/
def itemTokens : List Tree → List Token
  | [] => [.closeList]
  | item :: rest => .comma :: tokens item ++ itemTokens rest

/-- The tokens of the entries after the first, up to the closing brace. -/
def entryTokens : List (String × Tree) → List Token
  | [] => [.closeMap]
  | (key, tree) :: rest => .comma :: .text key :: .colon :: tokens tree ++ entryTokens rest

end

/-- A tree whose numbers are read back. -/
inductive Legible : Tree → Prop where
  | null : Legible .null
  | boolean (value : Bool) : Legible (.boolean value)
  | number {value : Number} (readsBack : Token.ReadsBack value) : Legible (.number value)
  | text (value : String) : Legible (.text value)
  | list {items : List Tree} (each : ∀ item ∈ items, Legible item) : Legible (.list items)
  | map {entries : List (String × Tree)} (each : ∀ tree ∈ entries.map Prod.snd, Legible tree) :
      Legible (.map entries)

end Tree

/-! ## Printed trees spell their tokens -/

namespace Token

theorem separates_prettyItems (level : Nat) (items : List Tree) :
    Separates (prettyItems level items) := by
  cases items with
  | nil => exact ⟨'\n', _, rfl, rfl, by decide⟩
  | cons => exact ⟨',', _, rfl, rfl, by decide⟩

theorem separates_prettyEntries (level : Nat) (entries : List (String × Tree)) :
    Separates (prettyEntries level entries) := by
  cases entries with
  | nil => exact ⟨'\n', _, rfl, rfl, by decide⟩
  | cons => exact ⟨',', _, rfl, rfl, by decide⟩

/-- What is printed for a tree on any level spells the tokens of the tree. -/
def Printed (tree : Tree) : Prop := ∀ level : Nat, Spells (prettyChars level tree) tree.tokens

theorem spells_prettyItems {items : List Tree} (each : ∀ item ∈ items, Printed item) (level : Nat) :
    Spells (prettyItems level items) (Tree.itemTokens items) := by
  induction items with
  | nil =>
      have closing : Spells [']'] [.closeList] := spells_nil.mark fun _ => rfl
      exact closing.newline level
  | cons item rest inductionHypothesis =>
      rw [List.forall_mem_cons] at each
      have parts := (each.1 (level + 1)).append (inductionHypothesis each.2)
        (separates_prettyItems level rest)
      have line : Spells (',' :: _) (.comma :: _) := (parts.newline (level + 1)).mark fun _ => rfl
      rw [prettyItems, Tree.itemTokens]
      simpa only [List.cons_append, List.append_assoc] using line

/-- A key and the tree behind it. -/
theorem Printed.entry {tree : Tree} (printed : Printed tree) (key : String) (level : Nat)
    {rest : List Char} {more : List Token} (others : Spells rest more) (separates : Separates rest) :
    Spells (newline level ++ (quote key ++ ':' :: ' ' :: (prettyChars level tree ++ rest)))
      (.text key :: .colon :: (tree.tokens ++ more)) := by
  have parts := (printed level).append others separates
  have behindColon : Spells (':' :: _) (.colon :: _) := parts.blank.mark fun _ => rfl
  exact (behindColon.text key).newline level

theorem spells_prettyEntries {entries : List (String × Tree)}
    (each : ∀ tree ∈ entries.map Prod.snd, Printed tree) (level : Nat) :
    Spells (prettyEntries level entries) (Tree.entryTokens entries) := by
  induction entries with
  | nil =>
      have closing : Spells ['}'] [.closeMap] := spells_nil.mark fun _ => rfl
      exact closing.newline level
  | cons entry rest inductionHypothesis =>
      rcases entry with ⟨key, tree⟩
      rw [List.map_cons, List.forall_mem_cons] at each
      have parts := each.1.entry key (level + 1) (inductionHypothesis each.2)
        (separates_prettyEntries level rest)
      have line : Spells (',' :: _) (.comma :: _) := parts.mark fun _ => rfl
      rw [prettyEntries, Tree.entryTokens]
      simpa only [List.cons_append, List.append_assoc] using line

end Token

open Token in
/-- Trees whose numbers are read back spell their tokens when they are printed. -/
theorem Tree.Legible.printed {tree : Tree} (legible : tree.Legible) : Printed tree := by
  induction legible with
  | null => exact fun _ => spells_null
  | boolean value =>
      cases value with
      | false => exact fun _ => spells_false
      | true => exact fun _ => spells_true
  | number readsBack => exact fun _ => readsBack.spells
  | text value =>
      intro level
      have spelled := spells_nil.text value
      rwa [List.append_nil] at spelled
  | @list items each inductionHypothesis =>
      intro level
      cases items with
      | nil =>
          have closing : Spells [']'] [.closeList] := spells_nil.mark fun _ => rfl
          exact closing.mark fun _ => rfl
      | cons item rest =>
          rw [List.forall_mem_cons] at inductionHypothesis
          have parts := (inductionHypothesis.1 (level + 1)).append
            (spells_prettyItems inductionHypothesis.2 level) (separates_prettyItems level rest)
          have whole : Spells ('[' :: _) (.openList :: _) :=
            (parts.newline (level + 1)).mark fun _ => rfl
          rw [prettyChars, tokens]
          simpa only [List.cons_append, List.append_assoc] using whole
  | @map entries each inductionHypothesis =>
      intro level
      cases entries with
      | nil =>
          have closing : Spells ['}'] [.closeMap] := spells_nil.mark fun _ => rfl
          exact closing.mark fun _ => rfl
      | cons entry rest =>
          rcases entry with ⟨key, tree⟩
          rw [List.map_cons, List.forall_mem_cons] at inductionHypothesis
          have parts := inductionHypothesis.1.entry key (level + 1)
            (spells_prettyEntries inductionHypothesis.2 level) (separates_prettyEntries level rest)
          have whole : Spells ('{' :: _) (.openMap :: _) := parts.mark fun _ => rfl
          rw [prettyChars, tokens]
          simpa only [List.cons_append, List.append_assoc] using whole

/-! ## The tokens of a tree are read as the tree -/

namespace Machine

variable {depth : Nat}

/-- Reads some tokens. -/
def run? (depth : Nat) (machine : Machine) (tokens : List Token) : Option Machine :=
  tokens.foldlM (step? depth) machine

theorem run?_cons (machine : Machine) (token : Token) (rest : List Token) :
    machine.run? depth (token :: rest) = (machine.step? depth token).bind (run? depth · rest) :=
  rfl

theorem run?_append (machine : Machine) (first second : List Token) :
    machine.run? depth (first ++ second) = (machine.run? depth first).bind (run? depth · second) :=
  List.foldlM_append

/-- The tokens of a tree are read as the tree, wherever a value may stand and there is room
for it. -/
def Reads (depth : Nat) (tree : Tree) : Prop :=
  ∀ frames : List Frame, frames.length + tree.depth ≤ depth →
    run? depth ⟨frames, .value⟩ tree.tokens = deliver? frames tree

/-- An open list is read to its end. -/
theorem run?_itemTokens {frames : List Frame} {items : List Tree}
    (each : ∀ item ∈ items, Reads depth item)
    (room : frames.length + 1 + Tree.depthItems items ≤ depth) :
    ∀ before : List Tree,
    run? depth ⟨.list before :: frames, .commaOrClose⟩ (Tree.itemTokens items) =
      deliver? frames (.list (before.reverse ++ items)) := by
  induction items with
  | nil =>
      intro before
      rw [List.append_nil]
      exact Option.bind_fun_some _
  | cons item rest inductionHypothesis =>
      intro before
      rw [List.forall_mem_cons] at each
      rw [Tree.depthItems] at room
      have here := each.1 (.list before :: frames) (by rw [List.length_cons]; omega)
      have later := inductionHypothesis each.2 (by omega) (item :: before)
      rw [List.reverse_cons, List.append_assoc, List.singleton_append] at later
      have comma : step? depth ⟨.list before :: frames, .commaOrClose⟩ .comma =
          some ⟨.list before :: frames, .value⟩ := rfl
      rw [Tree.itemTokens, List.cons_append, run?_cons, comma, Option.bind_some, run?_append, here]
      exact later

/-- An entry of an open map is read. -/
theorem run?_entry {frames : List Frame} {tree : Tree} (reads : Reads depth tree)
    (room : frames.length + 1 + tree.depth ≤ depth) (before : List (String × Tree)) (key : String)
    (rest : List Token) {expected : Expected} (open? : expected = .key ∨ expected = .keyOrClose) :
    run? depth ⟨.map before none :: frames, expected⟩
        (.text key :: .colon :: (tree.tokens ++ rest)) =
      run? depth ⟨.map ((key, tree) :: before) none :: frames, .commaOrClose⟩ rest := by
  have named : step? depth ⟨.map before none :: frames, expected⟩ (.text key) =
      some ⟨.map before (some key) :: frames, .colon⟩ := by
    rcases open? with rfl | rfl <;> rfl
  have colon : step? depth ⟨.map before (some key) :: frames, .colon⟩ .colon =
      some ⟨.map before (some key) :: frames, .value⟩ := rfl
  rw [run?_cons, named, Option.bind_some, run?_cons, colon, Option.bind_some, run?_append,
    reads _ (by rw [List.length_cons]; omega)]
  rfl

/-- An open map is read to its end. -/
theorem run?_entryTokens {frames : List Frame} {entries : List (String × Tree)}
    (each : ∀ tree ∈ entries.map Prod.snd, Reads depth tree)
    (room : frames.length + 1 + Tree.depthEntries entries ≤ depth) :
    ∀ before : List (String × Tree),
    run? depth ⟨.map before none :: frames, .commaOrClose⟩ (Tree.entryTokens entries) =
      deliver? frames (.map (before.reverse ++ entries)) := by
  induction entries with
  | nil =>
      intro before
      rw [List.append_nil]
      exact Option.bind_fun_some _
  | cons entry rest inductionHypothesis =>
      intro before
      rcases entry with ⟨key, tree⟩
      rw [List.map_cons, List.forall_mem_cons] at each
      rw [Tree.depthEntries] at room
      have later := inductionHypothesis each.2 (by omega) ((key, tree) :: before)
      rw [List.reverse_cons, List.append_assoc, List.singleton_append] at later
      have comma : step? depth ⟨.map before none :: frames, .commaOrClose⟩ .comma =
          some ⟨.map before none :: frames, .key⟩ := rfl
      rw [Tree.entryTokens, List.cons_append, List.cons_append, List.cons_append, run?_cons, comma,
        Option.bind_some, run?_entry (show Reads depth tree from each.1) (by omega) before key _ (.inl rfl)]
      exact later

/-- Where a list may end, a value may stand as well. -/
theorem run?_valueOrClose (frames : List Frame) (tree : Tree) (rest : List Token) :
    run? depth ⟨frames, .valueOrClose⟩ (tree.tokens ++ rest) =
      run? depth ⟨frames, .value⟩ (tree.tokens ++ rest) := by
  cases tree with
  | list items => cases items <;> rfl
  | map entries => cases entries <;> rfl
  | _ => rfl

end Machine

open Json.Machine in
/-- The tokens of a tree are read as the tree. -/
theorem Tree.Legible.reads {depth : Nat} {tree : Tree} (legible : tree.Legible) :
    Reads depth tree := by
  induction legible with
  | null | boolean | number | text => exact fun frames _ => Option.bind_fun_some _
  | @list items each inductionHypothesis =>
      intro frames room
      rw [Tree.depth] at room
      have opened : step? depth ⟨frames, .value⟩ .openList =
          some ⟨.list [] :: frames, .valueOrClose⟩ := if_pos (show frames.length < depth by omega)
      cases items with
      | nil =>
          rw [tokens, run?_cons, opened]
          exact Option.bind_fun_some _
      | cons item rest =>
          rw [Tree.depthItems] at room
          rw [List.forall_mem_cons] at inductionHypothesis
          rw [tokens, List.cons_append, run?_cons, opened, Option.bind_some, run?_valueOrClose,
            run?_append, inductionHypothesis.1 _ (by rw [List.length_cons]; omega)]
          exact run?_itemTokens inductionHypothesis.2 (by omega) [item]
  | @map entries each inductionHypothesis =>
      intro frames room
      rw [Tree.depth] at room
      have opened : step? depth ⟨frames, .value⟩ .openMap =
          some ⟨.map [] none :: frames, .keyOrClose⟩ := if_pos (show frames.length < depth by omega)
      cases entries with
      | nil =>
          rw [tokens, run?_cons, opened]
          exact Option.bind_fun_some _
      | cons entry rest =>
          rcases entry with ⟨key, tree⟩
          rw [Tree.depthEntries] at room
          rw [List.map_cons, List.forall_mem_cons] at inductionHypothesis
          rw [tokens, List.cons_append, List.cons_append, List.cons_append, run?_cons, opened,
            Option.bind_some,
            run?_entry (show Reads depth tree from inductionHypothesis.1) (by omega) [] key _ (.inr rfl)]
          exact run?_entryTokens inductionHypothesis.2 (by omega) [(key, tree)]

/-- A printed tree is read as the tree. -/
theorem Tree.Legible.readWithin?_pretty {tree : Tree} (legible : tree.Legible) {depth : Nat}
    (shallow : tree.depth ≤ depth) : readWithin? depth (pretty tree) = some tree := by
  have run : tree.tokens.foldlM (Machine.step? depth) ⟨[], .value⟩ =
      some ⟨[], .nothing tree⟩ := legible.reads [] (by rwa [List.length_nil, Nat.zero_add])
  rw [readWithin?, pretty, String.toList_ofList, (legible.printed 0).scan?, Option.bind_some,
    ofTokens?, run]
  rfl

theorem Tree.Legible.read?_pretty {tree : Tree} (legible : tree.Legible)
    (shallow : tree.depth ≤ defaultDepth) : read? (pretty tree) = some tree :=
  legible.readWithin?_pretty shallow

end Json
end Conformance
