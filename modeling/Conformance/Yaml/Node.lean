import Conformance.Yaml.Token

namespace Conformance
namespace Yaml

/-!
# Nodes of YAML text

A text holds at most one document, and a document is one node.  An alias stands
for the node with its anchor.  Aliases are replaced while the text is read, so a
node inside its own anchor is refused, and the count of replacements is kept, a
replaced alias counting those inside of it again.

The reader goes down the structure of the text.  It takes tokens from the front of
a list, and its fuel bounds how deep it goes.
-/

/-- A node. -/
inductive Node where
  | scalar (tag : Option String) (style : Style) (text : String)
  | list (tag : Option String) (items : List Node)
  | map (tag : Option String) (entries : List (Node × Node))
deriving Repr

namespace Node

mutual

/-- How deep collections are nested. -/
def depth : Node → Nat
  | .scalar _ _ _ => 0
  | .list _ items => 1 + depthItems items
  | .map _ entries => 1 + depthEntries entries

/-- How deep the items of a list are nested. -/
def depthItems : List Node → Nat
  | [] => 0
  | item :: rest => max (depth item) (depthItems rest)

/-- How deep the entries of a map are nested. -/
def depthEntries : List (Node × Node) → Nat
  | [] => 0
  | (key, value) :: rest => max (max (depth key) (depth value)) (depthEntries rest)

end

/-- The node that stands where nothing is written. -/
def nothing : Node := .scalar none .plain ""

end Node

/-- A node together with the count of aliases that were replaced in it. -/
structure Read (Content : Type) where
  content : Content
  replaced : Nat

/-- The state of the reader.  Anchors are numbered in the order of their nodes, and
a name means the newest of its anchors.  `events` counts scalars, aliases and both
ends of collections. -/
structure Reader where
  tokens : List Token
  handles : List (String × String)
  anchors : List (String × Nat)
  finished : List (Nat × Read Node)
  events : Nat

/-- An action of the reader. -/
abbrev Reading : Type → Type := StateT Reader Option

namespace Reading

/-- The token that comes next. -/
def peek : Reading (Option Token) := do return (← get).tokens.head?

/-- Drops the token that comes next. -/
def advance : Reading Unit := modify fun reader => { reader with tokens := reader.tokens.drop 1 }

/-- Drops the next token, which must be a given one. -/
def expect (token : Token) : Reading Unit := do
  if (← peek) == some token then advance else failure

/-- Counts events. -/
def count (events : Nat) : Reading Unit :=
  modify fun reader => { reader with events := reader.events + events }

/-- The node where nothing is written. -/
def nothing : Reading (Read Node) := do
  count 1
  return ⟨.nothing, 0⟩

/-- The text of a tag whose handle is replaced. -/
def resolveTag (handle suffix : String) : Reading String := do
  if handle.isEmpty then return suffix
  else
    match (← get).handles.lookup handle with
    | some lead => return lead ++ suffix
    | none => failure

/-- What precedes a node. -/
structure Properties where
  anchor : Option String
  tag : Option String

/-- Takes the anchor and the tag of a node, each of which may be missing. -/
def properties : Reading Properties := do
  match ← peek with
  | some (.anchor name) =>
      advance
      match ← peek with
      | some (.tag handle suffix) =>
          advance
          return ⟨some name, some (← resolveTag handle suffix)⟩
      | _ => return ⟨some name, none⟩
  | some (.tag handle suffix) =>
      advance
      match ← peek with
      | some (.anchor name) =>
          advance
          return ⟨some name, some (← resolveTag handle suffix)⟩
      | _ => return ⟨none, some (← resolveTag handle suffix)⟩
  | _ => return ⟨none, none⟩

/-- The node that an alias stands for. -/
def aliased (name : String) : Reading (Read Node) := do
  let reader ← get
  match reader.anchors.lookup name with
  | none => failure
  | some number =>
      match reader.finished.lookup number with
      | none => failure
      | some ⟨node, replaced⟩ =>
          count 1
          return ⟨node, replaced + 1⟩

/-- Reads a node that may have an anchor. -/
def anchored (anchor : Option String) (read : Reading (Read Node)) : Reading (Read Node) := do
  match anchor with
  | none => read
  | some name =>
      let number := (← get).anchors.length
      modify fun reader => { reader with anchors := (name, number) :: reader.anchors }
      let node ← read
      modify fun reader => { reader with finished := (number, node) :: reader.finished }
      return node

/-- Whether a token ends an entry of a block. -/
def endsBlockEntry : Option Token → Bool
  | some .key | some .value | some .blockEnd => true
  | _ => false

/-- Whether a token ends the key of a flow map or pair, `closing` being the bracket
that ends the collection. -/
def endsFlowKey (closing : Token) (token : Option Token) : Bool :=
  token == some .value || token == some .flowEntry || token == some closing

/-- Whether a token ends the value of a flow map or pair. -/
def endsFlowValue (closing : Token) (token : Option Token) : Bool :=
  token == some .flowEntry || token == some closing

mutual

/-- Reads a node.  Block collections may begin only where `block` is set, lists
without a margin of their own only where `indentless` is set. -/
def node (block indentless : Bool) : Nat → Reading (Read Node)
  | 0 => failure
  | fuel + 1 => do
      match ← peek with
      | some (.aliasOf name) =>
          advance
          aliased name
      | _ =>
          let properties ← properties
          anchored properties.anchor (bare block indentless properties fuel)

/-- Reads a node behind its properties. -/
def bare (block indentless : Bool) (properties : Properties) : Nat → Reading (Read Node)
  | 0 => failure
  | fuel + 1 => do
      let tag := properties.tag
      match ← peek with
      | some (.scalar style text) =>
          advance
          count 1
          return ⟨.scalar (tag.filter (· != "!")) style text, 0⟩
      | some .flowSequence =>
          advance
          count 2
          let items ← flowItems true fuel
          return ⟨.list tag items.content, items.replaced⟩
      | some .flowMapping =>
          advance
          count 2
          let entries ← flowEntries true fuel
          return ⟨.map tag entries.content, entries.replaced⟩
      | some .blockSequence =>
          if block then
            advance
            count 2
            let items ← blockItems fuel
            return ⟨.list tag items.content, items.replaced⟩
          else failure
      | some .blockMapping =>
          if block then
            advance
            count 2
            let entries ← blockEntries fuel
            return ⟨.map tag entries.content, entries.replaced⟩
          else failure
      | token =>
          if indentless && token == some .blockEntry then
            count 2
            let items ← indentlessItems fuel
            return ⟨.list tag items.content, items.replaced⟩
          else if properties.anchor.isSome || tag.isSome then
            count 1
            return ⟨.scalar (tag.filter (· != "!")) .plain "", 0⟩
          else failure

/-- Reads the items of a block list. -/
def blockItems : Nat → Reading (Read (List Node))
  | 0 => failure
  | fuel + 1 => do
      match ← peek with
      | some .blockEntry =>
          advance
          let next ← peek
          let item ←
            if next == some .blockEntry || next == some .blockEnd then nothing
            else node true false fuel
          let rest ← blockItems fuel
          return ⟨item.content :: rest.content, item.replaced + rest.replaced⟩
      | some .blockEnd =>
          advance
          return ⟨[], 0⟩
      | _ => failure

/-- Reads the items of a list that stands at the margin of the map around it. -/
def indentlessItems : Nat → Reading (Read (List Node))
  | 0 => failure
  | fuel + 1 => do
      match ← peek with
      | some .blockEntry =>
          advance
          let next ← peek
          let item ←
            if next == some .blockEntry || endsBlockEntry next then nothing
            else node true false fuel
          let rest ← indentlessItems fuel
          return ⟨item.content :: rest.content, item.replaced + rest.replaced⟩
      | _ => return ⟨[], 0⟩

/-- Reads the entries of a block map. -/
def blockEntries : Nat → Reading (Read (List (Node × Node)))
  | 0 => failure
  | fuel + 1 => do
      match ← peek with
      | some .key =>
          advance
          let key ← if endsBlockEntry (← peek) then nothing else node true true fuel
          let value ←
            if (← peek) == some .value then do
              advance
              if endsBlockEntry (← peek) then nothing else node true true fuel
            else nothing
          let rest ← blockEntries fuel
          return ⟨(key.content, value.content) :: rest.content,
            key.replaced + value.replaced + rest.replaced⟩
      | some .blockEnd =>
          advance
          return ⟨[], 0⟩
      | _ => failure

/-- Reads the items of a flow list.  An item that begins with a key is a map of one
entry. -/
def flowItems (first : Bool) : Nat → Reading (Read (List Node))
  | 0 => failure
  | fuel + 1 => do
      if (← peek) == some .flowSequenceEnd then
        advance
        return ⟨[], 0⟩
      else
        if !first then expect .flowEntry
        match ← peek with
        | some .key =>
            advance
            count 2
            let item ← flowPair fuel
            let rest ← flowItems false fuel
            return ⟨item.content :: rest.content, item.replaced + rest.replaced⟩
        | some .flowSequenceEnd =>
            advance
            return ⟨[], 0⟩
        | _ =>
            let item ← node false false fuel
            let rest ← flowItems false fuel
            return ⟨item.content :: rest.content, item.replaced + rest.replaced⟩

/-- Reads a map of one entry inside a flow list.  Where the key is missing the
token in its place is dropped. -/
def flowPair : Nat → Reading (Read Node)
  | 0 => failure
  | fuel + 1 => do
      let key ←
        if endsFlowKey .flowSequenceEnd (← peek) then do
          advance
          nothing
        else node false false fuel
      let value ←
        if (← peek) == some .value then do
          advance
          if endsFlowValue .flowSequenceEnd (← peek) then nothing else node false false fuel
        else nothing
      return ⟨.map none [(key.content, value.content)], key.replaced + value.replaced⟩

/-- Reads the entries of a flow map. -/
def flowEntries (first : Bool) : Nat → Reading (Read (List (Node × Node)))
  | 0 => failure
  | fuel + 1 => do
      if (← peek) == some .flowMappingEnd then
        advance
        return ⟨[], 0⟩
      else
        if !first then expect .flowEntry
        match ← peek with
        | some .key =>
            advance
            let key ←
              if endsFlowKey .flowMappingEnd (← peek) then nothing else node false false fuel
            let value ←
              if (← peek) == some .value then do
                advance
                if endsFlowValue .flowMappingEnd (← peek) then nothing else node false false fuel
              else nothing
            let rest ← flowEntries false fuel
            return ⟨(key.content, value.content) :: rest.content,
              key.replaced + value.replaced + rest.replaced⟩
        | some .flowMappingEnd =>
            advance
            return ⟨[], 0⟩
        | _ =>
            let key ← node false false fuel
            let value ← nothing
            let rest ← flowEntries false fuel
            return ⟨(key.content, value.content) :: rest.content,
              key.replaced + rest.replaced⟩

end

/-- The handles that every document has. -/
def defaultHandles : List (String × String) := [("!", "!"), ("!!", "tag:yaml.org,2002:")]

/-- Reads the directives before a document: at most one version, and handles that
do not repeat. -/
def directives (versioned : Bool) (handles : List (String × String)) : Nat → Reading Bool
  | 0 => failure
  | fuel + 1 => do
      match ← peek with
      | some (.version major minor) =>
          advance
          if versioned || major != 1 || !(minor == 1 || minor == 2) then failure
          else directives true handles fuel
      | some (.tagHandle handle lead) =>
          advance
          if (handles.lookup handle).isSome then failure
          else directives versioned ((handle, lead) :: handles) fuel
      | _ =>
          modify fun reader => { reader with handles := handles ++ defaultHandles }
          return versioned || !handles.isEmpty

/-- Whether a token ends a document that holds nothing. -/
def endsDocument : Option Token → Bool
  | none | some .documentStart | some .documentEnd | some (.version _ _)
  | some (.tagHandle _ _) => true
  | _ => false

/-- Drops the marks that end a document. -/
def endMarks : Nat → Reading Unit
  | 0 => failure
  | fuel + 1 => do
      if (← peek) == some .documentEnd then
        advance
        endMarks fuel
      else return

/-- Reads a whole text.  A text without a document holds nothing. -/
def text (fuel : Nat) : Reading (Read Node) := do
  if (← peek).isNone then nothing
  else
    let directed ← directives false [] fuel
    let document ←
      if (← peek) == some .documentStart then do
        advance
        if endsDocument (← peek) then nothing else node true false fuel
      else if directed then failure
      else node true false fuel
    endMarks fuel
    if (← peek).isSome then failure else return document

end Reading

/-- How deep the collections of a document may be nested. -/
def maxDepth : Nat := 128

/-- How often aliases may be replaced, for every event of a text. -/
def maxReplacements : Nat := 100

/-- Reads the node of a text. -/
def read? (text : String) : Option Node := do
  let tokens ← Token.scan? text.toList
  let (node, reader) ← (Reading.text (4 * tokens.length + 8)).run ⟨tokens, [], [], [], 0⟩
  if reader.events * maxReplacements < node.replaced then none
  else if maxDepth < node.content.depth then none
  else some node.content

end Yaml
end Conformance
