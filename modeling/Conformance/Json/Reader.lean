import Conformance.Json.Token
import Conformance.Json.Tree

namespace Conformance
namespace Json

/-!
# Reading JSON text

The tokens of a text are read by a machine that keeps the lists and maps still
open, the innermost first, and what may come next.  Every token changes the
machine in one step, so reading is one pass over the tokens.  A limit on the
number of open containers is part of the format.
-/

/-- A list or map still open.  Items and entries are kept newest first; a map
holds the key whose value is still missing. -/
inductive Frame where
  | list (items : List Tree)
  | map (entries : List (String × Tree)) (key : Option String)

/-- What may come next. -/
inductive Expected where
  | value
  | valueOrClose
  | key
  | keyOrClose
  | colon
  | commaOrClose
  | nothing (result : Tree)

/-- The machine. -/
structure Machine where
  frames : List Frame
  expected : Expected

/-- How deep lists and maps may be nested. -/
def defaultDepth : Nat := 127

/-- Hands a finished tree to the innermost open container. -/
def Machine.deliver? (frames : List Frame) (tree : Tree) : Option Machine :=
  match frames with
  | [] => some ⟨[], .nothing tree⟩
  | .list items :: rest => some ⟨.list (tree :: items) :: rest, .commaOrClose⟩
  | .map entries (some key) :: rest =>
      some ⟨.map ((key, tree) :: entries) none :: rest, .commaOrClose⟩
  | .map _ none :: _ => none

/-- Opens a container. -/
def Machine.open? (depth : Nat) (frames : List Frame) (frame : Frame) (expected : Expected) :
    Option Machine :=
  if frames.length < depth then some ⟨frame :: frames, expected⟩ else none

/-- Reads the token that begins a value. -/
def Machine.value? (depth : Nat) (frames : List Frame) : Token → Option Machine
  | .null => deliver? frames .null
  | .boolean value => deliver? frames (.boolean value)
  | .number value => deliver? frames (.number value)
  | .text value => deliver? frames (.text value)
  | .openList => open? depth frames (.list []) .valueOrClose
  | .openMap => open? depth frames (.map [] none) .keyOrClose
  | _ => none

/-- Closes the innermost container. -/
def Machine.close? (frames : List Frame) (token : Token) : Option Machine :=
  match frames, token with
  | .list items :: rest, .closeList => deliver? rest (.list items.reverse)
  | .map entries none :: rest, .closeMap => deliver? rest (.map entries.reverse)
  | _, _ => none

/-- Reads the key of an entry. -/
def Machine.key? (frames : List Frame) (token : Token) : Option Machine :=
  match frames, token with
  | .map entries none :: rest, .text key => some ⟨.map entries (some key) :: rest, .colon⟩
  | _, _ => none

/-- Reads the comma after an item or entry. -/
def Machine.comma? (frames : List Frame) : Option Machine :=
  match frames with
  | .list items :: rest => some ⟨.list items :: rest, .value⟩
  | .map entries none :: rest => some ⟨.map entries none :: rest, .key⟩
  | _ => none

/-- Reads one token. -/
def Machine.step? (depth : Nat) (machine : Machine) (token : Token) : Option Machine :=
  match machine.expected, token with
  | .value, token => value? depth machine.frames token
  | .valueOrClose, .closeList => close? machine.frames .closeList
  | .valueOrClose, token => value? depth machine.frames token
  | .key, token => key? machine.frames token
  | .keyOrClose, .closeMap => close? machine.frames .closeMap
  | .keyOrClose, token => key? machine.frames token
  | .colon, .colon => some ⟨machine.frames, .value⟩
  | .commaOrClose, .comma => comma? machine.frames
  | .commaOrClose, token => close? machine.frames token
  | _, _ => none

/-- The tree that a list of tokens spells. -/
def ofTokens? (depth : Nat) (tokens : List Token) : Option Tree := do
  let machine ← tokens.foldlM (Machine.step? depth) ⟨[], .value⟩
  match machine.expected with
  | .nothing result => some result
  | _ => none

/-- Reads a text whose containers are nested at most `depth` deep. -/
def readWithin? (depth : Nat) (text : String) : Option Tree :=
  (Token.scan? text.toList).bind (ofTokens? depth)

/-- Reads a JSON text. -/
def read? (text : String) : Option Tree :=
  readWithin? defaultDepth text

/-- Reads a JSON text as a value. -/
def readValue? (text : String) : Option Value :=
  (read? text).map Tree.toValue

end Json
end Conformance
