namespace Conformance

/-!
# Text of the system

Arguments and paths come from the system, which does not promise that they are text.
They are taken apart into characters and into what stands between characters without
being one, so that everything that looks for a certain character in them finds it
where it is.
-/

/-- A piece of what the system hands over: a character, or bytes that begin no
character or begin one and break off. -/
inductive SystemUnit where
  | char (c : Char)
  | stray (bytes : List UInt8)
deriving DecidableEq, Repr

namespace SystemUnit

/-- The character, if it is one. -/
def character? : SystemUnit → Option Char
  | .char c => some c
  | .stray _ => none

/-- The character that stands for a piece where it is shown.  Bytes that are no
character are shown as the replacement character, however many they are. -/
def shown : SystemUnit → Char
  | .char c => c
  | .stray _ => '\uFFFD'

end SystemUnit

/-- What the system hands over in place of a text. -/
structure SystemText where
  units : List SystemUnit
deriving DecidableEq, Repr

namespace SystemText

/-- A text. -/
def ofString (text : String) : SystemText := ⟨text.toList.map .char⟩

-- Where the system is expected to hand something over, texts can stand for themselves.
instance : Coe String SystemText := ⟨ofString⟩

instance : Coe (List String) (List SystemText) := ⟨List.map ofString⟩

/-- The text, if it is one. -/
def toString? (text : SystemText) : Option String :=
  (text.units.mapM SystemUnit.character?).map String.ofList

/-- The text that is shown. -/
def display (text : SystemText) : String := String.ofList (text.units.map SystemUnit.shown)

/-- Whether there is nothing at all. -/
def isEmpty (text : SystemText) : Bool := text.units.isEmpty

end SystemText
end Conformance
