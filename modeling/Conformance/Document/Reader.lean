import Conformance.Document.Basic
import Conformance.Document.Datum
import Conformance.Json.Reader

namespace Conformance

/-!
# Reading documents

A node is written as a map.  Keys that a node of its kind does not know are
ignored, while a key that it knows must not repeat.  A field can be named by its
text or by its position in the kind, counted from zero, and a kind by its text or
its number; keys of any other sort are refused.  Null stands for a field that may
be missing.
-/

namespace Datum

/-- The key of one of the four marks. -/
def isMarkKey (key : Datum) : Bool :=
  match key with
  | .text "optional" | .text "nullable" | .text "name" | .text "rename" => true
  | _ => false

/-- Whether a datum is some text. -/
def isText (text : String) : Datum → Bool
  | .text value => value == text
  | _ => false

/-- Whether a key names a field of a kind, by text or by position. -/
def isField (position : Nat) (name : String) : Datum → Bool
  | .text value => value == name
  | .number value => value.toWord? == some position
  | _ => false

/-- Whether a datum can be a key of a node. -/
def isKey : Datum → Bool
  | .text _ => true
  | .number value => value.toWord?.isSome
  | _ => false

end Datum

/-- Entries of a node. -/
abbrev Entries : Type := List (Datum × Datum)

namespace Entries

/-- The value under a key, which may be missing but must not repeat. -/
def once? (isKey : Datum → Bool) (entries : Entries) : Option (Option Datum) :=
  match entries.filter (fun (key, _) => isKey key) with
  | [] => some none
  | [(_, value)] => some (some value)
  | _ => none

/-- The truth value under a key, false if the key is missing. -/
def flag? (name : String) (entries : Entries) : Option Bool := do
  match ← entries.once? (Datum.isText name) with
  | none => some false
  | some value => value.boolean?

/-- A value that may be missing or null. -/
def optional? {Target : Type} (read? : Datum → Option Target) :
    Option Datum → Option (Option Target)
  | none => some none
  | some .null => some none
  | some value => (read? value).map some

/-- The text under a key, which may be missing or null. -/
def label? (name : String) (entries : Entries) : Option (Option String) := do
  optional? Datum.text? (← entries.once? (Datum.isText name))

/-- The marks of a node. -/
def marks? (entries : Entries) : Option Marks := do
  return ⟨← entries.flag? "optional", ← entries.flag? "nullable", ← entries.label? "name",
    ← entries.label? "rename"⟩

/-- A field that may be missing or null. -/
def field? {Target : Type} (read? : Datum → Option Target) (position : Nat) (name : String)
    (entries : Entries) : Option (Option Target) := do
  optional? read? (← entries.once? (Datum.isField position name))

/-- A field that must be there. -/
def required? {Target : Type} (read? : Datum → Option Target) (position : Nat) (name : String)
    (entries : Entries) : Option Target := do
  match ← entries.once? (Datum.isField position name) with
  | none => none
  | some value => read? value

end Entries

/-- The kind that a datum names. -/
def Kind.ofDatum? : Datum → Option Kind
  | .text name => ofName? name
  | .number value => value.toWord?.bind (all[·]?)
  | _ => none

namespace TimestampFormat

/-- The notation with a name. -/
def ofName? : String → Option TimestampFormat
  | "rfc3339" => some .rfc3339
  | "lenient" => some .lenient
  | _ => none

/-- The notation that the key of a map names. -/
def ofKey? : Datum → Option TimestampFormat
  | .text name => ofName? name
  | .number value =>
      match value.toWord? with
      | some 0 => some .rfc3339
      | some 1 => some .lenient
      | _ => none
  | _ => none

/-- The notation that a datum names: a text, or a map from it to nothing. -/
def ofDatum? : Datum → Option TimestampFormat
  | .text name => ofName? name
  | .map [(key, .null)] => ofKey? key
  | .map [(key, .map [])] => ofKey? key
  | _ => none

end TimestampFormat

namespace Description

/-- Puts a field behind others.  A field that is there already is replaced where
it stands. -/
def putField {Child : Type} (name : String) (child : Child) :
    List (String × Child) → List (String × Child)
  | [] => [(name, child)]
  | (key, old) :: rest =>
      if key = name then (key, child) :: rest else (key, old) :: putField name child rest

/-- Reads the fields of an object behind others. -/
def fieldsOnto? {Child : Type} (read? : Datum → Option Child) :
    List (String × Child) → Entries → Option (List (String × Child))
  | fields, [] => some fields
  | fields, (key, value) :: rest => do
      let name ← key.text?
      let child ← read? value
      fieldsOnto? read? (putField name child fields) rest

/-- Reads the fields of an object. -/
def fields? {Child : Type} (read? : Datum → Option Child) (datum : Datum) :
    Option (List (String × Child)) := do
  fieldsOnto? read? [] (← datum.map?)

/-- Reads a list of children. -/
def children? {Child : Type} (read? : Datum → Option Child) (datum : Datum) :
    Option (List Child) := do
  (← datum.list?).mapM read?

/-- Reads the fields of a kind. -/
def read? {Child : Type} (child? : Datum → Option Child) (entries : Entries) :
    Kind → Option (Description Child)
  | .string => do
      return .string (← entries.field? Datum.word? 0 "min_length")
        (← entries.field? Datum.word? 1 "max_length")
  | .integer => do
      return .integer (← entries.field? Datum.signed? 0 "minimum")
        (← entries.field? Datum.signed? 1 "maximum")
  | .float => do
      return .float (← entries.field? Datum.real? 0 "minimum")
        (← entries.field? Datum.real? 1 "maximum")
  | .boolean => some .boolean
  | .null => some .null
  | .undefined => some .undefined
  | .date => some .date
  | .dateTime => do
      match ← entries.once? (Datum.isField 0 "format") with
      | none => return .dateTime .rfc3339
      | some value => return .dateTime (← TimestampFormat.ofDatum? value)
  | .exact => do return .exact (← entries.required? Datum.text? 0 "value")
  | .regex => do return .regex (← entries.required? Datum.text? 0 "pattern")
  | .unknown => some .unknown
  | .buffer => do
      return .buffer (← entries.field? Datum.word? 0 "min_length")
        (← entries.field? Datum.word? 1 "max_length")
  | .object => do
      match ← entries.once? (Datum.isField 0 "fields") with
      | none => return .object []
      | some value => return .object (← fields? child? value)
  | .array => do
      return .array (← entries.required? child? 0 "items")
        (← entries.field? Datum.word? 1 "min_items")
        (← entries.field? Datum.word? 2 "max_items")
  | .tuple => do return .tuple (← entries.required? (children? child?) 0 "items")
  | .record => do
      return .record (← entries.required? child? 0 "values")
        (← entries.field? Datum.word? 1 "min_keys")
        (← entries.field? Datum.word? 2 "max_keys")
  | .union => do return .union (← entries.required? (children? child?) 0 "any_of")

end Description

namespace Document

/-- Reads a node whose children are read by `child?`. -/
def readNode? (child? : Datum → Option Document) (entries : Entries) : Option Document := do
  let marks ← entries.marks?
  if entries.all (fun (key, _) => key.isKey) then
    let others : Entries := entries.filter fun (key, _) => !key.isMarkKey
    match ← others.once? (Datum.isText "kind") with
    | none => none
    | some kind =>
        let fields : Entries := others.filter fun (key, _) => !key.isText "kind"
        return .node marks (← Description.read? child? fields (← Kind.ofDatum? kind))
  else none

/-- Reads a document nested at most `depth` deep. -/
def ofDatumWithin? : Nat → Datum → Option Document
  | depth + 1, .map entries => readNode? (ofDatumWithin? depth) entries
  | _, _ => none

/-- Reads a document. -/
def ofDatum? (datum : Datum) : Option Document := ofDatumWithin? datum.depth datum

/-- Reads a document written as JSON. -/
def ofJson? (text : String) : Option Document := do
  ofDatum? (.ofTree (← Json.read? text))

end Document
end Conformance
