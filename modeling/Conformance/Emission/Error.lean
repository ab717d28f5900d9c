import Conformance.Text.Quoted

namespace Conformance

/-!
# What can keep a type from being emitted

Every error that has a place tells the steps from the node where the emission
began down to the offending one.
-/

/-- A step from a node to one of its children. -/
inductive LocationStep where
  | field (name : String)
  | items
  | position (index : Nat)
  | values
  | alternative (index : Nat)
deriving DecidableEq, Repr

/-- The steps to a node, outermost first. -/
abbrev Location : Type := List LocationStep

namespace Location

/-- The text of a place one step below another. -/
def below (parent : String) : LocationStep → String
  | .field name => if parent.isEmpty then name else parent ++ "." ++ name
  | .items => parent ++ "[]"
  | .position index => parent ++ "[" ++ toString index ++ "]"
  | .values => parent ++ "\x7b\x7d"
  | .alternative index => parent ++ "|" ++ toString index

/-- The text of a place. -/
def render (location : Location) : String :=
  let text := location.foldl below ""
  if text.isEmpty then "<root>" else text

end Location

/-- What would be generated for two things at once. -/
inductive IdentifierKind where
  | field
  | variant
deriving DecidableEq, Repr

/-- The name of a kind of identifiers. -/
def IdentifierKind.name : IdentifierKind → String
  | .field => "field"
  | .variant => "variant"

/-- Why types cannot be emitted. -/
inductive EmissionError where
  | unsupportedTarget (target : String)
  | missingName (kind : String) (location : Location)
  | noNominalForm (kind : String) (location : Location)
  | untaggedUnion (location : Location)
  | standaloneExact (value : String) (location : Location)
  | optionalExact (location : Location)
  | conflictingDefinition (name : String)
  | memberNamedAfterUnion (name : String) (location : Location)
  | repeatedIdentifier (kind : IdentifierKind) (name first second : String) (location : Location)
deriving DecidableEq, Repr

namespace EmissionError

/-- The text of an error. -/
def message : EmissionError → String
  | .unsupportedTarget target =>
      "Unsupported target language: " ++ target ++ " (expected \"typescript\" or \"rust\")"
  | .missingName kind location =>
      "Missing type name for " ++ kind ++ " at " ++ location.render ++
        ": nominal emission needs a declared name"
  | .noNominalForm kind location =>
      "Type kind " ++ kind ++ " at " ++ location.render ++ " has no nominal representation"
  | .untaggedUnion location =>
      "Union at " ++ location.render ++ " has no shared discriminant field: " ++
        "nominal union members must be objects tagged with distinct exact-match strings"
  | .standaloneExact value location =>
      "Exact-match string " ++ Text.quoted value ++ " at " ++ location.render ++
        " has no standalone nominal representation: " ++
        "use it as an object field or a union discriminant"
  | .optionalExact location =>
      "Optional exact-match string at " ++ location.render ++ " has no nominal representation"
  | .conflictingDefinition name =>
      "Conflicting definitions for type " ++ name ++ ": a different body is already registered"
  | .memberNamedAfterUnion name location =>
      "Union member at " ++ location.render ++ " would be declared as struct " ++ name ++
        ", the name of its own union: give the member a different name or a variant rename"
  | .repeatedIdentifier kind name first second location =>
      "Rust " ++ kind.name ++ " " ++ name ++ " at " ++ location.render ++
        " would be generated for both " ++ Text.quoted first ++ " and " ++ Text.quoted second

end EmissionError
end Conformance
