import Conformance.Emission.Authoring
import Conformance.Emission.Nominal
import Conformance.Emission.Structural

namespace Conformance

/-!
# Exporting schemas

A schema is exported as authoring text or as the types of a target language, each
time with a registry of its own.  A target that is not known is refused even where
no types are asked for.
-/

/-- The languages that types can be emitted in. -/
inductive Language where
  | typeScript
  | rust
deriving DecidableEq, Repr

namespace Language

/-- The name of a language. -/
def name : Language → String
  | .typeScript => "typescript"
  | .rust => "rust"

/-- The language that a text names, in upper or lower case. -/
def ofText (text : String) : Except EmissionError Language :=
  let lower := text.map Char.toLower
  if lower == "typescript" || lower == "ts" then .ok .typeScript
  else if lower == "rust" || lower == "rs" then .ok .rust
  else .error (.unsupportedTarget text)

end Language

/-- How a schema is exported. -/
structure ExportOptions where
  types : Bool
  language : Option String
  rootName : Option String
  mode : RegistryMode
deriving DecidableEq, Repr

namespace ExportOptions

/-- The target language.  It is TypeScript unless something else is said. -/
def target (options : ExportOptions) : Except EmissionError Language :=
  match options.language with
  | none => .ok .typeScript
  | some text => Language.ofText text

end ExportOptions

namespace Schema

/-- The types of a schema in a language. -/
def generate (language : Language) (rootName : Option String) (schema : Schema) :
    Emitting String :=
  match language with
  | .typeScript => Structural.generate rootName schema
  | .rust => Nominal.generate rootName schema

/-- The text of a schema. -/
def exportText (schema : Schema) (options : ExportOptions) : Except EmissionError String := do
  let language ← options.target
  if options.types then
    ((schema.generate language options.rootName).run (.empty options.mode)).1
  else return Authoring.render 0 schema.rootShape

end Schema
end Conformance
