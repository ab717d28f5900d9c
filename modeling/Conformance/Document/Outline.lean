import Conformance.Document.Reader
import Conformance.Yaml.Resolution

namespace Conformance

/-!
# Documents written as YAML

The outermost map of a document is read with the types of its fields known in
advance: its keys are texts however they are spelled, a name is any scalar that
does not mean null, and a flag is a plain scalar.  Everything further inside is
read by its own meaning.
-/

namespace Yaml

/-- The datum of a flag of the outermost map. -/
def flagDatum? : Node → Option Datum
  | .scalar tag style text =>
      if style = .plain || (style = .literal && tag == some "tag:yaml.org,2002:bool") then
        (Plain.boolean? text).map .boolean
      else none
  | _ => none

/-- The datum of a name of the outermost map. -/
def labelDatum? : Node → Option Datum
  | .scalar tag style text =>
      if style != .plain then some (.text text)
      else
        match tag with
        | none => if text.isEmpty || Plain.isNull text then some .null else some (.text text)
        | some tag =>
            if tag == "tag:yaml.org,2002:null" then
              if Plain.isNull text then some .null else none
            else some (.text text)
  | _ => none

/-- The datum of an entry of the outermost map. -/
def outerEntry? (key value : Node) : Option (Datum × Datum) := do
  let name ← key.text?
  let datum? :=
    if name == "optional" || name == "nullable" then flagDatum? value
    else if name == "name" || name == "rename" then labelDatum? value
    else value.toDatum?
  return (.text name, ← datum?)

/-- The datum of the outermost map. -/
def outerDatum? : Node → Option Datum
  | .map _ entries => do
      return .map (← entries.mapM fun (key, value) => outerEntry? key value)
  | _ => none

end Yaml

/-- Reads a document written as YAML. -/
def Document.ofYaml? (text : String) : Option Document := do
  Document.ofDatum? (← Yaml.outerDatum? (← Yaml.read? text))

end Conformance
