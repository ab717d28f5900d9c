import Conformance.Emission.Naming
import Conformance.Emission.Registry
import Conformance.Schema.Shape

namespace Conformance
namespace Nominal

/-!
# Nominal types

Nominal types are declarations of Rust: an object becomes a struct and a union an
enum.  Both need a declared name, and everything else refers to them by it.  The
alternatives of a union must be objects that are told apart by one field, an exact
string that differs from alternative to alternative.  The enum carries that field
as its tag, so the structs of its members leave it out.

Declarations are registered on the way back from their children.  So a declaration
never stands before one that it refers to.
-/

/-- The traits that every declaration derives. -/
def derives : String :=
  "#[derive(Debug, Clone, PartialEq, serde::Serialize, serde::Deserialize)]\n"

/-- The indentation inside a declaration. -/
def indent : String := "    "

/-- The type of integers of a range. -/
def integerType (range : IntegerRange) : String :=
  if 0 ≤ range.min then if range.max ≤ 4294967295 then "u32" else "u64"
  else if -2147483648 ≤ range.min ∧ range.max ≤ 2147483647 then "i32"
  else "i64"

/-- The type of a leaf.  Buffers have none, and an exact string has none outside of
an object. -/
def leafType (location : Location) : Leaf → Except EmissionError String
  | .string _ | .date | .timestamp _ | .pattern _ => .ok "String"
  | .integer range => .ok (integerType range)
  | .real _ => .ok "f64"
  | .boolean => .ok "bool"
  | .null | .undefined => .ok "()"
  | .unknown => .ok "serde_json::Value"
  | .buffer length => .error (.noNominalForm (Leaf.buffer length).kindName location)
  | .exact expected => .error (.standaloneExact expected location)

/-- A type that admits the absence of a value where the node does. -/
def withPresence (header : Header) (type : String) : String :=
  if !header.required || header.nullable then "Option<" ++ type ++ ">" else type

/-- The declared name of a node.  The root of a schema can be given another. -/
def declaredName (rootName : Option String) (header : Header) : Option String :=
  (if header.isEntry then rootName else none) <|> header.name

/-- The fields of an object without those of one name. -/
def fieldsWithout {Child : Type} (tag : Option String) (fields : List (String × Child)) :
    List (String × Child) :=
  fields.filter fun (name, _) => some name != tag

/-- The first two of some names that become one identifier. -/
def clash? (identifier : String → String) (seen : List (String × String)) :
    List String → Option (String × String × String)
  | [] => none
  | name :: rest =>
      let target := identifier name
      match seen.lookup target with
      | some first => some (target, first, name)
      | none => clash? identifier ((target, name) :: seen) rest

/-- The exact string that a field of an object requires. -/
def literal? (tag : String) (shape : Shape) : Option String :=
  match shape.form with
  | .object fields =>
      match fields.lookup tag with
      | some (.node header (.leaf (.exact expected))) =>
          if header.required && !header.nullable then some expected else none
      | _ => none
  | _ => none

/-- Whether a list repeats nothing. -/
def isDistinct : List String → Bool
  | [] => true
  | first :: rest => !rest.contains first && isDistinct rest

/-- The literals that tell some alternatives apart by a field, if they do. -/
def literals? (alternatives : List Shape) (tag : String) : Option (List String) :=
  (alternatives.mapM (literal? tag)).filter isDistinct

/-- The first field of the first alternative that tells all alternatives apart, and
the literals of the alternatives. -/
def discriminant? (alternatives : List Shape) : Option (String × List String) :=
  match alternatives.head?.map Shape.form with
  | some (.object fields) =>
      fields.findSome? fun (tag, _) =>
        (literals? alternatives tag).map fun literals => (tag, literals)
  | _ => none

/-- The attribute for a name in data that differs from the identifier. -/
def renameAttribute (name : String) : String :=
  indent ++ "#[serde(rename = " ++ Text.quoted name ++ ")]\n"

/-- The lines of a field of a struct. -/
def fieldLines (name : String) (header : Header) (type : String) : String :=
  let identifier := Naming.field name
  (if Naming.withoutMark identifier = name then "" else renameAttribute name) ++
    (if header.required then ""
      else indent ++ "#[serde(skip_serializing_if = \"Option::is_none\")]\n") ++
    indent ++ "pub " ++ identifier ++ ": " ++ type ++ ",\n"

/-- The declaration of a struct whose fields are written. -/
def structText (name fields : String) : String :=
  derives ++ "pub struct " ++ name ++
    (if fields.isEmpty then " \x7b\x7d\n" else " \x7b\n" ++ fields ++ "\x7d\n")

/-- The declaration of an enum whose variants are written. -/
def enumText (name tag variants : String) : String :=
  derives ++ "#[serde(tag = " ++ Text.quoted tag ++ ")]\n" ++ "pub enum " ++ name ++ " \x7b\n" ++
    variants ++ "\x7d\n"

/-- The lines of a variant of an enum. -/
def variantLines (literal variant structName : String) : String :=
  renameAttribute literal ++ indent ++ variant ++ "(" ++ structName ++ "),\n"

/-- The type of a tuple.  A tuple of one item has a comma. -/
def tupleType : List String → String
  | [single] => "(" ++ single ++ ",)"
  | types => "(" ++ ", ".intercalate types ++ ")"

/-- The name of the variant of an alternative. -/
def variantName (header : Header) (literal : String) : String :=
  header.rename.getD (Naming.pascal literal)

/-- Emits unless a name is known, and answers nothing. -/
def unlessResolved (name : String) (emit : Emitting Unit) : Emitting Unit := do
  if !(← Emitting.resolves name) then emit

/-- Refuses a struct of which two fields would have one identifier. -/
def refuseClash {Child : Type} (tag : Option String) (fields : List (String × Child))
    (trail : Location) : Emitting Unit :=
  match clash? Naming.field [] ((fieldsWithout tag fields).map Prod.fst) with
  | some (identifier, first, second) =>
      throw (.repeatedIdentifier .field identifier first second trail.reverse)
  | none => pure ()

/-- The type of a field of a struct.  An exact string is a plain one there, any
other field has the type that is given. -/
def fieldType (header : Header) (form : Form Shape) (trail : Location)
    (type : Emitting String) : Emitting String :=
  match form with
  | .leaf (.exact _) =>
      if !header.required then throw (.optionalExact trail.reverse)
      else if header.nullable then return "Option<String>"
      else return "String"
  | _ => do return withPresence header (← type)

mutual

/-- The type of a node.  The trail tells the steps to the node, innermost first. -/
def typeOf (rootName : Option String) : Shape → Location → Emitting String
  | .node header form, trail => do
      return withPresence header (← bare rootName header form trail)

/-- The type of a node apart from its presence. -/
def bare (rootName : Option String) (header : Header) : Form Shape → Location → Emitting String
  | .leaf scalar, trail => MonadExcept.ofExcept (leafType trail.reverse scalar)
  | .object fields, trail => do
      match declaredName rootName header with
      | none => throw (.missingName "object" trail.reverse)
      | some name =>
          unlessResolved name do
            refuseClash none fields trail
            let lines ← structFields rootName none fields trail
            Emitting.declare name (structText name lines)
          return name
  | .array item _, trail => do
      return "Vec<" ++ (← typeOf rootName item (.items :: trail)) ++ ">"
  | .tuple items, trail => do
      return tupleType (← positions rootName items 0 trail)
  | .record value _, trail => do
      return "std::collections::HashMap<String, " ++
        (← typeOf rootName value (.values :: trail)) ++ ">"
  | .union alternatives, trail => do
      match declaredName rootName header with
      | none => throw (.missingName "union" trail.reverse)
      | some name =>
          unlessResolved name do
            match discriminant? alternatives with
            | none => throw (.untaggedUnion trail.reverse)
            | some (tag, literals) =>
                let variants ← variants rootName name tag alternatives literals 0 [] trail
                Emitting.declare name (enumText name tag variants)
          return name

/-- The lines of the fields of a struct, without the field that is the tag. -/
def structFields (rootName : Option String) (tag : Option String) :
    List (String × Shape) → Location → Emitting String
  | [], _ => return ""
  | (name, .node header form) :: rest, trail => do
      if some name == tag then structFields rootName tag rest trail
      else
        let place : Location := .field name :: trail
        let type ← fieldType header form place (bare rootName header form place)
        let others ← structFields rootName tag rest trail
        return fieldLines name header type ++ others

/-- The types of the positions of a tuple, the first of them numbered. -/
def positions (rootName : Option String) : List Shape → Nat → Location → Emitting (List String)
  | [], _, _ => return []
  | shape :: rest, index, trail => do
      let type ← typeOf rootName shape (.position index :: trail)
      return type :: (← positions rootName rest (index + 1) trail)

/-- The lines of the variants of an enum, with the literals of their alternatives.
Variants that were named before are remembered with their literals. -/
def variants (rootName : Option String) (enumName tag : String) :
    List Shape → List String → Nat → List (String × String) → Location → Emitting String
  | shape :: rest, literal :: literals, index, seen, trail => do
      let variant := variantName shape.header literal
      match seen.lookup variant with
      | some first => throw (.repeatedIdentifier .variant variant first literal trail.reverse)
      | none =>
          let structName := shape.header.name.getD variant
          let place : Location := .alternative index :: trail
          if structName = enumName then throw (.memberNamedAfterUnion structName place.reverse)
          else
            member rootName structName tag shape place
            let others ←
              variants rootName enumName tag rest literals (index + 1)
                ((variant, literal) :: seen) trail
            return variantLines literal variant structName ++ others
  | _, _, _, _, _ => return ""

/-- Declares the struct of an alternative, without the field that is the tag.  An alternative
that is no object leaves the union, one step up, without a tag. -/
def member (rootName : Option String) (structName tag : String) :
    Shape → Location → Emitting Unit
  | .node _ (.object fields), trail =>
      unlessResolved structName do
        refuseClash (some tag) fields trail
        let lines ← structFields rootName (some tag) fields trail
        Emitting.declare structName (structText structName lines)
  | _, trail => throw (.untaggedUnion trail.tail.reverse)

end

/-- The type of a node, with everything it needs registered. -/
def emit (rootName : Option String) (shape : Shape) : Emitting String :=
  typeOf rootName shape []

/-- The declaration of a name for a type. -/
def aliasText (name type : String) : String := "pub type " ++ name ++ " = " ++ type ++ ";\n"

/-- The declarations of a schema.  A root without a declaration of its own gets one
under the name that it is given.  A schema that declares nothing is refused. -/
def generate (rootName : Option String) (schema : Schema) : Emitting String := do
  let reference ← emit rootName schema.rootShape
  match rootName with
  | some name =>
      if !(← get).contains name then Emitting.declare name (aliasText name reference)
  | none =>
      if (← get).definitions.isEmpty then
        throw (.missingName schema.rootNode.form.kindName [])
  return (← get).render

end Nominal
end Conformance
