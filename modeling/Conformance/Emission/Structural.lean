import Conformance.Emission.Naming
import Conformance.Emission.Registry
import Conformance.Schema.Shape

namespace Conformance
namespace Structural

/-!
# Structural types

Structural types are inline expressions of TypeScript.  A node that need not be
there adds `undefined` to its expression and a nullable one adds `null`, unless the
expression is just that already.  A list that needs a few items is written as a
tuple with an open end.
-/

/-- The indentation of a level. -/
def indent (level : Nat) : String := String.ofList (List.replicate (2 * level) ' ')

/-- A character inside a string literal. -/
def quotedChar (c : Char) : List Char :=
  if c = '\'' || c = '\\' then ['\\', c] else if c = '\n' then ['\\', 'n'] else [c]

/-- A string literal. -/
def quote (text : String) : String :=
  String.ofList ('\'' :: text.toList.flatMap quotedChar ++ ['\''])

/-- The expression of a leaf. -/
def leafType : Leaf → String
  | .string _ | .date | .timestamp _ | .pattern _ => "string"
  | .integer _ | .real _ => "number"
  | .boolean => "boolean"
  | .null => "null"
  | .undefined => "undefined"
  | .unknown => "unknown"
  | .buffer _ => "Buffer"
  | .exact expected => quote expected

/-- Lists that need more items than this are not unrolled. -/
def maxUnrolled : Nat := 8

/-- The items that a list needs, written out. -/
def unrolled (item : String) (count : Nat) : String :=
  ", ".intercalate (List.replicate count item)

/-- The expression of a list. -/
def listType (item : String) (length : LengthBounds) : String :=
  if maxUnrolled < length.min then "Array<" ++ item ++ ">"
  else if length.upper? = some length.min then "[" ++ unrolled item length.min ++ "]"
  else if 0 < length.min then
    "[" ++ unrolled item length.min ++ ", ...Array<" ++ item ++ ">]"
  else "Array<" ++ item ++ ">"

/-- A property key, quoted if it has to be. -/
def key (name : String) : String :=
  if Naming.isPlainIdentifier name then name else quote name

/-- An expression with the alternatives for an absent value and for null. -/
def withPresence (header : Header) (type : String) : String :=
  let type := if !header.required && type != "undefined" then type ++ " | undefined" else type
  if header.nullable && type != "null" then type ++ " | null" else type

mutual

/-- The expression of a node at a level of indentation. -/
def expression (level : Nat) : Shape → String
  | .node header form => withPresence header (bare level form)

/-- The expression of a node without the alternatives of its presence. -/
def bare (level : Nat) : Form Shape → String
  | .leaf scalar => leafType scalar
  | .object [] => "\x7b\x7d"
  | .object (field :: fields) =>
      "\x7b\n" ++ properties (level + 1) (field :: fields) ++ indent level ++ "\x7d"
  | .array item length => listType (expression level item) length
  | .tuple items => "[" ++ ", ".intercalate (expressions level items) ++ "]"
  | .record value _ => "Record<string, " ++ expression level value ++ ">"
  | .union alternatives => " | ".intercalate (expressions level alternatives)

/-- The lines of the properties of an object. -/
def properties (level : Nat) : List (String × Shape) → String
  | [] => ""
  | (name, shape) :: rest =>
      indent level ++ key name ++ ": " ++ expression level shape ++ ";\n" ++
        properties level rest

/-- The expressions of a list of nodes. -/
def expressions (level : Nat) : List Shape → List String
  | [] => []
  | shape :: rest => expression level shape :: expressions level rest

end

/-- The declaration of a named type. -/
def declaration (name type : String) : String :=
  "export type " ++ name ++ " = " ++ type ++ ";\n"

/-- The types of a schema: its declaration if it has a name, and else its bare
expression. -/
def generate (rootName : Option String) (schema : Schema) : Emitting String := do
  let shape := schema.rootShape
  match rootName <|> shape.header.name with
  | none => return expression 0 shape
  | some name =>
      if !(← Emitting.resolves name) then
        Emitting.declare name (declaration name (expression 0 shape))
      return (← get).render

end Structural
end Conformance
