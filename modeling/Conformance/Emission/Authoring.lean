import Conformance.Emission.Naming
import Conformance.Schema.Shape
import Conformance.Text.Quoted

namespace Conformance
namespace Authoring

/-!
# Authoring text

Authoring text writes a schema down as nested calls.  What is as usual is left
out: a bound that does not bind, a presence that is the default of its kind, and
names that are not declared.
-/

/-- The indentation of a level. -/
def indent (level : Nat) : String := String.ofList (List.replicate (2 * level) ' ')

/-- An option of a call, if it has a value. -/
def option (name : String) : Option String → List String
  | none => []
  | some value => [name ++ ": " ++ value]

/-- A call with arguments and options.  Without options there are no braces. -/
def call (name : String) (arguments options : List String) : String :=
  let options :=
    if options.isEmpty then [] else ["\x7b " ++ ", ".intercalate options ++ " \x7d"]
  name ++ "(" ++ ", ".intercalate (arguments ++ options) ++ ")"

/-- The options for bounds of a count. -/
def countOptions (min max : String) (bounds : LengthBounds) : List String :=
  option min (bounds.lower?.map toString) ++ option max (bounds.upper?.map toString)

/-- The call for a leaf. -/
def leafCall : Leaf → String
  | .string length => call "string" [] (countOptions "min_length" "max_length" length)
  | .integer range =>
      call "integer" []
        (option "min" (range.lower?.map toString) ++ option "max" (range.upper?.map toString))
  | .real range =>
      call "float" []
        (option "min" (range.lower?.map Binary64.plain) ++
          option "max" (range.upper?.map Binary64.plain))
  | .boolean => "boolean()"
  | .null => "null()"
  | .undefined => "undefined()"
  | .date => "date()"
  | .timestamp .rfc3339 => "datetime()"
  | .timestamp .lenient => "timestamp()"
  | .exact expected => "exact(" ++ Text.quoted expected ++ ")"
  | .pattern pattern => "regex(" ++ Text.quoted pattern.source ++ ")"
  | .unknown => "unknown()"
  | .buffer length => call "buffer" [] (countOptions "min_length" "max_length" length)

/-- A key of an object, quoted if it has to be. -/
def key (name : String) : String :=
  if Naming.isPlainIdentifier name then name else Text.quoted name

/-- A call with the presence and the names of its node. -/
def decorate (header : Header) (defaultRequired : Bool) (text : String) : String :=
  let variant := Variant.ofFlags header.required header.nullable
  let text :=
    if variant = .ofFlags defaultRequired false then text else variant.name ++ "(" ++ text ++ ")"
  let text := header.name.elim text fun name => text ++ ".named(" ++ Text.quoted name ++ ")"
  header.rename.elim text fun rename => text ++ ".rename(" ++ Text.quoted rename ++ ")"

mutual

/-- The text of a node at a level of indentation. -/
def render (level : Nat) : Shape → String
  | .node header form => decorate header (Node.defaultRequired form) (renderForm level form)

/-- The text of a node without its presence and names. -/
def renderForm (level : Nat) : Form Shape → String
  | .leaf scalar => leafCall scalar
  | .object [] => "object(\x7b\x7d)"
  | .object (field :: fields) =>
      "object(\x7b\n" ++ renderFields (level + 1) (field :: fields) ++ indent level ++ "\x7d)"
  | .array item length => call "array" [render level item] (countOptions "min" "max" length)
  | .tuple items => "tuple([" ++ ", ".intercalate (renderAll level items) ++ "])"
  | .record value keys => call "record" [render level value] (countOptions "min" "max" keys)
  | .union alternatives => "union([" ++ ", ".intercalate (renderAll level alternatives) ++ "])"

/-- The lines of the fields of an object. -/
def renderFields (level : Nat) : List (String × Shape) → String
  | [] => ""
  | (name, shape) :: rest =>
      indent level ++ key name ++ ": " ++ render level shape ++ ",\n" ++ renderFields level rest

/-- The texts of a list of nodes. -/
def renderAll (level : Nat) : List Shape → List String
  | [] => []
  | shape :: rest => render level shape :: renderAll level rest

end

end Authoring
end Conformance
