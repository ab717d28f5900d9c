import Conformance.Proofs.Emission.Sites

namespace Conformance
namespace Nominal

/-!
# Declarations as data

A registered declaration is a text.  This module keeps beside the text what it was written
from: the fields of a struct with their types, the variants of an enum with their structs,
and the target of an alias.  From that one can tell which names a declaration was meant to use:
those of the nodes that it refers to.  A type that the language brings along is not meant by a
node's name here, although its text is the same as that of a node that goes by its name; which
words the text itself has is told where it is read again.

A node without a type is written as the empty text, and here refers to the empty name.  No
declaration with such a node in it is ever registered.
-/

/-! ## Types -/

/-- The types that need no declaration. -/
inductive Builtin where
  | string
  | u32
  | u64
  | i32
  | i64
  | f64
  | bool
  | unit
  | value
deriving DecidableEq, Repr

/-- The text of a type that needs no declaration. -/
def Builtin.text : Builtin → String
  | .string => "String"
  | .u32 => "u32"
  | .u64 => "u64"
  | .i32 => "i32"
  | .i64 => "i64"
  | .f64 => "f64"
  | .bool => "bool"
  | .unit => "()"
  | .value => "serde_json::Value"

/-- A type as it is written in a declaration. -/
inductive TypeRef where
  | builtin (known : Builtin)
  | declared (name : String)
  | option (type : TypeRef)
  | vector (item : TypeRef)
  | tuple (items : List TypeRef)
  | map (value : TypeRef)
deriving Repr

namespace TypeRef

mutual

/-- The text of a type. -/
def text : TypeRef → String
  | .builtin known => known.text
  | .declared name => name
  | .option type => "Option<" ++ type.text ++ ">"
  | .vector item => vectorOf item.text
  | .tuple items => tupleType (texts items)
  | .map value => mapOf value.text

/-- The texts of some types. -/
def texts : List TypeRef → List String
  | [] => []
  | type :: rest => type.text :: texts rest

end

mutual

/-- The declared names in a type. -/
def uses : TypeRef → List String
  | .builtin _ => []
  | .declared name => [name]
  | .option type => type.uses
  | .vector item => item.uses
  | .tuple items => usesEach items
  | .map value => value.uses

/-- The declared names in some types. -/
def usesEach : List TypeRef → List String
  | [] => []
  | type :: rest => type.uses ++ usesEach rest

end

end TypeRef

/-- The type of integers of a range. -/
def integerBuiltin (range : IntegerRange) : Builtin :=
  if 0 ≤ range.min then if range.max ≤ 4294967295 then .u32 else .u64
  else if -2147483648 ≤ range.min ∧ range.max ≤ 2147483647 then .i32
  else .i64

/-- The type of a leaf. -/
def leafRef : Leaf → TypeRef
  | .string _ | .date | .timestamp _ | .pattern _ => .builtin .string
  | .integer range => .builtin (integerBuiltin range)
  | .real _ => .builtin .f64
  | .boolean => .builtin .bool
  | .null | .undefined => .builtin .unit
  | .unknown => .builtin .value
  | .buffer _ | .exact _ => .declared ""

/-- A type that admits the absence of a value where the node does. -/
def presenceRef (header : Header) (type : TypeRef) : TypeRef :=
  if !header.required || header.nullable then .option type else type

mutual

/-- The type of a node. -/
def typeRef (rootName : Option String) : Shape → TypeRef
  | .node header form => presenceRef header (bareRef rootName header form)

/-- The type of a node apart from its presence. -/
def bareRef (rootName : Option String) (header : Header) : Form Shape → TypeRef
  | .leaf scalar => leafRef scalar
  | .object _ | .union _ => .declared ((declaredName rootName header).getD "")
  | .array item _ => .vector (typeRef rootName item)
  | .tuple items => .tuple (typeRefs rootName items)
  | .record value _ => .map (typeRef rootName value)

/-- The types of some nodes. -/
def typeRefs (rootName : Option String) : List Shape → List TypeRef
  | [] => []
  | shape :: rest => typeRef rootName shape :: typeRefs rootName rest

end

/-- The type of a field of a struct.  An exact string is a plain one there. -/
def fieldRef (rootName : Option String) : Shape → TypeRef
  | .node header (.leaf (.exact _)) =>
      if header.nullable then .option (.builtin .string) else .builtin .string
  | .node header form => presenceRef header (bareRef rootName header form)

/-! ### The text of a type is what refers to the node -/

section

variable (rootName : Option String)

theorem integerBuiltin_text (range : IntegerRange) :
    (integerBuiltin range).text = integerType range := by
  rw [integerBuiltin, integerType]
  split
  · split <;> rfl
  · split <;> rfl

theorem leafRef_text (scalar : Leaf) : (leafRef scalar).text = leafText scalar := by
  cases scalar with
  | integer range => exact integerBuiltin_text range
  | _ => rfl

theorem presenceRef_text (header : Header) (type : TypeRef) :
    (presenceRef header type).text = withPresence header type.text := by
  rw [presenceRef, withPresence]
  split <;> rfl

theorem typeRefs_texts {shapes : List Shape}
    (each : ∀ shape ∈ shapes, (typeRef rootName shape).text = reference rootName shape) :
    TypeRef.texts (typeRefs rootName shapes) = references rootName shapes := by
  induction shapes with
  | nil => rfl
  | cons shape rest inductionHypothesis =>
      rw [List.forall_mem_cons] at each
      rw [typeRefs, TypeRef.texts, references, each.1, inductionHypothesis each.2]

theorem bareRef_text {header : Header} {form : Form Shape}
    (each : ∀ shape ∈ form.children, (typeRef rootName shape).text = reference rootName shape) :
    (bareRef rootName header form).text = bareReference rootName header form := by
  cases form with
  | leaf scalar => exact leafRef_text scalar
  | object fields => rfl
  | array item length =>
      rw [bareRef, TypeRef.text, bareReference, each item List.mem_cons_self]
  | tuple items =>
      have itemTexts : ∀ shape ∈ items, (typeRef rootName shape).text = reference rootName shape := each
      rw [bareRef, TypeRef.text, bareReference, typeRefs_texts rootName itemTexts]
  | record value keys =>
      rw [bareRef, TypeRef.text, bareReference, each value List.mem_cons_self]
  | union alternatives => rfl

theorem typeRef_text (shape : Shape) : (typeRef rootName shape).text = reference rootName shape := by
  induction shape using Shape.induction with
  | node header form each =>
      rw [typeRef, presenceRef_text, bareRef_text rootName each, reference]

theorem fieldRef_text (shape : Shape) :
    (fieldRef rootName shape).text = fieldReference rootName shape := by
  rcases shape with ⟨header, form⟩
  by_cases exact : ∃ expected, form = .leaf (.exact expected)
  case pos =>
    rcases exact with ⟨expected, rfl⟩
    rw [fieldRef, fieldReference]
    split <;> rfl
  case neg =>
    have inexact : ∀ expected, form ≠ .leaf (.exact expected) :=
      fun expected same => exact ⟨expected, same⟩
    have asType : fieldRef rootName (.node header form) = typeRef rootName (.node header form) := by
      rw [fieldRef, typeRef]
      exact inexact
    have asReference : fieldReference rootName (.node header form) =
        reference rootName (.node header form) := by
      rw [fieldReference, reference]
      exact inexact
    rw [asType, asReference, typeRef_text]

end

/-! ## Declarations -/

/-- A field of a struct, with what its node says and its type. -/
structure StructField where
  key : String
  header : Header
  type : TypeRef

/-- What a declaration is written from. -/
inductive Declaration where
  | struct (name : String) (fields : List StructField)
  | enum (declared : EnumDeclaration)
  | alias (name : String) (target : TypeRef)

namespace Declaration

/-- The name that is declared. -/
def name : Declaration → String
  | .struct name _ | .alias name _ => name
  | .enum declared => declared.name

/-- The text of a declaration. -/
def text : Declaration → String
  | .struct name fields =>
      structText name
        (String.join (fields.map fun field => fieldLines field.key field.header field.type.text))
  | .enum declared => declared.text
  | .alias name target => aliasText name target.text

/-- The declared names that a declaration uses: those in the types of its fields, the
structs of its variants, or those in its target. -/
def uses : Declaration → List String
  | .struct _ fields => fields.flatMap fun field => field.type.uses
  | .enum declared => declared.variants.map EnumVariant.struct
  | .alias _ target => target.uses

/-- The struct of the fields of an object, without the field that is the tag. -/
def ofFields (rootName : Option String) (name : String) (tag : Option String)
    (fields : List (String × Shape)) : Declaration :=
  .struct name ((fieldsWithout tag fields).map fun (key, shape) =>
    ⟨key, shape.header, fieldRef rootName shape⟩)

theorem ofFields_text (rootName : Option String) (name : String) (tag : Option String)
    (fields : List (String × Shape)) :
    (ofFields rootName name tag fields).text = structDeclaration rootName name tag fields := by
  simp only [ofFields, text, structDeclaration, structLines, List.map_map, Function.comp_def,
    fieldRef_text]

theorem mem_uses_ofFields {rootName : Option String} {name : String} {tag : Option String}
    {fields : List (String × Shape)} {used : String} :
    used ∈ (ofFields rootName name tag fields).uses ↔
      ∃ field ∈ fieldsWithout tag fields, used ∈ (fieldRef rootName field.2).uses := by
  simp [ofFields, uses, List.flatMap_map]

end Declaration

/-- What the declaration of a node is written from. -/
def Site.told? (rootName : Option String) : Site → Option Declaration
  | ⟨.node header (.object fields), role⟩ =>
      (role.name? rootName header).map fun name => .ofFields rootName name role.tag? fields
  | ⟨.node header (.union alternatives), role⟩ =>
      (role.name? rootName header).bind fun name =>
        (discriminant? alternatives).map fun (tag, literals) =>
          .enum (.ofUnion name tag alternatives literals)
  | _ => none

end Nominal
end Conformance
