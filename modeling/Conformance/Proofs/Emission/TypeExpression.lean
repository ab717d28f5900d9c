import Conformance.Emission.Structural
import Conformance.Value

namespace Conformance
namespace Structural

/-!
# The type expressions of TypeScript

What is emitted as a structural type is text.  This module says which types there are
behind such texts, how each of them is written, and which values it holds.

A type is a union, and what is joined in a union is never a union itself: a list of
constituents.  Only lists that are not empty can be written.  The types inside of a
constituent are its parts.

A value may be absent.  It then belongs to `undefined`, and so does null, which counts as
no value where one may be absent.
-/

/-- The types that are named by a word. -/
inductive Keyword where
  | string
  | number
  | boolean
  | null
  | undefined
  | unknown
  | buffer
deriving DecidableEq, Repr

/-- What is joined in a union. -/
inductive Constituent where
  | keyword (keyword : Keyword)
  | literal (text : String)
  | object (properties : List (String × List Constituent))
  | array (item : List Constituent)
  | tuple (items : List (List Constituent))
  | openTuple (items : List (List Constituent)) (rest : List Constituent)
  | record (value : List Constituent)
deriving Repr

/-- A type: the constituents of a union. -/
abbrev TypeExpr : Type := List Constituent

/-! ## What types hold -/

/-- Whether a value is an integer from 0 to 255. -/
def isOctet : Value → Bool
  | .number (.integer number) => 0 ≤ number && number ≤ 255
  | _ => false

/-- Whether a type that is named by a word holds a value.  A buffer is a list of integers
from 0 to 255. -/
def Keyword.holds : Keyword → Option Value → Bool
  | .string, some (.text _) => true
  | .number, some (.number _) => true
  | .boolean, some (.boolean _) => true
  | .null, some .null => true
  | .undefined, none | .undefined, some .null => true
  | .unknown, _ => true
  | .buffer, some (.list items) => items.all isOctet
  | _, _ => false

mutual

/-- Whether a constituent holds a value.  An object may have more keys than its properties,
and an open tuple more items than its positions. -/
def Constituent.holds : Constituent → Option Value → Bool
  | .keyword keyword, value => keyword.holds value
  | .literal text, some (.text found) => found == text
  | .object properties, some (.record entries) => propertiesHold properties entries
  | .array item, some (.list items) => items.all fun value => holdsAny item (some value)
  | .tuple types, some (.list items) =>
      types.length == items.length && positionsHold types items
  | .openTuple types rest, some (.list items) =>
      decide (types.length ≤ items.length) && positionsHold types items &&
        (items.drop types.length).all fun value => holdsAny rest (some value)
  | .record type, some (.record entries) => entries.all fun (_, value) => holdsAny type (some value)
  | _, _ => false

/-- Whether one of some constituents holds a value. -/
def holdsAny : List Constituent → Option Value → Bool
  | [], _ => false
  | constituent :: rest, value => constituent.holds value || holdsAny rest value

/-- Whether properties hold the values under their keys, or the absence of values. -/
def propertiesHold : List (String × List Constituent) → List (String × Value) → Bool
  | [], _ => true
  | (name, type) :: rest, entries =>
      holdsAny type (Value.lookup? name entries) && propertiesHold rest entries

/-- Whether the types of positions hold the values at their positions. -/
def positionsHold : List (List Constituent) → List Value → Bool
  | type :: rest, value :: values => holdsAny type (some value) && positionsHold rest values
  | _, _ => true

end

/-- Whether a type holds a value that may be absent. -/
def TypeExpr.holds (type : TypeExpr) (value : Option Value) : Bool := holdsAny type value

section

variable {properties : List (String × TypeExpr)} {types : List TypeExpr} {type other rest : TypeExpr}
variable {items : List Value} {entries : List (String × Value)} {value : Option Value}

theorem TypeExpr.holds_iff :
    TypeExpr.holds type value = true ↔ ∃ constituent ∈ type, constituent.holds value = true := by
  rw [TypeExpr.holds]
  induction type with
  | nil => simp [holdsAny]
  | cons constituent rest inductionHypothesis => simp [holdsAny, inductionHypothesis]

/-- A union holds what one of two parts of it holds. -/
theorem TypeExpr.holds_append :
    TypeExpr.holds (type ++ other) value = true ↔
      TypeExpr.holds type value = true ∨ TypeExpr.holds other value = true := by
  simp only [TypeExpr.holds_iff, List.mem_append, or_and_right, exists_or]

theorem TypeExpr.holds_singleton {constituent : Constituent} :
    TypeExpr.holds [constituent] value = true ↔ constituent.holds value = true := by
  simp only [TypeExpr.holds_iff, List.mem_singleton, exists_eq_left]

theorem propertiesHold_iff :
    propertiesHold properties entries = true ↔
      ∀ property ∈ properties,
        TypeExpr.holds property.2 (Value.lookup? property.1 entries) = true := by
  induction properties with
  | nil => simp [propertiesHold]
  | cons property rest inductionHypothesis =>
      simp [propertiesHold, inductionHypothesis, TypeExpr.holds]

theorem positionsHold_iff :
    positionsHold types items = true ↔
      ∀ pair ∈ types.zip items, TypeExpr.holds pair.1 (some pair.2) = true := by
  induction types generalizing items with
  | nil => simp [positionsHold]
  | cons type rest inductionHypothesis =>
      cases items with
      | nil => simp [positionsHold]
      | cons value values => simp [positionsHold, inductionHypothesis, TypeExpr.holds]

theorem Constituent.array_holds_iff :
    (Constituent.array type).holds (some (.list items)) = true ↔
      ∀ item ∈ items, TypeExpr.holds type (some item) = true := by
  rw [Constituent.holds, List.all_eq_true]
  rfl

theorem Constituent.tuple_holds_iff :
    (Constituent.tuple types).holds (some (.list items)) = true ↔
      types.length = items.length ∧
        ∀ pair ∈ types.zip items, TypeExpr.holds pair.1 (some pair.2) = true := by
  rw [Constituent.holds, Bool.and_eq_true, beq_iff_eq, positionsHold_iff]

theorem Constituent.openTuple_holds_iff :
    (Constituent.openTuple types rest).holds (some (.list items)) = true ↔
      types.length ≤ items.length ∧
        (∀ pair ∈ types.zip items, TypeExpr.holds pair.1 (some pair.2) = true) ∧
        ∀ item ∈ items.drop types.length, TypeExpr.holds rest (some item) = true := by
  rw [Constituent.holds, Bool.and_eq_true, Bool.and_eq_true, decide_eq_true_iff,
    positionsHold_iff, List.all_eq_true, and_assoc]
  rfl

theorem Constituent.record_holds_iff :
    (Constituent.record type).holds (some (.record entries)) = true ↔
      ∀ entry ∈ entries, TypeExpr.holds type (some entry.2) = true := by
  rw [Constituent.holds, List.all_eq_true]
  rfl

end

/-! ## How types are written -/

namespace Keyword

/-- The word of a type. -/
def name : Keyword → String
  | .string => "string"
  | .number => "number"
  | .boolean => "boolean"
  | .null => "null"
  | .undefined => "undefined"
  | .unknown => "unknown"
  | .buffer => "Buffer"

/-- The type of a word. -/
def ofName? (word : String) : Option Keyword :=
  [string, number, boolean, null, undefined, unknown, buffer].find? fun keyword =>
    keyword.name == word

end Keyword

mutual

/-- The text of a constituent at a level of indentation. -/
def Constituent.render (level : Nat) : Constituent → String
  | .keyword keyword => keyword.name
  | .literal text => quote text
  | .object [] => "\x7b\x7d"
  | .object (property :: rest) =>
      "\x7b\n" ++ renderProperties (level + 1) (property :: rest) ++ indent level ++ "\x7d"
  | .array item => "Array<" ++ " | ".intercalate (renderEach level item) ++ ">"
  | .tuple items => "[" ++ ", ".intercalate (renderTypes level items) ++ "]"
  | .openTuple items rest =>
      "[" ++ ", ".intercalate (renderTypes level items) ++ ", ...Array<" ++
        " | ".intercalate (renderEach level rest) ++ ">]"
  | .record value => "Record<string, " ++ " | ".intercalate (renderEach level value) ++ ">"

/-- The texts of some constituents. -/
def renderEach (level : Nat) : List Constituent → List String
  | [] => []
  | constituent :: rest => constituent.render level :: renderEach level rest

/-- The lines of the properties of an object. -/
def renderProperties (level : Nat) : List (String × List Constituent) → String
  | [] => ""
  | (name, type) :: rest =>
      indent level ++ key name ++ ": " ++ " | ".intercalate (renderEach level type) ++ ";\n" ++
        renderProperties level rest

/-- The texts of some types. -/
def renderTypes (level : Nat) : List (List Constituent) → List String
  | [] => []
  | type :: rest => " | ".intercalate (renderEach level type) :: renderTypes level rest

end

/-- The text of a type at a level of indentation. -/
def TypeExpr.render (level : Nat) (type : TypeExpr) : String :=
  " | ".intercalate (renderEach level type)

theorem renderEach_eq_map (level : Nat) (constituents : List Constituent) :
    renderEach level constituents = constituents.map (Constituent.render level) := by
  induction constituents with
  | nil => rfl
  | cons constituent rest inductionHypothesis =>
      rw [renderEach, inductionHypothesis, List.map_cons]

theorem renderTypes_eq_map (level : Nat) (types : List TypeExpr) :
    renderTypes level types = types.map (TypeExpr.render level) := by
  induction types with
  | nil => rfl
  | cons type rest inductionHypothesis =>
      rw [renderTypes, inductionHypothesis, List.map_cons, TypeExpr.render]

/-! ### The text of a whole from those of its parts -/

section

variable (level : Nat) (type : TypeExpr) (types : List TypeExpr)

theorem renderProperties_cons (name : String) (rest : List (String × TypeExpr)) :
    renderProperties level ((name, type) :: rest) =
      indent level ++ key name ++ ": " ++ TypeExpr.render level type ++ ";\n" ++
        renderProperties level rest :=
  rfl

namespace Constituent

theorem render_array :
    (array type).render level = "Array<" ++ TypeExpr.render level type ++ ">" :=
  rfl

theorem render_tuple :
    (tuple types).render level =
      "[" ++ ", ".intercalate (types.map (TypeExpr.render level)) ++ "]" := by
  rw [← renderTypes_eq_map]
  rfl

theorem render_openTuple :
    (openTuple types type).render level =
      "[" ++ ", ".intercalate (types.map (TypeExpr.render level)) ++ ", ...Array<" ++
        TypeExpr.render level type ++ ">]" := by
  rw [← renderTypes_eq_map]
  rfl

theorem render_record :
    (record type).render level = "Record<string, " ++ TypeExpr.render level type ++ ">" :=
  rfl

end Constituent
end

/-! ## Induction on types -/

namespace Constituent

/-- The types inside of a constituent. -/
def parts : Constituent → List TypeExpr
  | .keyword _ | .literal _ => []
  | .object properties => properties.map Prod.snd
  | .array item => [item]
  | .tuple items => items
  | .openTuple items rest => items ++ [rest]
  | .record value => [value]

/-- A property that passes from the constituents of the parts to the whole holds of all
constituents. -/
theorem induction {motive : Constituent → Prop}
    (whole : ∀ constituent : Constituent,
      (∀ type ∈ constituent.parts, ∀ part ∈ type, motive part) → motive constituent) :
    ∀ constituent, motive constituent := by
  intro constituent
  refine @Constituent.rec motive
    (fun properties => ∀ type ∈ properties.map Prod.snd, ∀ part ∈ type, motive part)
    (fun type => ∀ part ∈ type, motive part)
    (fun types => ∀ type ∈ types, ∀ part ∈ type, motive part)
    (fun property => ∀ part ∈ property.2, motive part)
    ?keyword ?literal ?object ?array ?tuple ?openTuple ?record ?noProperties ?properties
    ?nothing ?constituents ?noTypes ?types ?property constituent
  case keyword => exact fun keyword => whole (.keyword keyword) (fun type member => nomatch member)
  case literal => exact fun text => whole (.literal text) (fun type member => nomatch member)
  case object => exact fun properties holds => whole (.object properties) holds
  case array => exact fun item holds => whole (.array item) (List.forall_mem_singleton.mpr holds)
  case tuple => exact fun items holds => whole (.tuple items) holds
  case openTuple =>
    intro items rest holds restHolds
    refine whole (.openTuple items rest) (fun type member => ?_)
    rcases List.mem_append.mp member with listed | last
    · exact holds type listed
    · rw [List.mem_singleton.mp last]
      exact restHolds
  case record => exact fun value holds => whole (.record value) (List.forall_mem_singleton.mpr holds)
  case noProperties => exact fun type member => nomatch member
  case properties => exact fun property rest first others => List.forall_mem_cons.mpr ⟨first, others⟩
  case nothing => exact fun part member => nomatch member
  case constituents => exact fun part rest first others => List.forall_mem_cons.mpr ⟨first, others⟩
  case noTypes => exact fun type member => nomatch member
  case types => exact fun type rest first others => List.forall_mem_cons.mpr ⟨first, others⟩
  case property => exact fun name type holds => holds

/-- A constituent that can be written: its parts are not empty, and an open tuple has a
position. -/
inductive Proper : Constituent → Prop where
  | intro (constituent : Constituent)
      (started : ∀ rest, constituent ≠ .openTuple [] rest)
      (nonempty : ∀ type ∈ constituent.parts, type ≠ [])
      (parts : ∀ type ∈ constituent.parts, ∀ part ∈ type, Proper part) : Proper constituent

end Constituent

/-- A type that can be written. -/
structure TypeExpr.Proper (type : TypeExpr) : Prop where
  nonempty : type ≠ []
  each : ∀ constituent ∈ type, constituent.Proper

end Structural
end Conformance
