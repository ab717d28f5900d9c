import Conformance.Schema.Leaf

namespace Conformance

/-!
# Schema documents

A document writes a schema down as a tree.  Every node has one of seventeen kinds
with the fields of that kind, and four marks that do not depend on the kind.  A
bound that is not written stays missing here; it gets its default only when a
schema is made of the document.
-/

/-- What a node says apart from its kind. -/
structure Marks where
  optional : Bool
  nullable : Bool
  name : Option String
  rename : Option String
deriving DecidableEq, Repr

/-- The kinds of nodes, in the order of their numbers. -/
inductive Kind where
  | string
  | integer
  | float
  | boolean
  | null
  | undefined
  | date
  | dateTime
  | exact
  | regex
  | unknown
  | buffer
  | object
  | array
  | tuple
  | record
  | union
deriving DecidableEq, Repr

namespace Kind

/-- The name of a kind in a document. -/
def name : Kind → String
  | .string => "string"
  | .integer => "integer"
  | .float => "float"
  | .boolean => "boolean"
  | .null => "null"
  | .undefined => "undefined"
  | .date => "date"
  | .dateTime => "date_time"
  | .exact => "exact"
  | .regex => "regex"
  | .unknown => "unknown"
  | .buffer => "buffer"
  | .object => "object"
  | .array => "array"
  | .tuple => "tuple"
  | .record => "record"
  | .union => "union"

/-- All kinds, in the order of their numbers. -/
def all : List Kind :=
  [.string, .integer, .float, .boolean, .null, .undefined, .date, .dateTime, .exact, .regex,
    .unknown, .buffer, .object, .array, .tuple, .record, .union]

/-- The kind with a name. -/
def ofName? (name : String) : Option Kind := all.find? (·.name == name)

end Kind

/-- What a node says about its values, with children of any type. -/
inductive Description (Child : Type) where
  | string (minLength maxLength : Option Nat)
  | integer (minimum maximum : Option Int)
  | float (minimum maximum : Option Binary64)
  | boolean
  | null
  | undefined
  | date
  | dateTime (format : TimestampFormat)
  | exact (value : String)
  | regex (pattern : String)
  | unknown
  | buffer (minLength maxLength : Option Nat)
  | object (fields : List (String × Child))
  | array (items : Child) (minItems maxItems : Option Nat)
  | tuple (items : List Child)
  | record (values : Child) (minKeys maxKeys : Option Nat)
  | union (anyOf : List Child)

/-- The kind of a description. -/
def Description.kind {Child : Type} : Description Child → Kind
  | .string _ _ => .string
  | .integer _ _ => .integer
  | .float _ _ => .float
  | .boolean => .boolean
  | .null => .null
  | .undefined => .undefined
  | .date => .date
  | .dateTime _ => .dateTime
  | .exact _ => .exact
  | .regex _ => .regex
  | .unknown => .unknown
  | .buffer _ _ => .buffer
  | .object _ => .object
  | .array _ _ _ => .array
  | .tuple _ => .tuple
  | .record _ _ _ => .record
  | .union _ => .union

/-- A document. -/
inductive Document where
  | node (marks : Marks) (description : Description Document)

namespace Document

/-- What the outermost node says apart from its kind. -/
def marks : Document → Marks
  | .node marks _ => marks

/-- What the outermost node says about its values. -/
def description : Document → Description Document
  | .node _ description => description

mutual

/-- Equality of documents, with the numeric equality of real bounds. -/
def same : Document → Document → Bool
  | .node marks left, .node marks' right => marks == marks' && sameDescription left right

/-- Equality of descriptions. -/
def sameDescription : Description Document → Description Document → Bool
  | .string min max, .string min' max' => min == min' && max == max'
  | .integer min max, .integer min' max' => min == min' && max == max'
  | .float min max, .float min' max' => min == min' && max == max'
  | .boolean, .boolean => true
  | .null, .null => true
  | .undefined, .undefined => true
  | .date, .date => true
  | .dateTime format, .dateTime format' => format == format'
  | .exact value, .exact value' => value == value'
  | .regex pattern, .regex pattern' => pattern == pattern'
  | .unknown, .unknown => true
  | .buffer min max, .buffer min' max' => min == min' && max == max'
  | .object left, .object right => sameFields left right
  | .array item min max, .array item' min' max' =>
      same item item' && min == min' && max == max'
  | .tuple left, .tuple right => sameItems left right
  | .record item min max, .record item' min' max' =>
      same item item' && min == min' && max == max'
  | .union left, .union right => sameItems left right
  | _, _ => false

/-- Equality of fields, position by position. -/
def sameFields : List (String × Document) → List (String × Document) → Bool
  | [], [] => true
  | (name, left) :: lefts, (name', right) :: rights =>
      name == name' && same left right && sameFields lefts rights
  | _, _ => false

/-- Equality of lists of documents, position by position. -/
def sameItems : List Document → List Document → Bool
  | [], [] => true
  | left :: lefts, right :: rights => same left right && sameItems lefts rights
  | _, _ => false

end

instance : BEq Document := ⟨same⟩

end Document
end Conformance
