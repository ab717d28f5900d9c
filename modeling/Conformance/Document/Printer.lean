import Conformance.Document.Basic
import Conformance.Json.Printer

namespace Conformance

/-!
# Printing documents

A document is printed as JSON.  Its kind comes first, then the fields of the kind
that are there, then the marks that say something.  The notation of a timestamp
and the fields of an object are always printed.
-/

namespace Document

/-- The entry of a field that may be missing. -/
def entry {Target : Type} (name : String) (tree : Target → Json.Tree) :
    Option Target → List (String × Json.Tree)
  | none => []
  | some value => [(name, tree value)]

/-- The tree of a natural number. -/
def wordTree (word : Nat) : Json.Tree := .number (.integer word)

/-- The tree of an integer. -/
def signedTree (value : Int) : Json.Tree := .number (.integer value)

/-- The tree of a real.  Infinities and the absence of a number have no notation
in JSON. -/
def realTree (value : Binary64) : Json.Tree :=
  if value.isFinite then .number (.real value) else .null

/-- The entries of the marks. -/
def markEntries (marks : Marks) : List (String × Json.Tree) :=
  (if marks.optional then [("optional", .boolean true)] else []) ++
    (if marks.nullable then [("nullable", .boolean true)] else []) ++
    entry "name" .text marks.name ++ entry "rename" .text marks.rename

mutual

/-- The tree of a document. -/
def toTree : Document → Json.Tree
  | .node marks description =>
      .map (("kind", .text description.kind.name) :: fieldEntries description ++
        markEntries marks)

/-- The entries of the fields of a kind. -/
def fieldEntries : Description Document → List (String × Json.Tree)
  | .string min max => entry "min_length" wordTree min ++ entry "max_length" wordTree max
  | .integer min max => entry "minimum" signedTree min ++ entry "maximum" signedTree max
  | .float min max => entry "minimum" realTree min ++ entry "maximum" realTree max
  | .boolean | .null | .undefined | .date | .unknown => []
  | .dateTime format => [("format", .text format.name)]
  | .exact value => [("value", .text value)]
  | .regex pattern => [("pattern", .text pattern)]
  | .buffer min max => entry "min_length" wordTree min ++ entry "max_length" wordTree max
  | .object fields => [("fields", .map (toTreeFields fields))]
  | .array items min max =>
      ("items", toTree items) :: entry "min_items" wordTree min ++ entry "max_items" wordTree max
  | .tuple items => [("items", .list (toTrees items))]
  | .record values min max =>
      ("values", toTree values) :: entry "min_keys" wordTree min ++ entry "max_keys" wordTree max
  | .union anyOf => [("any_of", .list (toTrees anyOf))]

/-- The trees of the fields of an object. -/
def toTreeFields : List (String × Document) → List (String × Json.Tree)
  | [] => []
  | (name, child) :: rest => (name, toTree child) :: toTreeFields rest

/-- The trees of a list of documents. -/
def toTrees : List Document → List Json.Tree
  | [] => []
  | child :: rest => toTree child :: toTrees rest

end

/-- The text of a document. -/
def toJson (document : Document) : String := Json.pretty document.toTree

end Document
end Conformance
