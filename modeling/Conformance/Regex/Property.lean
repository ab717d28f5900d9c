import Conformance.Regex.CharSet
import Conformance.Regex.Property.Category
import Conformance.Regex.Property.Script
import Conformance.Regex.Property.Trait
import Conformance.Regex.Property.Word

namespace Conformance
namespace Regex

/-!
# Named character classes

A class can be named by a property of characters.  Names are matched loosely:
case, blanks, hyphens and underscores do not count, nor does a leading `is`.  A
name alone is looked up among the binary properties, the general categories and
the scripts, in that order.
-/

/-- A name in its loose form. -/
def looseName (name : String) : String :=
  let strip (characters : List Char) : List Char :=
    (characters.filter fun c => c ≠ ' ' && c ≠ '_' && c ≠ '-' && c.toNat < 128).map Char.toLower
  match name.toList with
  | first :: second :: rest =>
      if (first = 'i' || first = 'I') && (second = 's' || second = 'S') then
        let stripped := strip rest
        if stripped = ['c'] then "isc" else String.ofList stripped
      else String.ofList (strip name.toList)
  | characters => String.ofList (strip characters)

/-- The set listed under a name. -/
def findSet? (tables : List (List String × String)) (name : String) : Option CharSet :=
  (tables.find? fun (names, _) => names.contains name).map fun (_, table) => .ofTable table

/-- The set of a general category, given by its loose name. -/
def category? (name : String) : Option CharSet :=
  if name = "any" then some ⟨#[(0, CharSet.lastCode)]⟩
  else if name = "ascii" then some ⟨#[(0, 127)]⟩
  else if name = "assigned" then (findSet? categoryTables "cn").map CharSet.complement
  else
    match categoryUnions.find? fun (names, _) => names.contains name with
    | some (_, parts) =>
        some (CharSet.ofRanges (parts.flatMap fun part =>
          ((findSet? categoryTables part).map CharSet.ranges).getD []))
    | none => findSet? categoryTables name

/-- The set of a script, given by its loose name. -/
def script? (name : String) : Option CharSet := findSet? scriptTables name

/-- The set of a binary property, given by its loose name.  Three short names
belong to categories and scripts first. -/
def trait? (name : String) : Option CharSet :=
  if name = "cf" || name = "sc" || name = "lc" then none else findSet? traitTables name

/-- The set of a property name that stands alone. -/
def property? (name : String) : Option CharSet :=
  let loose := looseName name
  trait? loose <|> category? loose <|> script? loose

/-- The set of a property with a value. -/
def propertyValue? (name value : String) : Option CharSet :=
  let loose := looseName name
  if loose = "gc" || loose = "generalcategory" then category? (looseName value)
  else if loose = "sc" || loose = "script" || loose = "scx" || loose = "scriptextensions" then
    script? (looseName value)
  else none

/-- The classes with a letter of their own, for all scripts or for ASCII. -/
def letterClass? (unicode : Bool) (letter : Char) : Option CharSet :=
  match letter with
  | 'd' => some (if unicode then digitRanges else .between '0' '9')
  | 's' => some (if unicode then blankRanges else ⟨#[(9, 13), (32, 32)]⟩)
  | 'w' => some (if unicode then wordRanges else ⟨#[(48, 57), (65, 90), (95, 95), (97, 122)]⟩)
  | _ => none

/-- The classes named between `[:` and `:]`. -/
def asciiClass? (name : String) : Option CharSet :=
  match name with
  | "alnum" => some ⟨#[(48, 57), (65, 90), (97, 122)]⟩
  | "alpha" => some ⟨#[(65, 90), (97, 122)]⟩
  | "ascii" => some ⟨#[(0, 127)]⟩
  | "blank" => some ⟨#[(9, 9), (32, 32)]⟩
  | "cntrl" => some ⟨#[(0, 31), (127, 127)]⟩
  | "digit" => some ⟨#[(48, 57)]⟩
  | "graph" => some ⟨#[(33, 126)]⟩
  | "lower" => some ⟨#[(97, 122)]⟩
  | "print" => some ⟨#[(32, 126)]⟩
  | "punct" => some ⟨#[(33, 47), (58, 64), (91, 96), (123, 126)]⟩
  | "space" => some ⟨#[(9, 13), (32, 32)]⟩
  | "upper" => some ⟨#[(65, 90)]⟩
  | "word" => some ⟨#[(48, 57), (65, 90), (95, 95), (97, 122)]⟩
  | "xdigit" => some ⟨#[(48, 57), (65, 70), (97, 102)]⟩
  | _ => none

end Regex
end Conformance
