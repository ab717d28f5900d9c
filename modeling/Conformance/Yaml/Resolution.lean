import Conformance.Document.Datum
import Conformance.Yaml.Node

namespace Conformance
namespace Yaml

/-!
# Meaning of YAML nodes

A plain scalar means null, a truth value or a number if it is spelled like one,
and is text otherwise; any other scalar is text.  A number of the standard
vocabulary can be forced by a tag, and a local tag has no meaning here.

Two results are built from nodes: data of a document, whose keys keep their
meaning, and values, whose keys are the texts of scalars.
-/

namespace Plain

/-- Whether a scalar is spelled like null. -/
def isNull (text : String) : Bool :=
  text == "null" || text == "Null" || text == "NULL" || text == "~"

/-- The truth value that a scalar spells. -/
def boolean? (text : String) : Option Bool :=
  if text == "true" || text == "True" || text == "TRUE" then some true
  else if text == "false" || text == "False" || text == "FALSE" then some false
  else none

/-- Text without a plus sign in front. -/
def withoutPlus : List Char → List Char
  | '+' :: rest => rest
  | text => text

/-- Whether text begins with a sign. -/
def isSigned : List Char → Bool
  | '+' :: _ => true
  | '-' :: _ => true
  | _ => false

/-- Whether text is made of digits with a superfluous zero in front. -/
def isPadded (text : List Char) : Bool :=
  let text := if isSigned text then text.drop 1 else text
  match text with
  | '0' :: rest => !rest.isEmpty && rest.all Char.isDigit
  | _ => false

/-- The natural number that digits of a base spell. -/
def natural? (base : Nat) (text : List Char) : Option Nat := do
  if text.isEmpty then none
  else
    let digits ← text.mapM fun c => (Json.Token.hexDigit? c).filter (· < base)
    return digits.foldl (fun value digit => base * value + digit) 0

/-- The base that stands in front of digits. -/
def base? : List Char → Option (Nat × List Char)
  | '0' :: 'x' :: rest => some (16, rest)
  | '0' :: 'o' :: rest => some (8, rest)
  | '0' :: 'b' :: rest => some (2, rest)
  | _ => none

/-- The natural number that text without a sign spells. -/
def unsigned? (text : List Char) : Option Nat :=
  match base? text with
  | some (base, digits) => natural? base digits
  | none => if isPadded text then none else natural? 10 text

/-- The integer that a scalar spells. -/
def integer? (text : List Char) : Option Int :=
  match text with
  | '-' :: rest => (unsigned? rest).map fun value => -(value : Int)
  | '+' :: rest => (unsigned? rest).map fun value => (value : Int)
  | _ => (unsigned? text).map fun value => (value : Int)

/-- The digits in front of text, and what follows them. -/
def digits (text : List Char) : List Nat × List Char :=
  let taken := text.takeWhile Char.isDigit
  (taken.map fun c => c.toNat - 48, text.drop taken.length)

/-- The power of ten that ends a decimal. -/
def exponent? : List Char → Option (Option (Bool × List Nat))
  | [] => some none
  | c :: rest =>
      if c = 'e' || c = 'E' then
        let negative := rest.head? = some '-'
        let (exponent, rest) := digits (if isSigned rest then rest.drop 1 else rest)
        if exponent.isEmpty || !rest.isEmpty then none else some (some (negative, exponent))
      else none

/-- The decimal that text spells.  Digits may be missing on one side of the
point. -/
def decimal? (text : List Char) : Option Literal := do
  let negative := text.head? = some '-'
  let (whole, rest) := digits (if isSigned text then text.drop 1 else text)
  match rest with
  | '.' :: rest =>
      let (fraction, rest) := digits rest
      if whole.isEmpty && fraction.isEmpty then none
      else return ⟨negative, whole, some fraction, ← exponent? rest⟩
  | _ => if whole.isEmpty then none else return ⟨negative, whole, none, ← exponent? rest⟩

/-- The real that a scalar spells. -/
def real? (text : List Char) : Option Binary64 :=
  let unsigned := withoutPlus text
  let spelling := String.ofList text
  let tail := String.ofList unsigned
  if text.head? = some '+' && isSigned unsigned then none
  else if tail == ".inf" || tail == ".Inf" || tail == ".INF" then some (.infinite false)
  else if spelling == "-.inf" || spelling == "-.Inf" || spelling == "-.INF" then
    some (.infinite true)
  else if spelling == ".nan" || spelling == ".NaN" || spelling == ".NAN" then some .nan
  else ((decimal? unsigned).map Literal.nearest).filter Binary64.isFinite

/-- The integer as a datum.  Integers of more than 64 bits are refused up to 128
bits. -/
def integerDatum? (value : Int) : Option Datum :=
  if Number.signedMin ≤ value ∧ value ≤ Number.wordMax then some (.number (.integer value))
  else none

/-- Whether an integer has at most 128 bits. -/
def isWide (value : Int) : Bool := -Int.pow 2 127 ≤ value && value < Int.pow 2 128

/-- What a plain scalar means. -/
def datum? (text : String) : Option Datum :=
  if text.isEmpty || isNull text then some .null
  else
    match boolean? text with
    | some value => some (.boolean value)
    | none =>
        match (integer? text.toList).filter isWide with
        | some value => integerDatum? value
        | none =>
            if isPadded text.toList then some (.text text)
            else
              match real? text.toList with
              | some value => some (.number (.real value))
              | none => some (.text text)

end Plain

/-- Whether a tag is local to a document. -/
def isLocal (tag : Option String) : Bool := tag.any (·.startsWith "!")

/-- What a scalar means. -/
def scalar? (tag : Option String) (style : Style) (text : String) : Option Datum :=
  match tag with
  | none => if style = .plain then Plain.datum? text else some (.text text)
  | some tag =>
      if tag == "tag:yaml.org,2002:bool" then (Plain.boolean? text).map .boolean
      else if tag == "tag:yaml.org,2002:int" then
        ((Plain.integer? text.toList).filter Plain.isWide).bind Plain.integerDatum?
      else if tag == "tag:yaml.org,2002:float" then
        (Plain.real? text.toList).map fun value => .number (.real value)
      else if tag == "tag:yaml.org,2002:null" then if Plain.isNull text then some .null else none
      else if isLocal (some tag) then none
      else some (.text text)

namespace Node

/-- The text of a scalar, whatever it means. -/
def text? : Node → Option String
  | .scalar _ _ text => some text
  | _ => none

mutual

/-- The datum of a node. -/
def toDatum? : Node → Option Datum
  | .scalar tag style text => scalar? tag style text
  | .list tag items => if isLocal tag then none else (toData? items).map .list
  | .map tag entries => if isLocal tag then none else (toDatumEntries? entries).map .map

/-- The data of a list of nodes. -/
def toData? : List Node → Option (List Datum)
  | [] => some []
  | item :: rest => do return (← toDatum? item) :: (← toData? rest)

/-- The data of the entries of a map. -/
def toDatumEntries? : List (Node × Node) → Option (List (Datum × Datum))
  | [] => some []
  | (key, value) :: rest => do
      return (← toDatum? key, ← toDatum? value) :: (← toDatumEntries? rest)

end

/-- The value of a scalar.  Reals that are not finite have no value of their own. -/
def scalarValue? : Datum → Option Value
  | .null => some .null
  | .boolean value => some (.boolean value)
  | .number (.integer value) => some (.number (.integer value))
  | .number (.real value) => some (if value.isFinite then .number (.real value) else .null)
  | .text value => some (.text value)
  | .list _ | .map _ => none

mutual

/-- The value of a node. -/
def toValue? : Node → Option Value
  | .scalar tag style text => (scalar? tag style text).bind scalarValue?
  | .list tag items => if isLocal tag then none else (toValues? items).map .list
  | .map tag entries =>
      if isLocal tag then none
      else (toEntries? entries).map fun entries => .record (Value.sortEntries entries)

/-- The values of a list of nodes. -/
def toValues? : List Node → Option (List Value)
  | [] => some []
  | item :: rest => do return (← toValue? item) :: (← toValues? rest)

/-- The entries of a map, in the order of writing. -/
def toEntries? : List (Node × Node) → Option (List (String × Value))
  | [] => some []
  | (key, value) :: rest => do
      return (← key.text?, ← toValue? value) :: (← toEntries? rest)

end

end Node

/-- Reads a YAML text as a value. -/
def readValue? (text : String) : Option Value := (read? text).bind Node.toValue?

end Yaml
end Conformance
