import Conformance.Text.Alphabet
import Conformance.Text.CaseMap

namespace Conformance
namespace Naming

/-!
# Names in emitted code

Declared names are used as they are.  Names that a schema does not spell out are
made from other text: variants from the literals that tell them apart, fields from
the keys of an object.  Words are separated by a few marks, and in snake case also
by changes of case, where a run of capitals stays together.
-/

/-- The marks that separate words. -/
def isSeparator (c : Char) : Bool :=
  c = '_' || c = '-' || c = '.' || c = ' ' || c = '/' || c = ':'

/-- Text without separators, every word capitalized.  `fresh` tells that a word
begins. -/
def pascalFrom (fresh : Bool) : List Char → List Char
  | [] => []
  | c :: rest =>
      if isSeparator c then pascalFrom true rest
      else if fresh then Text.toUppercase c ++ pascalFrom false rest
      else c :: pascalFrom false rest

/-- An underscore in front of a digit. -/
def guardDigit : List Char → List Char
  | [] => []
  | c :: rest => if c.isDigit then '_' :: c :: rest else c :: rest

/-- Pascal case: every word capitalized, nothing in between. -/
def pascal (name : String) : String :=
  String.ofList (guardDigit (pascalFrom true name.toList))

/-- Camel case: pascal case with its first character in lower case. -/
def camel (name : String) : String :=
  match (pascal name).toList with
  | [] => ""
  | first :: rest => String.ofList (Text.toLowercase first ++ rest)

/-- Ends a word of a name that is written backwards. -/
def endWord (written : List Char) : List Char :=
  match written with
  | [] => []
  | last :: _ => if last = '_' then written else '_' :: written

/-- Whether a capital begins a word, given the characters around it. -/
def beginsWord (previous next : Option Char) : Bool :=
  match previous with
  | none => false
  | some before =>
      if Text.isLowercase before || before.isDigit then true
      else Text.isUppercase before && next.any Text.isLowercase

/-- Snake case, written backwards. -/
def snakeFrom (previous : Option Char) (written : List Char) : List Char → List Char
  | [] => written
  | c :: rest =>
      if isSeparator c || !Text.isAlphanumeric c then snakeFrom (some c) (endWord written) rest
      else if Text.isUppercase c then
        let before := if beginsWord previous rest.head? then endWord written else written
        snakeFrom (some c) ((Text.toLowercase c).reverse ++ before) rest
      else snakeFrom (some c) (c :: written) rest

/-- Snake case: words in lower case with underscores in between. -/
def snake (name : String) : String :=
  String.ofList ((snakeFrom none [] name.toList).dropWhile (· = '_')).reverse

/-- The words that cannot be names. -/
def keywords : List String :=
  ["as", "break", "const", "continue", "crate", "else", "enum", "extern", "false", "fn", "for",
    "if", "impl", "in", "let", "loop", "match", "mod", "move", "mut", "pub", "ref", "return",
    "self", "Self", "static", "struct", "super", "trait", "true", "type", "unsafe", "use", "where",
    "while", "async", "await", "dyn", "abstract", "become", "box", "do", "final", "macro",
    "override", "priv", "typeof", "unsized", "virtual", "yield", "try"]

/-- The keywords that cannot be names even when they are marked as names. -/
def reserved : List String := ["self", "Self", "super", "crate"]

/-- A name that is no keyword.  A keyword is marked as a name, or gets an
underscore where it cannot be marked. -/
def guardKeyword (name : String) : String :=
  if reserved.contains name then name ++ "_"
  else if keywords.contains name then "r#" ++ name
  else name

/-- The name of a field: snake case, made an identifier. -/
def field (name : String) : String :=
  let words := (snake name).toList
  let words := if words.isEmpty then "field".toList else words
  guardKeyword (String.ofList (guardDigit words))

/-- The name of a field without the mark for keywords. -/
def withoutMark (name : String) : String :=
  match name.toList with
  | 'r' :: '#' :: rest => String.ofList rest
  | _ => name

/-- Whether a character can begin a property that stands without quotes. -/
def beginsIdentifier (c : Char) : Bool :=
  (Text.isAscii c && c.isAlpha) || c = '_' || c = '$'

/-- Whether a character can continue a property that stands without quotes. -/
def continuesIdentifier (c : Char) : Bool :=
  (Text.isAscii c && c.isAlphanum) || c = '_' || c = '$'

/-- Whether a key can stand without quotes. -/
def isPlainIdentifier (name : String) : Bool :=
  match name.toList with
  | [] => false
  | first :: rest => beginsIdentifier first && rest.all continuesIdentifier

end Naming
end Conformance
