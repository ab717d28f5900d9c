import Conformance.Json.Tree

namespace Conformance
namespace Json

/-!
# Printing JSON text

A printed tree is either compact, on one line, or spread over lines with two
spaces of indentation for every level.  Maps are printed in the order of their
entries.  An empty list or map stays on one line in both forms.
-/

/-- A hexadecimal digit. -/
def hexDigit (digit : Nat) : Char :=
  if digit < 10 then Char.ofNat (digit + 48) else Char.ofNat (digit + 87)

/-- A character inside a quoted text.  Quotes, backslashes and control
characters are escaped, all others stand for themselves. -/
def escapeChar (c : Char) : List Char :=
  match c with
  | '"' => ['\\', '"']
  | '\\' => ['\\', '\\']
  | '\x08' => ['\\', 'b']
  | '\x0c' => ['\\', 'f']
  | '\n' => ['\\', 'n']
  | '\r' => ['\\', 'r']
  | '\t' => ['\\', 't']
  | _ =>
      if c.toNat < 0x20 then
        ['\\', 'u', '0', '0', hexDigit (c.toNat / 16), hexDigit (c.toNat % 16)]
      else [c]

/-- A quoted text. -/
def quote (text : String) : List Char :=
  '"' :: text.toList.flatMap escapeChar ++ ['"']

/-- The characters of a scalar, or of an empty container. -/
def numberChars (number : Number) : List Char := number.text.toList

mutual

/-- The compact form of a tree. -/
def compactChars : Tree → List Char
  | .null => ['n', 'u', 'l', 'l']
  | .boolean true => ['t', 'r', 'u', 'e']
  | .boolean false => ['f', 'a', 'l', 's', 'e']
  | .number value => numberChars value
  | .text value => quote value
  | .list [] => ['[', ']']
  | .list (item :: rest) => '[' :: compactChars item ++ compactItems rest
  | .map [] => ['{', '}']
  | .map ((key, tree) :: rest) =>
      '{' :: quote key ++ ':' :: compactChars tree ++ compactEntries rest

/-- The items after the first, and the closing bracket. -/
def compactItems : List Tree → List Char
  | [] => [']']
  | item :: rest => ',' :: compactChars item ++ compactItems rest

/-- The entries after the first, and the closing brace. -/
def compactEntries : List (String × Tree) → List Char
  | [] => ['}']
  | (key, tree) :: rest => ',' :: quote key ++ ':' :: compactChars tree ++ compactEntries rest

end

/-- A line break and the indentation of a level. -/
def newline (level : Nat) : List Char :=
  '\n' :: List.replicate (2 * level) ' '

mutual

/-- The spread form of a tree whose first line starts at a level. -/
def prettyChars (level : Nat) : Tree → List Char
  | .null => ['n', 'u', 'l', 'l']
  | .boolean true => ['t', 'r', 'u', 'e']
  | .boolean false => ['f', 'a', 'l', 's', 'e']
  | .number value => numberChars value
  | .text value => quote value
  | .list [] => ['[', ']']
  | .list (item :: rest) =>
      '[' :: newline (level + 1) ++ prettyChars (level + 1) item ++ prettyItems level rest
  | .map [] => ['{', '}']
  | .map ((key, tree) :: rest) =>
      '{' :: newline (level + 1) ++ quote key ++ ':' :: ' ' ::
        prettyChars (level + 1) tree ++ prettyEntries level rest

/-- The items after the first, and the closing bracket. -/
def prettyItems (level : Nat) : List Tree → List Char
  | [] => newline level ++ [']']
  | item :: rest =>
      ',' :: newline (level + 1) ++ prettyChars (level + 1) item ++ prettyItems level rest

/-- The entries after the first, and the closing brace. -/
def prettyEntries (level : Nat) : List (String × Tree) → List Char
  | [] => newline level ++ ['}']
  | (key, tree) :: rest =>
      ',' :: newline (level + 1) ++ quote key ++ ':' :: ' ' ::
        prettyChars (level + 1) tree ++ prettyEntries level rest

end

/-- The text of a tree on one line. -/
def compact (tree : Tree) : String := String.ofList (compactChars tree)

/-- The text of a tree spread over lines. -/
def pretty (tree : Tree) : String := String.ofList (prettyChars 0 tree)

end Json
end Conformance
