namespace Conformance
namespace Yaml

/-!
# Places in YAML text

A cursor is a place in a text: what remains from there, and how many characters,
lines and columns lie before it.  Besides the usual line breaks a line ends at
the characters for the next line and for separators of lines and paragraphs.
-/

/-- A place in a text. -/
structure Cursor where
  rest : List Char
  index : Nat
  line : Nat
  column : Nat

/-- Whether a character ends a line. -/
def isBreak (c : Char) : Bool :=
  c = '\n' || c = '\r' || c = '\u0085' || c = '\u2028' || c = '\u2029'

/-- Whether a character is a space or a tab. -/
def isBlank (c : Char) : Bool := c = ' ' || c = '\t'

/-- Whether a character separates words. -/
def isSpacing (c : Char) : Bool := isBlank c || isBreak c

/-- Whether a character can be part of a simple name. -/
def isNameChar (c : Char) : Bool :=
  ('0' ≤ c && c ≤ '9') || ('a' ≤ c && c ≤ 'z') || ('A' ≤ c && c ≤ 'Z') || c = '_' || c = '-'

/-- Whether a character may stand in a text at all. -/
def isAllowed (c : Char) : Bool :=
  let code := c.toNat
  code = 0x09 || code = 0x0A || code = 0x0D || (0x20 ≤ code && code ≤ 0x7E) || code = 0x85 ||
    (0xA0 ≤ code && code ≤ 0xD7FF) || (0xE000 ≤ code && code ≤ 0xFFFD) || 0x10000 ≤ code

namespace Cursor

/-- The beginning of a text. -/
def start (text : List Char) : Cursor := ⟨text, 0, 0, 0⟩

/-- The character at a place, none at the end of the text. -/
def head? (cursor : Cursor) : Option Char := cursor.rest.head?

/-- Whether a character is at a place. -/
def isAt (cursor : Cursor) (c : Char) : Bool := cursor.rest.head? == some c

/-- Whether the character at an offset separates words, or the text ends there. -/
def spacedAt (cursor : Cursor) (offset : Nat) : Bool := cursor.rest[offset]?.all isSpacing

/-- Moves over characters of one line. -/
def skip (cursor : Cursor) (count : Nat) : Cursor :=
  ⟨cursor.rest.drop count, cursor.index + count, cursor.line, cursor.column + count⟩

/-- Takes the characters of one line that satisfy a condition. -/
def takeWhile (cursor : Cursor) (condition : Char → Bool) : List Char × Cursor :=
  let taken := cursor.rest.takeWhile condition
  (taken, cursor.skip taken.length)

/-- Skips the characters of one line that satisfy a condition. -/
def dropWhile (cursor : Cursor) (condition : Char → Bool) : Cursor :=
  (cursor.takeWhile condition).2

/-- Takes a line break.  All line breaks but the two separators count as a line
feed. -/
def takeBreak? (cursor : Cursor) : Option (Char × Cursor) :=
  match cursor.rest with
  | '\r' :: '\n' :: rest => some ('\n', ⟨rest, cursor.index + 2, cursor.line + 1, 0⟩)
  | c :: rest =>
      if isBreak c then
        let taken := if c = '\u2028' || c = '\u2029' then c else '\n'
        some (taken, ⟨rest, cursor.index + 1, cursor.line + 1, 0⟩)
      else none
  | [] => none

/-- Whether three equal marks that separate documents stand at the beginning of a
line. -/
def atSeparator (cursor : Cursor) (mark : Char) : Bool :=
  cursor.column = 0 && cursor.rest.take 3 == [mark, mark, mark] && cursor.spacedAt 3

/-- Whether documents are separated at a place. -/
def atAnySeparator (cursor : Cursor) : Bool :=
  cursor.atSeparator '-' || cursor.atSeparator '.'

/-- Skips a comment up to the end of its line. -/
def dropComment (cursor : Cursor) : Cursor :=
  if cursor.isAt '#' then cursor.dropWhile (!isBreak ·) else cursor

/-- Skips blanks and a comment up to the end of the line, and the line break.
Nothing else may stand there. -/
def endLine? (cursor : Cursor) : Option Cursor :=
  let cursor := (cursor.dropWhile isBlank).dropComment
  match cursor.takeBreak? with
  | some (_, next) => some next
  | none => if cursor.rest.isEmpty then some cursor else none

end Cursor
end Yaml
end Conformance
