import Conformance.Json.Token
import Conformance.Yaml.Cursor

namespace Conformance
namespace Yaml

/-!
# Scalars of YAML text

A scalar is written plainly, between quotes, or as a block of lines.  Breaks
inside plain and quoted scalars are folded: a single break is a space, and of
several breaks the first is dropped.  A block keeps its breaks or folds those
between lines that begin without a blank.
-/

/-- How a scalar is written. -/
inductive Style where
  | plain
  | quoted
  | literal
  | folded
deriving DecidableEq, Repr

/-- What stands between two words of a scalar. -/
structure Gap where
  spaces : List Char
  firstBreak : List Char
  otherBreaks : List Char
  broken : Bool

namespace Gap

/-- Nothing between two words. -/
def empty : Gap := ⟨[], [], [], false⟩

/-- What a gap stands for. -/
def text (gap : Gap) : List Char :=
  if gap.broken then
    if gap.firstBreak = ['\n'] then
      if gap.otherBreaks.isEmpty then [' '] else gap.otherBreaks
    else gap.firstBreak ++ gap.otherBreaks
  else gap.spaces

/-- Takes blanks and breaks.  A tab that would stand for indentation, in a column
before `indent`, is refused. -/
def take? (indent : Nat) : Nat → Gap → Cursor → Option (Gap × Cursor)
  | 0, gap, cursor => some (gap, cursor)
  | fuel + 1, gap, cursor =>
      match cursor.rest with
      | [] => some (gap, cursor)
      | c :: _ =>
          if isBlank c then
            if gap.broken && cursor.column < indent && c = '\t' then none
            else if gap.broken then take? indent fuel gap (cursor.skip 1)
            else take? indent fuel { gap with spaces := gap.spaces ++ [c] } (cursor.skip 1)
          else
            match cursor.takeBreak? with
            | none => some (gap, cursor)
            | some (taken, next) =>
                if gap.broken then
                  take? indent fuel { gap with otherBreaks := gap.otherBreaks ++ [taken] } next
                else take? indent fuel ⟨[], [taken], gap.otherBreaks, true⟩ next

end Gap

/-- Whether a character ends a plain scalar inside brackets. -/
def isFlowMark (c : Char) : Bool :=
  c = ',' || c = '[' || c = ']' || c = '\x7b' || c = '\x7d'

namespace Plain

/-- Takes a word of a plain scalar.  A colon ends it before spacing.  Inside
brackets the marks of a collection end it as well, and a colon right before such a
mark is refused. -/
def word? (flow : Bool) : List Char → Option (List Char)
  | [] => some []
  | c :: rest =>
      if isSpacing c then some []
      else if flow && c = ':' && rest.head?.any (fun next => isFlowMark next || next = '?') then
        none
      else if c = ':' && rest.head?.all isSpacing then some []
      else if flow && isFlowMark c then some []
      else (word? flow rest).map (c :: ·)

/-- Takes the words of a plain scalar.  The answer tells whether a line break
follows the last word.  Outside of brackets a line that is not indented ends the
scalar. -/
def take? (flow : Bool) (indent : Nat) : Nat → List Char → Gap → Cursor →
    Option (List Char × Bool × Cursor)
  | 0, text, gap, cursor => some (text, gap.broken, cursor)
  | fuel + 1, text, gap, cursor =>
      if cursor.atAnySeparator || cursor.isAt '#' then some (text, gap.broken, cursor)
      else
        match word? flow cursor.rest with
        | none => none
        | some word =>
            let (text, gap) :=
              if word.isEmpty then (text, gap) else (text ++ gap.text ++ word, Gap.empty)
            let cursor := cursor.skip word.length
            if cursor.rest.head?.any isSpacing then
              match Gap.take? indent (cursor.rest.length + 1) Gap.empty cursor with
              | none => none
              | some (gap, cursor) =>
                  if !flow && cursor.column < indent then some (text, gap.broken, cursor)
                  else take? flow indent fuel text gap cursor
            else some (text, gap.broken, cursor)

end Plain

namespace Quoted

/-- The character that a letter after a backslash stands for. -/
def escaped? : Char → Option Char
  | '0' => some '\x00'
  | 'a' => some '\x07'
  | 'b' => some '\x08'
  | 't' => some '\t'
  | '\t' => some '\t'
  | 'n' => some '\n'
  | 'v' => some '\x0b'
  | 'f' => some '\x0c'
  | 'r' => some '\r'
  | 'e' => some '\x1b'
  | ' ' => some ' '
  | '"' => some '"'
  | '/' => some '/'
  | '\\' => some '\\'
  | 'N' => some '\u0085'
  | '_' => some '\u00a0'
  | 'L' => some '\u2028'
  | 'P' => some '\u2029'
  | _ => none

/-- The count of hexadecimal digits after a letter. -/
def codeLength? : Char → Option Nat
  | 'x' => some 2
  | 'u' => some 4
  | 'U' => some 8
  | _ => none

/-- The character whose code is written in hexadecimal digits. -/
def ofCode? (digits : List Char) : Option Char := do
  let values ← digits.mapM Json.Token.hexDigit?
  let code := values.foldl (fun code digit => 16 * code + digit) 0
  if (0xD800 ≤ code && code ≤ 0xDFFF) || 0x10FFFF < code then none else some (Char.ofNat code)

/-- Takes a word between double quotes.  The answer tells whether an escaped line
break ends it; characters come newest first. -/
def doubleWord? : Nat → List Char → Cursor → Option (List Char × Bool × Cursor)
  | 0, _, _ => none
  | fuel + 1, taken, cursor =>
      match cursor.rest with
      | [] => some (taken, false, cursor)
      | '"' :: _ => some (taken, false, cursor)
      | '\\' :: c :: rest =>
          if isBreak c then
            match (cursor.skip 1).takeBreak? with
            | some (_, next) => some (taken, true, next)
            | none => none
          else
            match codeLength? c with
            | some count =>
                if (rest.take count).length = count then
                  match ofCode? (rest.take count) with
                  | some code => doubleWord? fuel (code :: taken) (cursor.skip (2 + count))
                  | none => none
                else none
            | none =>
                match escaped? c with
                | some meant => doubleWord? fuel (meant :: taken) (cursor.skip 2)
                | none => none
      | ['\\'] => none
      | c :: _ =>
          if isSpacing c then some (taken, false, cursor)
          else doubleWord? fuel (c :: taken) (cursor.skip 1)

/-- Takes a word between single quotes, where a quote is written twice. -/
def singleWord? : Nat → List Char → Cursor → Option (List Char × Bool × Cursor)
  | 0, _, _ => none
  | fuel + 1, taken, cursor =>
      match cursor.rest with
      | [] => some (taken, false, cursor)
      | '\'' :: '\'' :: _ => singleWord? fuel ('\'' :: taken) (cursor.skip 2)
      | '\'' :: _ => some (taken, false, cursor)
      | c :: _ =>
          if isSpacing c then some (taken, false, cursor)
          else singleWord? fuel (c :: taken) (cursor.skip 1)

/-- Takes the words up to the closing quote. -/
def words? (quote : Char) : Nat → List Char → Cursor → Option (List Char × Cursor)
  | 0, _, _ => none
  | fuel + 1, text, cursor =>
      if cursor.atAnySeparator || cursor.rest.isEmpty then none
      else
        let size := cursor.rest.length + 1
        let word? := if quote = '"' then doubleWord? size [] cursor else singleWord? size [] cursor
        match word? with
        | none => none
        | some (word, escapedBreak, cursor) =>
            let text := text ++ word.reverse
            if cursor.isAt quote then some (text, cursor.skip 1)
            else
              match Gap.take? 0 (cursor.rest.length + 1) ⟨[], [], [], escapedBreak⟩ cursor with
              | none => none
              | some (gap, cursor) => words? quote fuel (text ++ gap.text) cursor

/-- Takes a quoted scalar from its opening quote on. -/
def take? (quote : Char) (cursor : Cursor) : Option (List Char × Cursor) :=
  words? quote (cursor.rest.length + 1) [] (cursor.skip 1)

end Quoted

namespace Block

/-- What happens to the breaks at the end of a block. -/
inductive Chomp where
  | strip
  | clip
  | keep
deriving DecidableEq

/-- The header of a block: its chomping and its indentation, if that is given. -/
structure Header where
  chomp : Chomp
  indent : Option Nat

/-- The chomping that a character stands for. -/
def chomp? : Char → Option Chomp
  | '+' => some .keep
  | '-' => some .strip
  | _ => none

/-- Takes the digit of an indentation, which must not be zero. -/
def digit? (cursor : Cursor) : Option (Option Nat × Cursor) :=
  match cursor.rest with
  | c :: _ =>
      if c = '0' then none
      else if '1' ≤ c && c ≤ '9' then some (some (c.toNat - 48), cursor.skip 1)
      else some (none, cursor)
  | [] => some (none, cursor)

/-- Takes the header of a block. -/
def header? (cursor : Cursor) : Option (Header × Cursor) := do
  match cursor.head?.bind chomp? with
  | some chomp =>
      let (indent, cursor) ← digit? (cursor.skip 1)
      return (⟨chomp, indent⟩, cursor)
  | none =>
      let (indent, cursor) ← digit? cursor
      match indent, cursor.head?.bind chomp? with
      | some _, some chomp => return (⟨chomp, indent⟩, cursor.skip 1)
      | _, _ => return (⟨.clip, indent⟩, cursor)

/-- What precedes a line of a block: breaks, newest last, and the largest column
that was seen. -/
structure Lead where
  breaks : List Char
  column : Nat

/-- Takes empty lines and the indentation of the line after them.  If the
indentation is not known yet all spaces are taken. -/
def lead? (indent : Option Nat) : Nat → Lead → Cursor → Option (Lead × Cursor)
  | 0, lead, cursor => some (lead, cursor)
  | fuel + 1, lead, cursor =>
      let spaces := (cursor.rest.takeWhile (· = ' ')).length
      let cursor := cursor.skip (indent.elim spaces fun indent => min spaces (indent - cursor.column))
      let lead := { lead with column := max lead.column cursor.column }
      if indent.all (cursor.column < ·) && cursor.isAt '\t' then none
      else
        match cursor.takeBreak? with
        | none => some (lead, cursor)
        | some (taken, next) =>
            lead? indent fuel { lead with breaks := lead.breaks ++ [taken] } next

/-- A block in the making. -/
structure Lines where
  text : List Char
  lastBreak : List Char
  breaks : List Char
  blankBefore : Bool

/-- Takes the lines of a block. -/
def lines? (folds : Bool) (indent : Nat) : Nat → Lines → Cursor → Option (Lines × Cursor)
  | 0, lines, cursor => some (lines, cursor)
  | fuel + 1, lines, cursor =>
      if cursor.column = indent && !cursor.rest.isEmpty then
        let blank := cursor.rest.head?.any isBlank
        let joint :=
          if folds && lines.lastBreak = ['\n'] && !lines.blankBefore && !blank then
            if lines.breaks.isEmpty then [' '] else []
          else lines.lastBreak
        let (line, cursor) := cursor.takeWhile (!isBreak ·)
        let text := lines.text ++ joint ++ lines.breaks ++ line
        let (lastBreak, cursor) :=
          match cursor.takeBreak? with
          | some (taken, next) => ([taken], next)
          | none => ([], cursor)
        match lead? (some indent) (cursor.rest.length + 1) ⟨[], 0⟩ cursor with
        | none => none
        | some (lead, cursor) => lines? folds indent fuel ⟨text, lastBreak, lead.breaks, blank⟩ cursor
      else some (lines, cursor)

/-- Takes a block scalar behind its mark.  `parent` is the column of the
collection around it, plus one. -/
def take? (folds : Bool) (parent : Nat) (cursor : Cursor) : Option (List Char × Cursor) := do
  let (header, cursor) ← header? cursor
  let cursor ← cursor.endLine?
  let given := header.indent.map (· + (parent - 1))
  let (lead, cursor) ← lead? given (cursor.rest.length + 1) ⟨[], 0⟩ cursor
  let indent := given.getD (max (max lead.column parent) 1)
  let (lines, cursor) ←
    lines? folds indent (cursor.rest.length + 1) ⟨[], [], lead.breaks, false⟩ cursor
  match header.chomp with
  | .strip => return (lines.text, cursor)
  | .clip => return (lines.text ++ lines.lastBreak, cursor)
  | .keep => return (lines.text ++ lines.lastBreak ++ lines.breaks, cursor)

end Block
end Yaml
end Conformance
