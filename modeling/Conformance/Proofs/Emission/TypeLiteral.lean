import Conformance.Emission.Structural
import Conformance.Json.Token

namespace Conformance
namespace Structural

/-!
# String literals in type expressions

A leaf that expects one text, and a property key that is no identifier, are written as string
literals of the target.  What a literal denotes there is a sequence of UTF-16 code units, and all of
its escapes are read here, not only those that quoting makes use of: short escapes, code points,
hexadecimal escapes and continued lines.  Escapes by octal digits are not part of module code.

A literal cannot contain the end of a line.  Quoting escapes the line feed, but leaves the carriage
return as it is.  So a quoted text is one literal and denotes what was quoted, with anything behind
it, unless there is a carriage return in the text; and then it is no literal at all.
-/

/-- The code units of a code point in UTF-16. -/
def codeUnits (code : Nat) : List Nat :=
  if code < 0x10000 then [code]
  else [0xD800 + (code - 0x10000) / 0x400, 0xDC00 + (code - 0x10000) % 0x400]

/-- The code units of a text. -/
def utf16 (text : String) : List Nat := text.toList.flatMap fun c => codeUnits c.toNat

/-- The characters of a text with some code units.  A half of a pair of code units that stands
alone belongs to no text. -/
def characters? : List Nat → Option (List Char)
  | [] => some []
  | [unit] => if unit.isValidChar then some [Char.ofNat unit] else none
  | first :: second :: rest =>
      if first.isValidChar then (characters? (second :: rest)).map (Char.ofNat first :: ·)
      else if first < 0xDC00 ∧ 0xDC00 ≤ second ∧ second < 0xE000 then
        (characters? rest).map
          (Char.ofNat (0x10000 + (first - 0xD800) * 0x400 + (second - 0xDC00)) :: ·)
      else none

/-- The text with some code units. -/
def text? (units : List Nat) : Option String := (characters? units).map String.ofList

theorem characters?_codeUnits (c : Char) (rest : List Nat) :
    characters? (codeUnits c.toNat ++ rest) = (characters? rest).map (c :: ·) := by
  have valid : c.toNat.isValidChar := c.valid
  have whole : Char.ofNat c.toNat = c := Char.ofNat_toNat c
  rw [codeUnits]
  split
  case isTrue =>
    cases rest with
    | nil =>
        have single : characters? [c.toNat] = some [Char.ofNat c.toNat] := if_pos valid
        rw [List.append_nil, single, whole]
        rfl
    | cons second others => rw [List.singleton_append, characters?, if_pos valid, whole]
  case isFalse large =>
    have bound : c.toNat < 0x110000 := by
      rcases valid with small | ⟨_, upper⟩
      · exact Nat.lt_trans small (by decide)
      · exact upper
    have alone : ¬(0xD800 + (c.toNat - 0x10000) / 0x400).isValidChar := by
      rw [Nat.isValidChar]
      omega
    have paired : 0x10000 + (0xD800 + (c.toNat - 0x10000) / 0x400 - 0xD800) * 0x400 +
        (0xDC00 + (c.toNat - 0x10000) % 0x400 - 0xDC00) = c.toNat := by omega
    rw [List.cons_append, List.singleton_append, characters?, if_neg alone, if_pos (by omega),
      paired, whole]

/-- The code units of a text are those of no other text. -/
theorem text?_utf16 (text : String) : text? (utf16 text) = some text := by
  have every : ∀ characters : List Char,
      characters? (characters.flatMap fun c => codeUnits c.toNat) = some characters := by
    intro characters
    induction characters with
    | nil => rfl
    | cons c rest inductionHypothesis =>
        rw [List.flatMap_cons, characters?_codeUnits, inductionHypothesis]
        rfl
  rw [text?, utf16, every, Option.map_some, String.ofList_toList]

/-! ## The literals of the target -/

/-- Where a reader is inside of a literal.  Behind an escaped zero no digit can follow, and behind an
escaped carriage return a line feed belongs to the same line end.  Of an escape by digits the reader
knows how many come after the next one, and the number so far. -/
inductive Inside where
  | text
  | escape
  | zero
  | lineEnd
  | unicode
  | digits (left value : Nat)
  | braces (begun : Bool) (value : Nat)
deriving DecidableEq, Repr

/-- What becomes of a character inside of a literal: it ends the literal, or completes code units and
takes the reader elsewhere. -/
inductive Reading where
  | close
  | go (units : List Nat) (next : Inside)

/-- The characters that a letter behind a backslash stands for. -/
def shortEscapes : List (Char × Char) :=
  [('b', '\x08'), ('f', '\x0c'), ('n', '\n'), ('r', '\r'), ('t', '\t'), ('v', '\x0b')]

/-- Reads a character that is not part of an escape. -/
def readText? (c : Char) : Option Reading :=
  if c = '\'' then some .close
  else if c = '\\' then some (.go [] .escape)
  else if c = '\n' ∨ c = '\r' then none
  else some (.go (codeUnits c.toNat) .text)

/-- Reads the character behind a backslash.  The end of a line continues the literal on the next
one. -/
def readEscape? (c : Char) : Option Reading :=
  if c = 'x' then some (.go [] (.digits 1 0))
  else if c = 'u' then some (.go [] .unicode)
  else if c = '0' then some (.go [0] .zero)
  else if c.isDigit then none
  else if c = '\r' then some (.go [] .lineEnd)
  else if c = '\n' ∨ c = '\u2028' ∨ c = '\u2029' then some (.go [] .text)
  else some (.go (codeUnits ((shortEscapes.lookup c).getD c).toNat) .text)

/-- Reads a digit of an escape with a fixed number of digits. -/
def readDigit? (left value : Nat) (c : Char) : Option Reading :=
  (Json.Token.hexDigit? c).map fun digit =>
    match left with
    | 0 => .go [16 * value + digit] .text
    | left + 1 => .go [] (.digits left (16 * value + digit))

/-- Reads a character of a code point in braces. -/
def readBraces? (begun : Bool) (value : Nat) (c : Char) : Option Reading :=
  if c = '}' then if begun then some (.go (codeUnits value) .text) else none
  else
    (Json.Token.hexDigit? c).bind fun digit =>
      if 16 * value + digit ≤ 0x10FFFF then some (.go [] (.braces true (16 * value + digit)))
      else none

/-- Reads a character of a literal. -/
def Inside.read? : Inside → Char → Option Reading
  | .text, c => readText? c
  | .escape, c => readEscape? c
  | .zero, c => if c.isDigit then none else readText? c
  | .lineEnd, c => if c = '\n' then some (.go [] .text) else readText? c
  | .unicode, c => if c = '{' then some (.go [] (.braces false 0)) else readDigit? 3 0 c
  | .digits left value, c => readDigit? left value c
  | .braces begun value, c => readBraces? begun value c

/-- The code units that the rest of a literal denotes, and the text behind the literal. -/
def literalFrom? : Inside → List Char → Option (List Nat × List Char)
  | _, [] => none
  | inside, c :: rest =>
      match inside.read? c with
      | none => none
      | some .close => some ([], rest)
      | some (.go units next) =>
          (literalFrom? next rest).map (Prod.map (units ++ ·) id)

/-- The code units that the literal at the beginning of a text denotes, and the text behind it. -/
def literal? : List Char → Option (List Nat × List Char)
  | '\'' :: rest => literalFrom? .text rest
  | _ => none

/-! ## Quoted texts -/

/-- A carriage return is written for nothing but itself. -/
theorem quotedChar_return {c : Char} (written : '\r' ∈ quotedChar c) : c = '\r' := by
  rw [quotedChar] at written
  split at written
  · simpa [eq_comm] using written
  · split at written
    · simp at written
    · exact (List.mem_singleton.mp written).symm

/-- A carriage return in a quoted text stands in the text. -/
theorem return_mem_quote_iff (text : String) :
    '\r' ∈ (quote text).toList ↔ '\r' ∈ text.toList := by
  simp only [quote, String.toList_ofList, List.cons_append, List.mem_cons, List.mem_append,
    List.mem_flatMap, List.not_mem_nil, or_false, show '\r' ≠ '\'' by decide, false_or]
  constructor
  · rintro ⟨c, member, inside⟩
    rwa [← quotedChar_return inside]
  · exact fun member => ⟨'\r', member, List.mem_cons_self⟩

variable {rest : List Char}

theorem literalFrom?_go {inside next : Inside} {c : Char} {units : List Nat}
    (reads : inside.read? c = some (.go units next)) :
    literalFrom? inside (c :: rest) = (literalFrom? next rest).map (Prod.map (units ++ ·) id) := by
  rw [literalFrom?, reads]

/-- An escape of one character behind the backslash. -/
theorem literalFrom?_escaped {c : Char} {units : List Nat}
    (reads : readEscape? c = some (.go units .text)) :
    literalFrom? .text ('\\' :: c :: rest) =
      (literalFrom? .text rest).map (Prod.map (units ++ ·) id) := by
  have opens : Inside.text.read? '\\' = some (.go [] .escape) := rfl
  have nothing : Prod.map (([] : List Nat) ++ ·) id = (id : List Nat × List Char → _) := rfl
  rw [literalFrom?_go opens, nothing, Option.map_id_apply]
  exact literalFrom?_go reads

/-- A quoted character is read as itself, unless it is a carriage return. -/
theorem literalFrom?_quotedChar {c : Char} (stays : c ≠ '\r') :
    literalFrom? .text (quotedChar c ++ rest) =
      (literalFrom? .text rest).map (Prod.map (codeUnits c.toNat ++ ·) id) := by
  rw [quotedChar]
  by_cases quote : c = '\''
  · rw [quote]
    exact literalFrom?_escaped rfl
  by_cases backslash : c = '\\'
  · rw [backslash]
    exact literalFrom?_escaped rfl
  by_cases newline : c = '\n'
  · rw [newline]
    exact literalFrom?_escaped rfl
  have plain : Inside.text.read? c = some (.go (codeUnits c.toNat) .text) := by
    rw [Inside.read?, readText?, if_neg quote, if_neg backslash,
      if_neg (not_or.mpr ⟨newline, stays⟩)]
  rw [if_neg (by simp only [quote, backslash]; decide), if_neg newline]
  exact literalFrom?_go plain

/-- The quoted characters of a text, with the quote that ends them. -/
theorem literalFrom?_quoted (characters : List Char) :
    literalFrom? .text (characters.flatMap quotedChar ++ '\'' :: rest) =
      if '\r' ∈ characters then none
      else some (characters.flatMap fun c => codeUnits c.toNat, rest) := by
  induction characters with
  | nil => rfl
  | cons c characters inductionHypothesis =>
      rw [List.flatMap_cons, List.append_assoc]
      by_cases carriage : c = '\r'
      · rw [carriage, if_pos List.mem_cons_self]
        rfl
      · rw [literalFrom?_quotedChar carriage, inductionHypothesis]
        simp only [List.mem_cons, Ne.symm carriage, false_or]
        split
        · rfl
        · rfl

theorem literal?_quote (text : String) :
    literal? ((quote text).toList ++ rest) =
      if '\r' ∈ text.toList then none else some (utf16 text, rest) := by
  rw [quote, String.toList_ofList, List.cons_append, List.cons_append, List.append_assoc,
    List.singleton_append]
  exact literalFrom?_quoted text.toList

/-- An identifier is no literal. -/
theorem literal?_plain {name : String} (plain : Naming.isPlainIdentifier name = true) :
    literal? (name.toList ++ rest) = none := by
  rw [Naming.isPlainIdentifier] at plain
  cases letters : name.toList with
  | nil =>
      rw [letters] at plain
      cases plain
  | cons first others =>
      rw [letters, Bool.and_eq_true] at plain
      have other : first ≠ '\'' := by
        rintro rfl
        exact absurd plain.1 (by decide)
      rw [List.cons_append, literal?]
      exact fun _ same => other (List.cons.inj same).1

/-- The expression of a leaf that expects one text begins with a literal that denotes the text and
ends where the expression ends, unless the text contains a carriage return: then no literal begins
there.  A property key is such a literal too if it is no identifier. -/
theorem literal?_exact (text : String) (rest : List Char) :
    literal? ((leafType (.exact text)).toList ++ rest) =
        (if '\r' ∈ text.toList then none else some (utf16 text, rest)) ∧
      literal? ((key text).toList ++ rest) =
        if Naming.isPlainIdentifier text ∨ '\r' ∈ text.toList then none
        else some (utf16 text, rest) := by
  refine ⟨literal?_quote text, ?_⟩
  rw [key]
  by_cases plain : Naming.isPlainIdentifier text = true
  · rw [if_pos plain, if_pos (.inl plain)]
    exact literal?_plain plain
  · rw [if_neg plain, literal?_quote text]
    simp only [plain, false_or, Bool.false_eq_true]

/-- A carriage return is left as it is, so that no literal is written for a text that contains
one. -/
theorem return_is_left_raw :
    leafType (.exact "a\rb") = "'a\rb'" ∧ key "a\rb" = "'a\rb'" ∧
      literal? "'a\rb'".toList = none ∧
      ¬ ∀ (text : String) (rest : List Char),
        literal? ((leafType (.exact text)).toList ++ rest) = some (utf16 text, rest) := by
  have none : literal? "'a\rb'".toList = none := by decide +kernel
  refine ⟨by decide +kernel, by decide +kernel, none, fun always => ?_⟩
  have here := always "a\rb" []
  rw [List.append_nil] at here
  exact absurd (none.symm.trans here) (by decide +kernel)

example : literal? "'\\x41\\u0042\\u\x7b1F600\x7d\\\n\\v'".toList =
    some ([0x41, 0x42, 0xD83D, 0xDE00, 0x0b], []) := by decide +kernel

end Structural
end Conformance
