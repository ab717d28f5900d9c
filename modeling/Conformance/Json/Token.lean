import Conformance.Number.Literal

namespace Conformance
namespace Json

/-!
# Tokens of JSON text

`Token.scan` splits a text into tokens in one pass over its characters.  The
scanner holds what it has read of the token in progress.  A word or a number
ends at the first character that cannot continue it, and that character is then
read as the beginning of something new.  Whether the tokens fit together is not
decided here.
-/

/-- A token of JSON text. -/
inductive Token where
  | openList
  | closeList
  | openMap
  | closeMap
  | comma
  | colon
  | null
  | boolean (value : Bool)
  | number (value : Number)
  | text (value : String)
deriving Repr

namespace Token

/-- What the scanner has read of the token in progress.  Characters are kept
newest first.  `low` holds the first half of a surrogate pair. -/
inductive Pending where
  | none
  | word (letters : List Char)
  | number (characters : List Char)
  | text (characters : List Char)
  | escape (characters : List Char)
  | unicode (characters : List Char) (digits : List Nat)
  | pairBackslash (characters : List Char) (high : Nat)
  | pairLetter (characters : List Char) (high : Nat)
  | pair (characters : List Char) (high : Nat) (digits : List Nat)

/-- The value of a hexadecimal digit. -/
def hexDigit? (c : Char) : Option Nat :=
  if '0' ≤ c ∧ c ≤ '9' then some (c.toNat - '0'.toNat)
  else if 'a' ≤ c ∧ c ≤ 'f' then some (c.toNat - 'a'.toNat + 10)
  else if 'A' ≤ c ∧ c ≤ 'F' then some (c.toNat - 'A'.toNat + 10)
  else none

/-- The value of a decimal digit. -/
def digitValue (c : Char) : Nat := c.toNat - '0'.toNat

/-- Whether a character may stand inside a number. -/
def isNumeric (c : Char) : Bool :=
  c.isDigit || c = '-' || c = '+' || c = '.' || c = 'e' || c = 'E'

/-- The power of ten after the letter `e`. -/
def exponentPart? (characters : List Char) : Option (Bool × List Nat) :=
  let (negative, digits) :=
    match characters with
    | '-' :: rest => (true, rest)
    | '+' :: rest => (false, rest)
    | _ => (false, characters)
  if digits ≠ [] && digits.all Char.isDigit then some (negative, digits.map digitValue) else none

/-- What follows the whole part of a number: a fraction, a power of ten, both or
neither. -/
def fractionAndExponent? (characters : List Char) :
    Option (Option (List Nat) × Option (Bool × List Nat)) :=
  match characters with
  | '.' :: rest =>
      let fraction := rest.takeWhile Char.isDigit
      if fraction = [] then none
      else
        match rest.dropWhile Char.isDigit with
        | [] => some (some (fraction.map digitValue), none)
        | c :: power =>
            if c = 'e' || c = 'E' then
              (exponentPart? power).map fun exponent =>
                (some (fraction.map digitValue), some exponent)
            else none
  | [] => some (none, none)
  | c :: power =>
      if c = 'e' || c = 'E' then (exponentPart? power).map fun exponent => (none, some exponent)
      else none

/-- The literal that a run of numeric characters spells.  A whole part of
several digits does not start with zero. -/
def literal? (characters : List Char) : Option Literal := do
  let (negative, unsigned) :=
    match characters with
    | '-' :: rest => (true, rest)
    | _ => (false, characters)
  let whole := unsigned.takeWhile Char.isDigit
  if whole = [] || (whole.head? = some '0' && 1 < whole.length) then none
  else
    let (fraction, exponent) ← fractionAndExponent? (unsigned.dropWhile Char.isDigit)
    return ⟨negative, whole.map digitValue, fraction, exponent⟩

/-- The token that a run of numeric characters spells. -/
def number? (characters : List Char) : Option Token :=
  ((literal? characters).bind Literal.wordScaled?).map .number

/-- The token that a run of letters spells. -/
def word? (letters : List Char) : Option Token :=
  if letters = ['n', 'u', 'l', 'l'] then some .null
  else if letters = ['t', 'r', 'u', 'e'] then some (.boolean true)
  else if letters = ['f', 'a', 'l', 's', 'e'] then some (.boolean false)
  else none

/-- The character of a simple escape. -/
def escaped? : Char → Option Char
  | '"' => some '"'
  | '\\' => some '\\'
  | '/' => some '/'
  | 'b' => some '\x08'
  | 'f' => some '\x0c'
  | 'n' => some '\n'
  | 'r' => some '\r'
  | 't' => some '\t'
  | _ => none

/-- A scanner: the token in progress and the finished tokens, newest first. -/
structure Scanner where
  pending : Pending
  tokens : List Token

/-- A scanner between tokens. -/
def idle (tokens : List Token) : Scanner := ⟨.none, tokens⟩

/-- Reads the first character of a token, or blank space. -/
def start? (tokens : List Token) (c : Char) : Option Scanner :=
  match c with
  | ' ' | '\n' | '\t' | '\r' => some (idle tokens)
  | '[' => some (idle (.openList :: tokens))
  | ']' => some (idle (.closeList :: tokens))
  | '{' => some (idle (.openMap :: tokens))
  | '}' => some (idle (.closeMap :: tokens))
  | ',' => some (idle (.comma :: tokens))
  | ':' => some (idle (.colon :: tokens))
  | '"' => some ⟨.text [], tokens⟩
  | _ =>
      if c.isDigit || c = '-' then some ⟨.number [c], tokens⟩
      else if 'a' ≤ c ∧ c ≤ 'z' then some ⟨.word [c], tokens⟩
      else none

/-- The number that four hexadecimal digits denote. -/
def hexValue (digits : List Nat) : Nat :=
  digits.foldl (fun value digit => 16 * value + digit) 0

/-- Adds the character of a four-digit escape to a text.  The first half of a
surrogate pair waits for the second, and a second half alone is refused. -/
def finishUnicode? (tokens : List Token) (characters : List Char) (code : Nat) : Option Scanner :=
  if 0xD800 ≤ code ∧ code ≤ 0xDBFF then some ⟨.pairBackslash characters code, tokens⟩
  else if 0xDC00 ≤ code ∧ code ≤ 0xDFFF then none
  else some ⟨.text (Char.ofNat code :: characters), tokens⟩

/-- Adds the character of a surrogate pair to a text. -/
def finishPair? (tokens : List Token) (characters : List Char) (high low : Nat) : Option Scanner :=
  if 0xDC00 ≤ low ∧ low ≤ 0xDFFF then
    let code := 0x10000 + (high - 0xD800) * 0x400 + (low - 0xDC00)
    some ⟨.text (Char.ofNat code :: characters), tokens⟩
  else none

/-- Reads one character. -/
def Scanner.step? (scanner : Scanner) (c : Char) : Option Scanner :=
  let tokens := scanner.tokens
  match scanner.pending with
  | .none => start? tokens c
  | .word letters =>
      if 'a' ≤ c ∧ c ≤ 'z' then some ⟨.word (c :: letters), tokens⟩
      else (word? letters.reverse).bind fun token => start? (token :: tokens) c
  | .number characters =>
      if isNumeric c then some ⟨.number (c :: characters), tokens⟩
      else (number? characters.reverse).bind fun token => start? (token :: tokens) c
  | .text characters =>
      if c = '"' then some (idle (.text (String.ofList characters.reverse) :: tokens))
      else if c = '\\' then some ⟨.escape characters, tokens⟩
      else if c.toNat < 0x20 then none
      else some ⟨.text (c :: characters), tokens⟩
  | .escape characters =>
      if c = 'u' then some ⟨.unicode characters [], tokens⟩
      else (escaped? c).map fun plain => ⟨.text (plain :: characters), tokens⟩
  | .unicode characters digits =>
      (hexDigit? c).bind fun digit =>
        let digits := digits ++ [digit]
        if digits.length < 4 then some ⟨.unicode characters digits, tokens⟩
        else finishUnicode? tokens characters (hexValue digits)
  | .pairBackslash characters high =>
      if c = '\\' then some ⟨.pairLetter characters high, tokens⟩ else none
  | .pairLetter characters high =>
      if c = 'u' then some ⟨.pair characters high [], tokens⟩ else none
  | .pair characters high digits =>
      (hexDigit? c).bind fun digit =>
        let digits := digits ++ [digit]
        if digits.length < 4 then some ⟨.pair characters high digits, tokens⟩
        else finishPair? tokens characters high (hexValue digits)

/-- Ends the token in progress. -/
def Scanner.finish? (scanner : Scanner) : Option (List Token) :=
  match scanner.pending with
  | .none => some scanner.tokens
  | .word letters => (word? letters.reverse).map (· :: scanner.tokens)
  | .number characters => (number? characters.reverse).map (· :: scanner.tokens)
  | _ => none

/-- The tokens of a text, or `none` where some part of it is no token. -/
def scan? (characters : List Char) : Option (List Token) := do
  let scanner ← characters.foldlM Scanner.step? (idle [])
  let tokens ← scanner.finish?
  return tokens.reverse

end Token
end Json
end Conformance
