import Conformance.Yaml.Scalar

namespace Conformance
namespace Yaml

/-!
# Tokens of YAML text

Block collections have no brackets of their own; their tokens are made from the
columns of lines.  The scanner keeps the margins of the open collections and ends
a collection at the first token that stands before its margin.

Whether a scalar or a bracket begins a key is known only when a colon follows on
the same line.  So the scanner leaves room for two tokens before everything that
could be a key, and fills it when the colon is found.  `Token.scan?` drops the
room that stays vacant.
-/

/-- A token of YAML text. -/
inductive Token where
  | vacant
  | version (major minor : Nat)
  | tagHandle (handle lead : String)
  | documentStart
  | documentEnd
  | blockSequence
  | blockMapping
  | blockEnd
  | flowSequence
  | flowSequenceEnd
  | flowMapping
  | flowMappingEnd
  | blockEntry
  | flowEntry
  | key
  | value
  | aliasOf (name : String)
  | anchor (name : String)
  | tag (handle suffix : String)
  | scalar (style : Style) (text : String)
deriving DecidableEq, Repr

/-- A place where a key may have begun. -/
structure PendingKey where
  required : Bool
  position : Nat
  index : Nat
  line : Nat
  column : Nat

/-- The state of the scanner.  A margin is one more than the column of a
collection.  Pending keys are kept for every level of brackets, innermost first. -/
structure Scanner where
  cursor : Cursor
  tokens : Array Token
  pending : List (Option PendingKey)
  margins : List Nat
  keyAllowed : Bool

namespace Scanner

/-- The scanner at the beginning of a text. -/
def start (text : List Char) : Scanner := ⟨.start text, #[], [none], [], true⟩

/-- Whether the scanner is inside brackets. -/
def inFlow (scanner : Scanner) : Bool := 1 < scanner.pending.length

/-- The margin of the innermost collection, zero if there is none. -/
def margin (scanner : Scanner) : Nat := scanner.margins.head?.getD 0

/-- Adds a token. -/
def add (scanner : Scanner) (token : Token) : Scanner :=
  { scanner with tokens := scanner.tokens.push token }

/-- Adds a token and moves over its characters. -/
def addMark (scanner : Scanner) (token : Token) (width : Nat) : Scanner :=
  { scanner.add token with cursor := scanner.cursor.skip width }

/-- Allows or forbids a key at the next token. -/
def allowKey (scanner : Scanner) (allowed : Bool) : Scanner :=
  { scanner with keyAllowed := allowed }

/-- Skips blanks, comments and line breaks.  Outside of brackets a key may begin
after a line break, and tabs are no indentation. -/
def skipSpacing : Nat → Scanner → Scanner
  | 0, scanner => scanner
  | fuel + 1, scanner =>
      let tabs := scanner.inFlow || !scanner.keyAllowed
      let cursor := scanner.cursor
      let cursor := if cursor.column = 0 && cursor.isAt '\ufeff' then cursor.skip 1 else cursor
      let cursor := (cursor.dropWhile fun c => c = ' ' || (tabs && c = '\t')).dropComment
      match cursor.takeBreak? with
      | some (_, next) =>
          skipSpacing fuel
            { scanner with cursor := next, keyAllowed := scanner.keyAllowed || !scanner.inFlow }
      | none => { scanner with cursor := cursor }

/-- Whether a pending key can still get its colon at a place. -/
def PendingKey.isFresh (cursor : Cursor) (key : PendingKey) : Bool :=
  key.line = cursor.line && cursor.index ≤ key.index + 1024

/-- Forgets pending keys that cannot get a colon any more.  A key that is
required must not be forgotten. -/
def dropStale? (scanner : Scanner) : Option Scanner :=
  let stale (key : PendingKey) : Bool := !PendingKey.isFresh scanner.cursor key
  if scanner.pending.any (·.any fun key => key.required && stale key) then none
  else some { scanner with pending := scanner.pending.map (·.filter fun key => !stale key) }

/-- Forgets the pending key of the innermost level. -/
def dropKey? (scanner : Scanner) : Option Scanner :=
  match scanner.pending with
  | key :: others =>
      if key.any (·.required) then none else some { scanner with pending := none :: others }
  | [] => none

/-- Notes that a key may begin here. -/
def noteKey? (scanner : Scanner) : Option Scanner :=
  let cursor := scanner.cursor
  let required := !scanner.inFlow && scanner.margin = cursor.column + 1
  if scanner.keyAllowed then
    match scanner.dropKey? with
    | none => none
    | some scanner =>
        let key : PendingKey :=
          ⟨required, scanner.tokens.size, cursor.index, cursor.line, cursor.column⟩
        some
          { scanner with
            tokens := (scanner.tokens.push .vacant).push .vacant
            pending := some key :: scanner.pending.drop 1 }
  else some scanner

/-- Ends the collections whose margin lies beyond a limit. -/
def closeBlocks (limit : Nat) (scanner : Scanner) : Scanner :=
  if scanner.inFlow then scanner
  else
    let closed := scanner.margins.takeWhile (limit < ·)
    { scanner with
      tokens := scanner.tokens ++ (closed.map fun _ => Token.blockEnd)
      margins := scanner.margins.drop closed.length }

/-- Begins a collection at a column, unless it is open already. -/
def openBlock (column : Nat) (token : Token) (scanner : Scanner) : Scanner :=
  if scanner.inFlow || column < scanner.margin then scanner
  else { scanner.add token with margins := (column + 1) :: scanner.margins }

/-- Adds a mark that separates documents. -/
def separator? (token : Token) (scanner : Scanner) : Option Scanner := do
  let scanner ← (scanner.closeBlocks 0).dropKey?
  return (scanner.allowKey false).addMark token 3

/-- Adds an opening bracket. -/
def openFlow? (token : Token) (scanner : Scanner) : Option Scanner := do
  let scanner ← scanner.noteKey?
  let scanner := { scanner with pending := none :: scanner.pending }
  return (scanner.allowKey true).addMark token 1

/-- Adds a closing bracket. -/
def closeFlow? (token : Token) (scanner : Scanner) : Option Scanner := do
  let scanner ← scanner.dropKey?
  let pending := if scanner.inFlow then scanner.pending.drop 1 else scanner.pending
  return ({ scanner with pending := pending }.allowKey false).addMark token 1

/-- Adds the comma between two items. -/
def flowEntry? (scanner : Scanner) : Option Scanner := do
  let scanner ← scanner.dropKey?
  return (scanner.allowKey true).addMark .flowEntry 1

/-- Adds the dash before an item. -/
def blockEntry? (scanner : Scanner) : Option Scanner :=
  if !scanner.inFlow && !scanner.keyAllowed then none
  else do
    let scanner ← (scanner.openBlock scanner.cursor.column .blockSequence).dropKey?
    return (scanner.allowKey true).addMark .blockEntry 1

/-- Adds the question mark before a key. -/
def key? (scanner : Scanner) : Option Scanner :=
  if !scanner.inFlow && !scanner.keyAllowed then none
  else do
    let scanner ← (scanner.openBlock scanner.cursor.column .blockMapping).dropKey?
    return (scanner.allowKey (!scanner.inFlow)).addMark .key 1

/-- Adds the colon before a value.  If a key is pending its room is filled. -/
def value? (scanner : Scanner) : Option Scanner :=
  match scanner.pending with
  | some key :: others =>
      let opens := !scanner.inFlow && scanner.margin ≤ key.column
      let tokens :=
        (scanner.tokens.setIfInBounds key.position
            (if opens then .blockMapping else .vacant)).setIfInBounds (key.position + 1) .key
      let margins := if opens then (key.column + 1) :: scanner.margins else scanner.margins
      let scanner :=
        { scanner with tokens := tokens, pending := none :: others, margins := margins }
      some ((scanner.allowKey false).addMark .value 1)
  | _ =>
      if !scanner.inFlow && !scanner.keyAllowed then none
      else
        let scanner := scanner.openBlock scanner.cursor.column .blockMapping
        some ((scanner.allowKey (!scanner.inFlow)).addMark .value 1)

/-- Adds a token that can begin a key and was taken up to a place. -/
def addKeyPart? (scanner : Scanner) (taken? : Option (Token × Cursor)) : Option Scanner := do
  let scanner ← scanner.noteKey?
  let (token, cursor) ← taken?
  return { (scanner.allowKey false).add token with cursor := cursor }

/-- Takes the name of an anchor or alias behind its mark. -/
def name? (cursor : Cursor) : Option (String × Cursor) :=
  let (name, cursor) := cursor.takeWhile isNameChar
  let ends := cursor.rest.head?.all fun c =>
    isSpacing c || c = '?' || c = ':' || c = ',' || c = ']' || c = '\x7d' || c = '%' ||
      c = '@' || c = '`'
  if name.isEmpty || !ends then none else some (String.ofList name, cursor)

/-- Whether a character may stand in a tag. -/
def isTagChar (verbatim : Bool) (c : Char) : Bool :=
  isNameChar c || ";/?:@&=+$.!~*'()%".contains c || (verbatim && ",[]".contains c)

/-- The count of bytes of a character, read off its first byte. -/
def byteWidth? (first : Nat) : Option Nat :=
  if first < 0x80 then some 1
  else if 0xC0 ≤ first && first < 0xE0 then some 2
  else if 0xE0 ≤ first && first < 0xF0 then some 3
  else if 0xF0 ≤ first && first < 0xF8 then some 4
  else none

/-- The byte that two hexadecimal digits after a percent sign stand for. -/
def percentByte? : List Char → Option (Nat × List Char)
  | '%' :: high :: low :: rest => do
      return (16 * (← Json.Token.hexDigit? high) + (← Json.Token.hexDigit? low), rest)
  | _ => none

/-- The bytes that follow the first byte of a character. -/
def percentRest? : Nat → List Char → Option (List Nat × List Char)
  | 0, rest => some ([], rest)
  | count + 1, text => do
      let (byte, rest) ← percentByte? text
      if byte / 64 = 2 then
        let (bytes, rest) ← percentRest? count rest
        return (byte :: bytes, rest)
      else none

/-- Decodes the percent signs of a tag. -/
def percentDecoded? : Nat → List Char → Option (List Char)
  | 0, _ => none
  | fuel + 1, text =>
      match text with
      | [] => some []
      | '%' :: _ => do
          let (first, rest) ← percentByte? text
          let width ← byteWidth? first
          let (others, rest) ← percentRest? (width - 1) rest
          let bytes := (first :: others).map UInt8.ofNat
          let decoded ← String.fromUTF8? ⟨bytes.toArray⟩
          return decoded.toList ++ (← percentDecoded? fuel rest)
      | c :: rest => (percentDecoded? fuel rest).map (c :: ·)

/-- Takes the characters of a tag. -/
def tagText? (verbatim : Bool) (cursor : Cursor) : Option (List Char × Cursor) := do
  let (text, cursor) := cursor.takeWhile (isTagChar verbatim)
  return (← percentDecoded? (text.length + 1) text, cursor)

/-- Takes the handle of a tag: a mark, or a name between two marks. -/
def handle? (cursor : Cursor) : Option (List Char × Cursor) :=
  if cursor.isAt '!' then
    let (name, next) := (cursor.skip 1).takeWhile isNameChar
    if next.isAt '!' then some ('!' :: name ++ ['!'], next.skip 1) else some ('!' :: name, next)
  else none

/-- Takes a tag. -/
def tag? (flow : Bool) (cursor : Cursor) : Option (Token × Cursor) := do
  let (token, cursor) ←
    if cursor.rest.take 2 == ['!', '<'] then do
      let (text, cursor) ← tagText? true (cursor.skip 2)
      if text.isEmpty || !cursor.isAt '>' then none
      else some (Token.tag "" (String.ofList text), cursor.skip 1)
    else do
      let (handle, next) ← handle? cursor
      if 2 ≤ handle.length && handle.getLast? == some '!' then
        let (text, next) ← tagText? false next
        if text.isEmpty then none
        else some (Token.tag (String.ofList handle) (String.ofList text), next)
      else
        let (text, next) ← tagText? false next
        let suffix := handle.drop 1 ++ text
        if suffix.isEmpty then some (Token.tag "" "!", next)
        else some (Token.tag "!" (String.ofList suffix), next)
  if cursor.spacedAt 0 || (flow && cursor.isAt ',') then some (token, cursor) else none

/-- Takes the digits of a version. -/
def versionPart? (cursor : Cursor) : Option (Nat × Cursor) :=
  let (digits, cursor) := cursor.takeWhile Char.isDigit
  if digits.isEmpty || 9 < digits.length then none
  else some (digits.foldl (fun value digit => 10 * value + (digit.toNat - 48)) 0, cursor)

/-- Takes a directive behind its percent sign, up to the end of its line. -/
def directive? (cursor : Cursor) : Option (Token × Cursor) := do
  let (name, cursor) := cursor.takeWhile isNameChar
  if !cursor.spacedAt 0 then none
  else
    let blanks := cursor.dropWhile isBlank
    match String.ofList name with
    | "YAML" =>
        let (major, cursor) ← versionPart? blanks
        if cursor.isAt '.' then
          let (minor, cursor) ← versionPart? (cursor.skip 1)
          return (.version major minor, ← cursor.endLine?)
        else none
    | "TAG" =>
        let (handle, cursor) ← handle? blanks
        if handle != ['!'] && handle.getLast? != some '!' then none
        else if !(cursor.rest.head?.any isBlank) then none
        else
          let (lead, cursor) ← tagText? true (cursor.dropWhile isBlank)
          if lead.isEmpty || !cursor.spacedAt 0 then none
          else return (.tagHandle (String.ofList handle) (String.ofList lead), ← cursor.endLine?)
    | _ => none

/-- Adds a directive. -/
def addDirective? (scanner : Scanner) : Option Scanner := do
  let scanner ← (scanner.closeBlocks 0).dropKey?
  let (token, cursor) ← directive? (scanner.cursor.skip 1)
  return { (scanner.allowKey false).add token with cursor := cursor }

/-- Adds a block scalar. -/
def addBlock? (style : Style) (scanner : Scanner) : Option Scanner := do
  let scanner ← scanner.dropKey?
  let (text, cursor) ←
    Block.take? (style = .folded) scanner.margin (scanner.cursor.skip 1)
  return { (scanner.allowKey true).add (.scalar style (String.ofList text)) with cursor := cursor }

/-- Adds a quoted scalar. -/
def addQuoted? (quote : Char) (scanner : Scanner) : Option Scanner :=
  scanner.addKeyPart? do
    let (text, cursor) ← Quoted.take? quote scanner.cursor
    return (.scalar .quoted (String.ofList text), cursor)

/-- Adds a plain scalar.  If it ends with a line break a key may follow. -/
def addPlain? (scanner : Scanner) : Option Scanner := do
  let scanner ← scanner.noteKey?
  let (text, broken, cursor) ←
    Plain.take? scanner.inFlow scanner.margin (scanner.cursor.rest.length + 1) [] .empty
      scanner.cursor
  return { (scanner.allowKey broken).add (.scalar .plain (String.ofList text)) with
    cursor := cursor }

/-- Whether a plain scalar can begin at a place. -/
def beginsPlain (flow : Bool) (cursor : Cursor) (c : Char) : Bool :=
  !(isSpacing c || "-?:,[]\x7b\x7d#&*!|>'\"%@`".contains c) ||
    (c = '-' && !(cursor.rest[1]?.any isBlank)) ||
    (!flow && (c = '?' || c = ':') && !cursor.spacedAt 1)

/-- Adds the token that begins with a character. -/
def token? (scanner : Scanner) (c : Char) : Option Scanner :=
  let cursor := scanner.cursor
  let marks := scanner.inFlow || cursor.spacedAt 1
  if cursor.column = 0 && c = '%' then scanner.addDirective?
  else if cursor.atSeparator '-' then scanner.separator? .documentStart
  else if cursor.atSeparator '.' then scanner.separator? .documentEnd
  else if c = '[' then scanner.openFlow? .flowSequence
  else if c = '\x7b' then scanner.openFlow? .flowMapping
  else if c = ']' then scanner.closeFlow? .flowSequenceEnd
  else if c = '\x7d' then scanner.closeFlow? .flowMappingEnd
  else if c = ',' then scanner.flowEntry?
  else if c = '-' && cursor.spacedAt 1 then scanner.blockEntry?
  else if c = '?' && marks then scanner.key?
  else if c = ':' && marks then scanner.value?
  else if c = '*' then
    scanner.addKeyPart? ((name? (cursor.skip 1)).map fun (name, next) => (.aliasOf name, next))
  else if c = '&' then
    scanner.addKeyPart? ((name? (cursor.skip 1)).map fun (name, next) => (.anchor name, next))
  else if c = '!' then scanner.addKeyPart? (tag? scanner.inFlow cursor)
  else if c = '|' && !scanner.inFlow then scanner.addBlock? .literal
  else if c = '>' && !scanner.inFlow then scanner.addBlock? .folded
  else if c = '\'' || c = '"' then scanner.addQuoted? c
  else if beginsPlain scanner.inFlow cursor c then scanner.addPlain?
  else none

/-- Scans up to the end of a text. -/
def scan? : Nat → Scanner → Option (Array Token)
  | 0, _ => none
  | fuel + 1, scanner => do
      let scanner := skipSpacing (scanner.cursor.rest.length + 1) scanner
      let scanner ← scanner.dropStale?
      match scanner.cursor.rest with
      | [] =>
          let scanner ← (scanner.closeBlocks 0).dropKey?
          return scanner.tokens
      | c :: _ =>
          let scanner := scanner.closeBlocks (scanner.cursor.column + 1)
          scan? fuel (← scanner.token? c)

end Scanner

/-- The tokens of a text. -/
def Token.scan? (text : List Char) : Option (List Token) := do
  let text := if text.head? = some '\ufeff' then text.drop 1 else text
  if text.all isAllowed then
    let tokens ← Scanner.scan? (text.length + 1) (.start text)
    return tokens.toList.filter (· != .vacant)
  else none

end Yaml
end Conformance
