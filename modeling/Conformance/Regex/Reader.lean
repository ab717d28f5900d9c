import Conformance.Regex.Expr
import Conformance.Text.Alphabet

namespace Conformance
namespace Regex

/-!
# Reading patterns

A pattern is read from left to right.  The reader keeps the groups still open,
and for the innermost one its finished branches and the items of the branch in
progress.  Flags in force change in the middle of a group and are restored at
its end, so they are part of the reader too.  A bracketed class is read by a
machine of the same kind.

Reading fails where the pattern is malformed, names an unknown class, nests too
deeply, could match half a character, or would need too large an automaton.
-/

/-- The flags in force. -/
structure Flags where
  caseless : Bool := false
  multiline : Bool := false
  dotAll : Bool := false
  swapGreed : Bool := false
  unicode : Bool := true
  crlf : Bool := false
  verbose : Bool := false

/-- Drops blanks and comments; `inComment` says that a comment is in progress. -/
def dropBlanks : Bool → List Char → List Char
  | _, [] => []
  | true, c :: rest => dropBlanks (c ≠ '\n') rest
  | false, c :: rest =>
      if blankRanges.contains c.toNat then dropBlanks false rest
      else if c = '#' then dropBlanks true rest
      else c :: rest

/-- Drops blanks and comments where they do not count. -/
def Flags.skip (flags : Flags) (input : List Char) : List Char :=
  if flags.verbose then dropBlanks false input else input

/-- A part of a pattern outside brackets that a single look recognizes.  An
`octet` is a code written with two hexadecimal digits. -/
inductive Primitive where
  | literal (c : Char) (octet : Bool)
  | set (set : CharSet)
  | assertion (assertion : Assertion)
  | dot

/-- Whether a character has a meaning in patterns. -/
def isMeta (c : Char) : Bool :=
  "\\.+*?()|[]\x7b\x7d^$#&-~".toList.contains c

/-- Whether a backslash may stand before a character for no other reason than to
take away a meaning. -/
def isEscapable (c : Char) : Bool :=
  isMeta c || (c.toNat < 128 && !c.isAlphanum && c ≠ '<' && c ≠ '>')

/-- The value of a hexadecimal digit. -/
def hexDigit? (c : Char) : Option Nat :=
  if '0' ≤ c ∧ c ≤ '9' then some (c.toNat - '0'.toNat)
  else if 'a' ≤ c ∧ c ≤ 'f' then some (c.toNat - 'a'.toNat + 10)
  else if 'A' ≤ c ∧ c ≤ 'F' then some (c.toNat - 'A'.toNat + 10)
  else none

/-- The character with a code, unless the code is a surrogate or too large. -/
def charOf? (code : Nat) : Option Char :=
  if code.isValidChar then some (Char.ofNat code) else none

/-- Reads that many hexadecimal digits. -/
def readHexDigits? (flags : Flags) : Nat → Nat → List Char → Option (Nat × List Char)
  | 0, value, input => some (value, input)
  | count + 1, value, input =>
      match input with
      | [] => none
      | c :: rest =>
          (hexDigit? c).bind fun digit =>
            readHexDigits? flags count (16 * value + digit) (flags.skip rest)

/-- Splits a text at its first closing brace. -/
def untilBrace? : List Char → Option (List Char × List Char)
  | [] => none
  | '}' :: rest => some ([], rest)
  | c :: rest => (untilBrace? rest).map fun (inside, after) => (c :: inside, after)

/-- The characters that count. -/
def Flags.counted (flags : Flags) (input : List Char) : List Char :=
  if flags.verbose then input.filter fun c => !blankRanges.contains c.toNat else input

/-- Reads a character given by its code, after the letter that says how many
digits it has. -/
def readHex? (flags : Flags) (letter : Char) (input : List Char) :
    Option (Primitive × List Char) :=
  match flags.skip input with
  | '{' :: rest => do
      let (inside, after) ← untilBrace? rest
      let digits := flags.counted inside
      if digits = [] then none
      else
        let values ← digits.mapM hexDigit?
        let c ← charOf? (values.foldl (fun value digit => 16 * value + digit) 0)
        return (.literal c false, flags.skip after)
  | start => do
      let count := if letter = 'x' then 2 else if letter = 'u' then 4 else 8
      let (code, rest) ← readHexDigits? flags count 0 start
      let c ← charOf? code
      return (.literal c (letter = 'x'), rest)

/-- Splits a name at the first place where a text stands. -/
def splitAt? (mark : List Char) : List Char → Option (List Char × List Char)
  | [] => none
  | c :: rest =>
      if mark.isPrefixOf (c :: rest) then some ([], (c :: rest).drop mark.length)
      else (splitAt? mark rest).map fun (before, after) => (c :: before, after)

/-- The set that a property name in braces describes, before negation, and
whether the name negates it. -/
def bracedProperty? (name : List Char) : Option (CharSet × Bool) :=
  match splitAt? ['!', '='] name with
  | some (property, value) =>
      (propertyValue? (String.ofList property) (String.ofList value)).map (·, true)
  | none =>
      match splitAt? [':'] name <|> splitAt? ['='] name with
      | some (property, value) =>
          (propertyValue? (String.ofList property) (String.ofList value)).map (·, false)
      | none => (property? (String.ofList name)).map (·, false)

/-- Folds and negates a set, as the flags and the pattern demand.  Outside
Unicode a set must stay within ASCII, since it would match half a character
otherwise. -/
def finishSet? (flags : Flags) (negated : Bool) (set : CharSet) : Option CharSet :=
  let folded :=
    if !flags.caseless then set
    else if flags.unicode then set.foldCase
    else set.foldAsciiCase
  let final := if negated then folded.complement else folded
  if flags.unicode || final.isAscii then some final else none

/-- Reads a class named by a property, after `\p` or `\P`. -/
def readProperty? (flags : Flags) (negated : Bool) (input : List Char) :
    Option (Primitive × List Char) :=
  if !flags.unicode then none
  else
    match flags.skip input with
    | [] => none
    | '{' :: rest => do
        let (inside, after) ← untilBrace? rest
        let (set, flipped) ← bracedProperty? (flags.counted inside)
        let final ← finishSet? flags (negated != flipped) set
        return (.set final, after)
    | c :: rest => do
        if c = '\\' then none
        else
          let set ← category? (looseName (String.ofList [c]))
          let final ← finishSet? flags negated set
          return (.set final, flags.skip rest)

/-- Reads what may follow `\b`: a special kind of boundary in braces. -/
def readBoundary? (flags : Flags) (input : List Char) : Option (Primitive × List Char) :=
  let plain := some (Primitive.assertion (.wordBoundary flags.unicode), input)
  match input with
  | '{' :: rest =>
      let isNameChar (c : Char) : Bool := c.isAlpha || c = '-'
      match flags.skip rest with
      | [] => none
      | c :: more =>
          if !isNameChar c then plain
          else
            let characters := flags.counted (c :: more)
            let name := characters.takeWhile isNameChar
            match characters.dropWhile isNameChar with
            | '}' :: after =>
                match String.ofList name with
                | "start" => some (.assertion (.wordStart flags.unicode), after)
                | "end" => some (.assertion (.wordEnd flags.unicode), after)
                | "start-half" => some (.assertion (.wordStartHalf flags.unicode), after)
                | "end-half" => some (.assertion (.wordEndHalf flags.unicode), after)
                | _ => none
            | _ => none
  | _ => plain

/-- Reads what follows a backslash. -/
def readEscape? (flags : Flags) (input : List Char) : Option (Primitive × List Char) :=
  match input with
  | [] => none
  | c :: rest =>
      match c with
      | 'x' | 'u' | 'U' => readHex? flags c rest
      | 'p' => readProperty? flags false rest
      | 'P' => readProperty? flags true rest
      | 'd' | 's' | 'w' =>
          (letterClass? flags.unicode c).map fun set => (.set set, rest)
      | 'D' | 'S' | 'W' => do
          let set ← letterClass? flags.unicode c.toLower
          let final ← finishSet? { flags with caseless := false } true set
          return (.set final, rest)
      | 'a' => some (.literal '\x07' false, rest)
      | 'f' => some (.literal '\x0c' false, rest)
      | 't' => some (.literal '\t' false, rest)
      | 'n' => some (.literal '\n' false, rest)
      | 'r' => some (.literal '\r' false, rest)
      | 'v' => some (.literal '\x0b' false, rest)
      | 'A' => some (.assertion .textStart, rest)
      | 'z' => some (.assertion .textEnd, rest)
      | 'b' => readBoundary? flags rest
      | 'B' => some (.assertion (.notWordBoundary flags.unicode), rest)
      | '<' => some (.assertion (.wordStart flags.unicode), rest)
      | '>' => some (.assertion (.wordEnd flags.unicode), rest)
      | _ => if isEscapable c then some (.literal c false, rest) else none

/-! ## Bracketed classes -/

/-- The operations between the operands of a class. -/
inductive SetOperation where
  | intersection
  | difference
  | symmetricDifference

/-- Applies an operation. -/
def SetOperation.apply : SetOperation → CharSet → CharSet → CharSet
  | .intersection => CharSet.intersection
  | .difference => CharSet.difference
  | .symmetricDifference => CharSet.symmetricDifference

/-- A class still open: whether it is negated, the left operand of an operation
waiting for its right one, and the union in progress. -/
structure OpenSet where
  negated : Bool
  waiting : Option (SetOperation × CharSet)
  items : CharSet

/-- The classes still open, the innermost first. -/
abbrev SetReader := List OpenSet

/-- Folds a set where case does not count. -/
def foldOperand (flags : Flags) (set : CharSet) : CharSet :=
  if !flags.caseless then set
  else if flags.unicode then set.foldCase
  else set.foldAsciiCase

/-- The set of a class up to here, the waiting operation applied. -/
def OpenSet.value (flags : Flags) (level : OpenSet) : CharSet :=
  match level.waiting with
  | none => level.items
  | some (operation, left) =>
      operation.apply (foldOperand flags left) (foldOperand flags level.items)

/-- Adds a set to the union in progress. -/
def SetReader.add? (set : CharSet) : SetReader → Option SetReader
  | [] => none
  | level :: rest => some ({ level with items := level.items.union set } :: rest)

/-- Ends an operand and waits for the next. -/
def SetReader.operate? (flags : Flags) (operation : SetOperation) :
    SetReader → Option SetReader
  | [] => none
  | level :: rest => some (⟨level.negated, some (operation, level.value flags), ⟨#[]⟩⟩ :: rest)

/-- Reads hyphens that stand for themselves at the beginning of a class. -/
def leadingHyphens (flags : Flags) : Nat → CharSet → List Char → CharSet × List Char
  | 0, set, input => (set, input)
  | fuel + 1, set, input =>
      match input with
      | '-' :: rest => leadingHyphens flags fuel (set.union (.single '-')) (flags.skip rest)
      | _ => (set, input)

/-- Reads what follows an opening bracket: a negation, hyphens, and a closing
bracket that stands for itself. -/
def openSet? (flags : Flags) (input : List Char) : Option (OpenSet × List Char) :=
  let start := flags.skip input
  let (negated, start) :=
    match start with
    | '^' :: rest => (true, flags.skip rest)
    | _ => (false, start)
  let (items, rest) := leadingHyphens flags (start.length + 1) ⟨#[]⟩ start
  match rest with
  | [] => none
  | c :: after =>
      if c = ']' && items.bounds.isEmpty then
        let after := flags.skip after
        if after = [] then none else some (⟨negated, none, .single ']'⟩, after)
      else some (⟨negated, none, items⟩, rest)

/-- Reads a class such as `[:alpha:]`, after its first bracket. -/
def readAsciiSet? (input : List Char) : Option (CharSet × List Char) :=
  match input with
  | ':' :: rest =>
      let (negated, start) :=
        match rest with
        | '^' :: more => (true, more)
        | _ => (false, rest)
      let name := start.takeWhile (· ≠ ':')
      match start.dropWhile (· ≠ ':') with
      | ':' :: ']' :: after =>
          (asciiClass? (String.ofList name)).map fun set =>
            (if negated then set.complement else set, after)
      | _ => none
  | _ => none

/-- Reads one member of a class. -/
def readMember? (flags : Flags) (input : List Char) : Option (Primitive × List Char) :=
  match input with
  | [] => none
  | '\\' :: rest => readEscape? flags rest
  | c :: rest => some (.literal c false, rest)

/-- The character of a literal that may stand in a class.  Outside Unicode it
must be ASCII. -/
def memberChar? (flags : Flags) : Primitive → Option Char
  | .literal c _ => if flags.unicode || c.toNat < 128 then some c else none
  | _ => none

/-- The set of a member. -/
def memberSet? (flags : Flags) : Primitive → Option CharSet
  | .set set => some set
  | primitive => (memberChar? flags primitive).map .single

/-- Whether a text begins with a hyphen that makes a range. -/
def makesRange (flags : Flags) (input : List Char) : Bool :=
  match input with
  | '-' :: rest =>
      match flags.skip rest with
      | ']' :: _ => false
      | '-' :: _ => false
      | _ => true
  | _ => false

/-- Reads a member of a class, or a range between two. -/
def readRange? (flags : Flags) (input : List Char) : Option (CharSet × List Char) := do
  let (first, rest) ← readMember? flags input
  let rest := flags.skip rest
  if rest = [] then none
  else if makesRange flags rest then
    let (last, after) ← readMember? flags (flags.skip (rest.drop 1))
    let low ← memberChar? flags first
    let high ← memberChar? flags last
    if low ≤ high then return (.between low high, after) else none
  else
    let set ← memberSet? flags first
    return (set, rest)

/-- Reads the rest of a bracketed class, up to its closing bracket.  Every round
reads a character at least, so `fuel` above the length of the text suffices. -/
def readSet? (flags : Flags) : Nat → SetReader → List Char → Option (CharSet × List Char)
  | 0, _, _ => none
  | fuel + 1, levels, input =>
      match flags.skip input with
      | [] => none
      | '[' :: rest =>
          match readAsciiSet? rest with
          | some (set, after) => do
              let set ← finishSet? flags false set
              let levels ← levels.add? set
              readSet? flags fuel levels after
          | none => do
              let (level, after) ← openSet? flags rest
              readSet? flags fuel (level :: levels) after
      | ']' :: rest =>
          match levels with
          | [] => none
          | level :: outer => do
              let set ← finishSet? flags level.negated (level.value flags)
              if outer.isEmpty then return (set, rest)
              else
                let outer ← SetReader.add? set outer
                readSet? flags fuel outer rest
      | '&' :: '&' :: rest => do
          readSet? flags fuel (← levels.operate? flags .intersection) rest
      | '-' :: '-' :: rest => do
          readSet? flags fuel (← levels.operate? flags .difference) rest
      | '~' :: '~' :: rest => do
          readSet? flags fuel (← levels.operate? flags .symmetricDifference) rest
      | start => do
          let (set, after) ← readRange? flags start
          let levels ← levels.add? set
          readSet? flags fuel levels after

/-! ## Groups, branches and repetitions -/

/-- An item of a branch, with the depth of its nesting.  A change of flags is an
item that cannot be repeated. -/
inductive Item where
  | flags
  | expr (expr : Expr) (depth : Nat)

/-- A group still open: its flags to be restored, its finished branches and the
items of the branch in progress, newest first. -/
structure OpenGroup where
  restored : Flags
  branches : List (Expr × Nat)
  items : List Item

/-- The reader outside brackets: flags in force, groups still open with the
innermost first, and the names given to groups. -/
structure Reader where
  flags : Flags
  groups : List OpenGroup
  names : List (List Char)

/-- How deep a pattern may be nested. -/
def nestingLimit : Nat := 250

/-- The expression of a branch, from its items newest first. -/
def branchOf (items : List Item) : Expr × Nat :=
  match items with
  | [] => (.empty, 0)
  | [.flags] => (.empty, 0)
  | [.expr expr depth] => (expr, depth)
  | _ =>
      items.foldl
        (fun (tail, depth) item =>
          match item with
          | .flags => (tail, depth)
          | .expr expr inner => (.sequence expr tail, max depth (inner + 1)))
        (.empty, 1)

/-- The expression of a group, from its branches newest first. -/
def groupOf (group : OpenGroup) : Expr × Nat :=
  let last := branchOf group.items
  match group.branches with
  | [] => last
  | _ =>
      group.branches.foldl
        (fun (tail, depth) (expr, inner) => (.choice expr tail, max depth (inner + 1)))
        (last.1, last.2 + 1)

/-- Adds an item to the branch in progress. -/
def Reader.push? (reader : Reader) (item : Item) : Option Reader :=
  match reader.groups with
  | [] => none
  | group :: outer =>
      some { reader with groups := { group with items := item :: group.items } :: outer }

/-- The expression of a primitive under the flags in force. -/
def primitiveExpr? (flags : Flags) : Primitive → Option Expr
  | .literal c octet =>
      if flags.unicode then
        some (.chars (foldOperand flags (.single c)))
      else if octet && 128 ≤ c.toNat then none
      else some (.chars (if c.toNat < 128 then foldOperand flags (.single c) else .single c))
  | .set set => some (.chars set)
  | .assertion assertion => some (.assert assertion)
  | .dot =>
      if !flags.unicode then none
      else if flags.dotAll then some (.chars ⟨#[(0, CharSet.lastCode)]⟩)
      else
        let breaks : CharSet := if flags.crlf then ⟨#[(10, 10), (13, 13)]⟩ else .single '\n'
        some (.chars breaks.complement)

/-- Reads a letter inside a group of flags. -/
def Flags.set? (flags : Flags) (letter : Char) (value : Bool) : Option Flags :=
  match letter with
  | 'i' => some { flags with caseless := value }
  | 'm' => some { flags with multiline := value }
  | 's' => some { flags with dotAll := value }
  | 'U' => some { flags with swapGreed := value }
  | 'u' => some { flags with unicode := value }
  | 'R' => some { flags with crlf := value }
  | 'x' => some { flags with verbose := value }
  | _ => none

/-- Reads flags up to the colon or parenthesis that ends them.  A letter stands
once at most, a hyphen once and not last.  `seen` holds what was read, newest
first. -/
def readFlags? (flags : Flags) (value : Bool) (seen : List Char) :
    List Char → Option (Flags × Bool × Char × List Char)
  | [] => none
  | c :: rest =>
      if c = ':' || c = ')' then
        if seen.head? = some '-' then none else some (flags, seen.isEmpty, c, rest)
      else if seen.contains c then none
      else if c = '-' then readFlags? flags false (c :: seen) rest
      else (flags.set? c value).bind fun flags => readFlags? flags value (c :: seen) rest

/-- Reads the name of a group, up to the closing bracket. -/
def readName? (input : List Char) : Option (List Char × List Char) :=
  let isFirst (c : Char) : Bool := c = '_' || (Text.isAlphanumeric c && !isNumber c)
  let isNext (c : Char) : Bool :=
    c = '_' || c = '.' || c = '[' || c = ']' || Text.isAlphanumeric c
  let name := input.takeWhile (· ≠ '>')
  match name, input.dropWhile (· ≠ '>') with
  | first :: others, '>' :: after =>
      if isFirst first && others.all isNext then some (name, after) else none
  | _, _ => none
where
  /-- Whether a character is a decimal digit of some script. -/
  isNumber (c : Char) : Bool := digitRanges.contains c.toNat

/-- Opens a group. -/
def Reader.openGroup (reader : Reader) (inside : Flags) : Reader :=
  { reader with flags := inside, groups := ⟨reader.flags, [], []⟩ :: reader.groups }

/-- Whether what follows an opening parenthesis looks around. -/
def looksAround (input : List Char) : Bool :=
  ["?=".toList, "?!".toList, "?<=".toList, "?<!".toList].any fun mark => mark.isPrefixOf input

/-- Reads what follows an opening parenthesis. -/
def Reader.group? (reader : Reader) (input : List Char) : Option (Reader × List Char) :=
  let start := reader.flags.skip input
  if looksAround start then none
  else
    let named (rest : List Char) : Option (Reader × List Char) := do
      let (name, after) ← readName? rest
      if reader.names.contains name then none
      else
        let named := { reader with names := name :: reader.names }
        return (named.openGroup reader.flags, after)
    match start with
    | '?' :: 'P' :: '<' :: rest => named rest
    | '?' :: '<' :: rest => named rest
    | '?' :: rest => do
        let (flags, isEmpty, mark, after) ← readFlags? reader.flags true [] rest
        if mark = ')' then
          if isEmpty then none
          else
            let reader ← { reader with flags }.push? .flags
            return (reader, after)
        else return (reader.openGroup flags, after)
    | _ => some (reader.openGroup reader.flags, start)

/-- Closes the innermost group. -/
def Reader.close? (reader : Reader) : Option Reader :=
  match reader.groups with
  | group :: outer =>
      if outer.isEmpty then none
      else
        let (expr, depth) := groupOf group
        { reader with flags := group.restored, groups := outer }.push? (.expr expr (depth + 1))
  | [] => none

/-- Ends the branch in progress. -/
def Reader.alternate? (reader : Reader) : Option Reader :=
  match reader.groups with
  | group :: outer =>
      let ended := { group with branches := branchOf group.items :: group.branches, items := [] }
      some { reader with groups := ended :: outer }
  | [] => none

/-- Drops the mark after a repetition that changes its greed, which does not
change what matches. -/
def dropGreed : List Char → List Char
  | '?' :: rest => rest
  | input => input

/-- Repeats the last item. -/
def Reader.repeat? (reader : Reader) (least : Nat) (most : Option Nat) : Option Reader :=
  match reader.groups with
  | group :: outer =>
      match group.items with
      | .expr expr depth :: items =>
          let repeated := Item.expr (.repetition expr least most) (depth + 1)
          some { reader with groups := { group with items := repeated :: items } :: outer }
      | _ => none
  | [] => none

/-- The largest count of a repetition. -/
def countLimit : Nat := Nat.pow 2 32 - 1

/-- Reads a count inside braces, with blanks around it.  `none` inside the answer
means that there are no digits. -/
def readCount? (flags : Flags) (input : List Char) : Option (Option Nat × List Char) :=
  let isBlank (c : Char) : Bool := blankRanges.contains c.toNat
  let start := input.dropWhile isBlank
  let digits := start.takeWhile Char.isDigit
  let rest := flags.skip ((start.dropWhile Char.isDigit).dropWhile isBlank)
  if digits = [] then some (none, rest)
  else
    let count := digits.foldl (fun value c => 10 * value + (c.toNat - '0'.toNat)) 0
    if countLimit < count then none else some (some count, rest)

/-- Reads the counts of a repetition, after the opening brace. -/
def readCounts? (flags : Flags) (input : List Char) :
    Option (Nat × Option Nat × List Char) := do
  let (least, rest) ← readCount? flags (flags.skip input)
  let least ← least
  match rest with
  | '}' :: after => return (least, some least, after)
  | ',' :: more =>
      match flags.skip more with
      | '}' :: after => return (least, none, after)
      | start => do
          let (most, rest) ← readCount? flags start
          let most ← most
          match rest with
          | '}' :: after => if least ≤ most then return (least, some most, after) else none
          | _ => none
  | _ => none

/-- Reads one item, or one mark between items. -/
def Reader.step? (reader : Reader) (fuel : Nat) (c : Char) (rest : List Char) :
    Option (Reader × List Char) :=
  let flags := reader.flags
  let primitive (primitive : Primitive) (after : List Char) : Option (Reader × List Char) := do
    let expr ← primitiveExpr? flags primitive
    let reader ← reader.push? (.expr expr 0)
    return (reader, after)
  match c with
  | '(' => reader.group? rest
  | ')' => reader.close?.map (·, rest)
  | '|' => reader.alternate?.map (·, rest)
  | '?' => (reader.repeat? 0 (some 1)).map (·, dropGreed rest)
  | '*' => (reader.repeat? 0 none).map (·, dropGreed rest)
  | '+' => (reader.repeat? 1 none).map (·, dropGreed rest)
  | '{' => do
      let (least, most, after) ← readCounts? flags rest
      let reader ← reader.repeat? least most
      return (reader, dropGreed (flags.skip after))
  | '[' => do
      let (level, after) ← openSet? flags rest
      let (set, after) ← readSet? flags fuel [level] after
      let reader ← reader.push? (.expr (.chars set) 1)
      return (reader, after)
  | '\\' => do
      let (value, after) ← readEscape? flags rest
      primitive value after
  | '.' => primitive .dot rest
  | '^' =>
      let assertion := if flags.multiline then .lineStart flags.crlf else .textStart
      primitive (.assertion assertion) rest
  | '$' =>
      let assertion := if flags.multiline then .lineEnd flags.crlf else .textEnd
      primitive (.assertion assertion) rest
  | _ => primitive (.literal c false) rest

/-- Reads the rest of a pattern.  Every round reads a character at least. -/
def Reader.run? : Nat → Reader → List Char → Option (Expr × Nat)
  | 0, _, _ => none
  | fuel + 1, reader, input =>
      match reader.flags.skip input with
      | [] =>
          match reader.groups with
          | [group] => some (groupOf group)
          | _ => none
      | c :: rest => do
          let (reader, after) ← reader.step? (rest.length + 1) c rest
          reader.run? fuel after

/-- Reads a pattern. -/
def read? (pattern : String) : Option Expr := do
  let input := pattern.toList
  let (expr, depth) ← Reader.run? (input.length + 1) ⟨{}, [⟨{}, [], []⟩], []⟩ input
  if nestingLimit < depth || costLimit < expr.cost then none else some expr

end Regex
end Conformance
