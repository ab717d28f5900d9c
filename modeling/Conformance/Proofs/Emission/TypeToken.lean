import Conformance.Proofs.Emission.TypeExpression
import Conformance.Proofs.Emission.TypeLiteral

namespace Conformance
namespace Structural

/-!
# The tokens of type expressions

A type expression is read in two passes.  The first one divides the text into words,
literals and marks; blank space only ends words.  A scanner looks at every character once.
Inside of a literal it is the reader of literals that says what a character does.

A word is over when something else follows it.  So it is said in front of which texts a text
spells its tokens: some texts do so in front of anything, others only in front of what
stands apart from a word.

What is written for a type spells the tokens of the type, whatever the type is, unless a
carriage return is written.  Only literals can contain one, and then they are none; so a text
with a carriage return has no tokens.
-/

/-- The tokens of type expressions. -/
inductive Token where
  | word (text : String)
  | literal (text : String)
  | mark (character : Char)
deriving DecidableEq, Repr

/-- The token in progress: the letters of a word, newest first, or where the reader is inside of
a literal and the code units so far. -/
inductive Pending where
  | none
  | word (letters : List Char)
  | literal (inside : Inside) (units : List Nat)
deriving DecidableEq, Repr

/-- A scanner: the token in progress and the finished tokens, newest first. -/
structure Scanner where
  pending : Pending
  tokens : List Token
deriving DecidableEq, Repr

/-- The characters that are tokens by themselves. -/
def isMark (c : Char) : Bool :=
  ['|', '{', '}', '[', ']', '<', '>', ',', ':', ';', '.'].contains c

/-- Blank space, the ends of lines included. -/
def isBlank (c : Char) : Bool := [' ', '\n', '\r', '\t'].contains c

namespace Scanner

/-- A scanner between tokens. -/
def idle (tokens : List Token) : Scanner := ⟨.none, tokens⟩

/-- Reads the first character of a token, or blank space. -/
def start? (tokens : List Token) (c : Char) : Option Scanner :=
  if isBlank c then some (idle tokens)
  else if c = '\'' then some ⟨.literal .text [], tokens⟩
  else if Naming.beginsIdentifier c then some ⟨.word [c], tokens⟩
  else if isMark c then some (idle (.mark c :: tokens))
  else none

/-- Ends a word in progress. -/
def settle (scanner : Scanner) : Scanner :=
  match scanner.pending with
  | .word letters => idle (.word (String.ofList letters.reverse) :: scanner.tokens)
  | _ => scanner

/-- Reads one character.  A literal that ends has to denote a text. -/
def step? (scanner : Scanner) (c : Char) : Option Scanner :=
  match scanner.pending with
  | .none => start? scanner.tokens c
  | .word letters =>
      if Naming.continuesIdentifier c then some ⟨.word (c :: letters), scanner.tokens⟩
      else start? scanner.settle.tokens c
  | .literal inside units =>
      match inside.read? c with
      | none => none
      | some .close => (text? units).map fun text => idle (.literal text :: scanner.tokens)
      | some (.go more next) => some ⟨.literal next (units ++ more), scanner.tokens⟩

/-- Reads the rest of a text, at the end of which no literal can be open. -/
def read? (scanner : Scanner) : List Char → Option (List Token)
  | [] =>
      if scanner.settle.pending = .none then some scanner.settle.tokens.reverse else none
  | c :: rest => (scanner.step? c).bind fun next => next.read? rest

/-- What cannot go on with a word ends it. -/
theorem step?_settle (scanner : Scanner) {c : Char} (apart : Naming.continuesIdentifier c = false) :
    scanner.settle.step? c = scanner.step? c := by
  rcases scanner with ⟨pending, tokens⟩
  cases pending with
  | word letters =>
      simp only [step?, apart, Bool.false_eq_true, if_false]
      rfl
  | _ => rfl

theorem settle_settle (scanner : Scanner) : scanner.settle.settle = scanner.settle := by
  rcases scanner with ⟨pending, tokens⟩
  cases pending <;> rfl

/-- From inside of a literal a text is read as the reader of literals says. -/
theorem read?_literal (tokens : List Token) (rest : List Char) :
    ∀ (inside : Inside) (units : List Nat),
      (⟨.literal inside units, tokens⟩ : Scanner).read? rest =
        (literalFrom? inside rest).bind fun (more, behind) =>
          (text? (units ++ more)).bind fun text => (idle (.literal text :: tokens)).read? behind := by
  induction rest with
  | nil => exact fun inside units => rfl
  | cons c rest inductionHypothesis =>
      intro inside units
      rw [read?, step?, literalFrom?]
      cases reads : inside.read? c with
      | none =>
          simp only [reads]
          rfl
      | some reading =>
          cases reading with
          | close => simp only [reads, Option.bind_map, Option.bind_some, List.append_nil]; rfl
          | go more next =>
              simp only [reads, Option.bind_some, Option.bind_map, inductionHypothesis,
                List.append_assoc]
              rfl

end Scanner

/-- The tokens of a text, or none if some part of it is no token. -/
def tokens? (text : String) : Option (List Token) := (Scanner.idle []).read? text.toList

/-! ## Spelling -/

/-- A text that does not go on with a word. -/
def StandsApart (text : List Char) : Prop :=
  ∀ c ∈ text.head?, Naming.continuesIdentifier c = false

/-- A text that begins with what cannot go on with a word. -/
def Separates (text : String) : Prop :=
  ∃ first rest, text.toList = first :: rest ∧ Naming.continuesIdentifier first = false

theorem Separates.standsApart {text : String} (separates : Separates text) (rest : List Char) :
    StandsApart (text.toList ++ rest) := by
  rcases separates with ⟨first, others, shape, apart⟩
  rw [shape]
  rintro _ ⟨⟩
  exact apart

/-- A text spells tokens in front of what stands apart, unless a carriage return is in it. -/
def Spells (text : String) (read : List Token) : Prop :=
  ∀ (tokens : List Token) (rest : List Char), StandsApart rest →
    (Scanner.idle tokens).read? (text.toList ++ rest) =
      if '\r' ∈ text.toList then none else (Scanner.idle (read.reverse ++ tokens)).read? rest

/-- A text spells tokens and has finished them, whatever follows. -/
def Finishes (text : String) (read : List Token) : Prop :=
  ∀ (tokens : List Token) (rest : List Char),
    (Scanner.idle tokens).read? (text.toList ++ rest) =
      if '\r' ∈ text.toList then none else (Scanner.idle (read.reverse ++ tokens)).read? rest

section

variable {first second : String} {read more : List Token}

theorem Finishes.spells (finishes : Finishes first read) : Spells first read :=
  fun tokens rest _ => finishes tokens rest

theorem Finishes.empty : Finishes "" [] := fun _ _ => rfl

/-- What is read of two texts from what is read of each, in front of the same rest. -/
theorem read?_append {tokens : List Token} {rest : List Char}
    (here : (Scanner.idle tokens).read? (first.toList ++ (second.toList ++ rest)) =
      if '\r' ∈ first.toList then none
      else (Scanner.idle (read.reverse ++ tokens)).read? (second.toList ++ rest))
    (there : (Scanner.idle (read.reverse ++ tokens)).read? (second.toList ++ rest) =
      if '\r' ∈ second.toList then none
      else (Scanner.idle (more.reverse ++ (read.reverse ++ tokens))).read? rest) :
    (Scanner.idle tokens).read? ((first ++ second).toList ++ rest) =
      if '\r' ∈ (first ++ second).toList then none
      else (Scanner.idle ((read ++ more).reverse ++ tokens)).read? rest := by
  rw [String.toList_append, List.append_assoc, here, there, List.reverse_append, List.append_assoc]
  simp only [List.mem_append]
  by_cases inFirst : '\r' ∈ first.toList
  · simp only [inFirst, true_or, if_true]
  · simp only [inFirst, false_or, if_false]

/-- Behind finished tokens any others can be spelled. -/
theorem Finishes.append_spells (finishes : Finishes first read) (spells : Spells second more) :
    Spells (first ++ second) (read ++ more) :=
  fun tokens rest apart => read?_append (finishes tokens _) (spells _ rest apart)

theorem Finishes.append (finishes : Finishes first read) (others : Finishes second more) :
    Finishes (first ++ second) (read ++ more) :=
  fun tokens rest => read?_append (finishes tokens _) (others _ rest)

/-- A word that is still in progress is finished by what stands apart. -/
theorem Spells.append (spells : Spells first read) (others : Finishes second more)
    (apart : Separates second) : Finishes (first ++ second) (read ++ more) :=
  fun tokens rest => read?_append (spells tokens _ (apart.standsApart rest)) (others _ rest)

/-- Texts between which something stands apart. -/
theorem Spells.intercalate {Part : Type} {separator : String} {mark : Token}
    (separates : Finishes separator [mark]) (apart : Separates separator)
    {text : Part → String} {spelled : Part → List Token} {parts : List Part}
    (each : ∀ part ∈ parts, Spells (text part) (spelled part)) :
    Spells (separator.intercalate (parts.map text)) ([mark].intercalate (parts.map spelled)) := by
  induction parts with
  | nil => exact Finishes.empty.spells
  | cons part rest inductionHypothesis =>
      have here := each part List.mem_cons_self
      have later := inductionHypothesis fun other member => each other (List.mem_cons_of_mem part member)
      cases rest with
      | nil =>
          simp only [List.map_cons, List.map_nil, String.intercalate_singleton,
            List.intercalate_singleton]
          exact here
      | cons next others =>
          simp only [List.map_cons, String.intercalate_cons_cons, List.intercalate_cons_cons]
          exact (here.append separates apart).append_spells later

/-- What has been spelled is what is read. -/
theorem Spells.tokens? (spells : Spells first read) :
    tokens? first = if '\r' ∈ first.toList then none else some read := by
  have whole := spells [] [] (fun _ none => nomatch none)
  have ended : (Scanner.idle (read.reverse ++ [])).read? [] = some read := by
    rw [List.append_nil]
    exact congrArg some (List.reverse_reverse read)
  rw [List.append_nil, ended] at whole
  exact whole

end

/-! ## Words and literals -/

/-- A word in progress is over in front of what stands apart. -/
theorem read?_settle (scanner : Scanner) {rest : List Char} (apart : StandsApart rest) :
    scanner.settle.read? rest = scanner.read? rest := by
  cases rest with
  | nil => rw [Scanner.read?, Scanner.read?, Scanner.settle_settle]
  | cons c rest => rw [Scanner.read?, Scanner.read?, Scanner.step?_settle scanner (apart c rfl)]

/-- Characters that go on with a word. -/
theorem read?_letters (tokens : List Token) (rest : List Char) {letters : List Char}
    (all : letters.all Naming.continuesIdentifier = true) : ∀ before : List Char,
    (⟨.word before, tokens⟩ : Scanner).read? (letters ++ rest) =
      (⟨.word (letters.reverse ++ before), tokens⟩ : Scanner).read? rest := by
  induction letters with
  | nil => exact fun _ => rfl
  | cons c letters inductionHypothesis =>
      intro before
      rw [List.all_cons, Bool.and_eq_true] at all
      have step : (⟨.word before, tokens⟩ : Scanner).step? c = some ⟨.word (c :: before), tokens⟩ := by
        simp only [Scanner.step?, all.1, if_true]
      rw [List.cons_append, Scanner.read?, step, Option.bind_some, inductionHypothesis all.2,
        List.reverse_cons, List.append_assoc]
      rfl

/-- What begins a word is neither blank nor a quote. -/
theorem start?_letter (tokens : List Token) {c : Char} (begins : Naming.beginsIdentifier c = true) :
    Scanner.start? tokens c = some ⟨.word [c], tokens⟩ := by
  have differs : ∀ other : Char, Naming.beginsIdentifier other = false → c ≠ other := by
    rintro other apart rfl
    rw [begins] at apart
    cases apart
  have dark : isBlank c = false := by
    simp only [isBlank, List.contains_eq_mem, List.mem_cons, List.not_mem_nil, or_false,
      decide_eq_false_iff_not, not_or]
    exact ⟨differs ' ' (by decide), differs '\n' (by decide), differs '\r' (by decide),
      differs '\t' (by decide)⟩
  rw [Scanner.start?, dark, if_neg (differs '\'' (by decide)), if_pos begins]
  rfl

/-- A plain identifier is a word. -/
theorem spells_word {name : String} (plain : Naming.isPlainIdentifier name = true) :
    Spells name [.word name] := by
  intro tokens rest apart
  rw [Naming.isPlainIdentifier] at plain
  cases letters : name.toList with
  | nil =>
      rw [letters] at plain
      cases plain
  | cons c others =>
      rw [letters, Bool.and_eq_true] at plain
      have noReturn : '\r' ∉ c :: others := by
        intro member
        rcases List.mem_cons.mp member with rfl | inside
        · exact absurd plain.1 (by decide)
        · exact absurd (List.all_eq_true.mp plain.2 _ inside) (by decide)
      have whole : String.ofList (others.reverse ++ [c]).reverse = name := by
        rw [List.reverse_append, List.reverse_reverse, List.reverse_singleton,
          List.singleton_append, ← letters, String.ofList_toList]
      have begun : (Scanner.idle tokens).step? c = some ⟨.word [c], tokens⟩ :=
        start?_letter tokens plain.1
      rw [List.cons_append, Scanner.read?, begun, Option.bind_some, read?_letters tokens rest plain.2,
        ← read?_settle _ apart, if_neg noReturn]
      simp only [Scanner.settle, whole]
      rfl

/-- A quoted text is a literal, as the reader of literals reads it. -/
theorem finishes_quote (text : String) : Finishes (quote text) [.literal text] := by
  intro tokens rest
  have literal : literal? ((quote text).toList ++ rest) = _ := literal?_quote text
  have opened : ∃ letters, (quote text).toList = '\'' :: letters := ⟨_, String.toList_ofList⟩
  rcases opened with ⟨letters, shape⟩
  have begun : (Scanner.idle tokens).step? '\'' = some ⟨.literal .text [], tokens⟩ := rfl
  rw [shape, List.cons_append] at literal ⊢
  rw [← shape, Scanner.read?, begun, Option.bind_some, Scanner.read?_literal]
  rw [literal?] at literal
  rw [literal]
  simp only [return_mem_quote_iff]
  split
  case isTrue => rfl
  case isFalse =>
    simp only [Option.bind_some, List.nil_append, text?_utf16]
    rfl

/-- The token of a property key. -/
def keyToken (name : String) : Token :=
  if Naming.isPlainIdentifier name then .word name else .literal name

theorem spells_key (name : String) : Spells (key name) [keyToken name] := by
  rw [key, keyToken]
  by_cases plain : Naming.isPlainIdentifier name = true
  · rw [if_pos plain, if_pos plain]
    exact spells_word plain
  · rw [if_neg plain, if_neg plain]
    exact (finishes_quote name).spells

/-- Indentation is blank. -/
theorem finishes_indent (level : Nat) : Finishes (indent level) [] := by
  intro tokens rest
  rw [indent, String.toList_ofList, if_neg (fun member => absurd (List.eq_of_mem_replicate member)
    (by decide))]
  induction 2 * level with
  | zero => rfl
  | succ count inductionHypothesis =>
      rw [List.replicate_succ, List.cons_append, Scanner.read?]
      exact inductionHypothesis

/-! ## Types -/

mutual

/-- The tokens of a constituent. -/
def Constituent.tokens : Constituent → List Token
  | .keyword keyword => [.word keyword.name]
  | .literal text => [.literal text]
  | .object properties => [.mark '{'] ++ propertyTokens properties ++ [.mark '}']
  | .array item =>
      [.word "Array", .mark '<'] ++ [.mark '|'].intercalate (tokensEach item) ++ [.mark '>']
  | .tuple items => [.mark '['] ++ [.mark ','].intercalate (tokensTypes items) ++ [.mark ']']
  | .openTuple items rest =>
      [.mark '['] ++ [.mark ','].intercalate (tokensTypes items) ++
        [.mark ',', .mark '.', .mark '.', .mark '.', .word "Array", .mark '<'] ++
        [.mark '|'].intercalate (tokensEach rest) ++ [.mark '>', .mark ']']
  | .record value =>
      [.word "Record", .mark '<', .word "string", .mark ','] ++
        [.mark '|'].intercalate (tokensEach value) ++ [.mark '>']

/-- The tokens of some constituents. -/
def tokensEach : List Constituent → List (List Token)
  | [] => []
  | constituent :: rest => constituent.tokens :: tokensEach rest

/-- The tokens of the properties of an object. -/
def propertyTokens : List (String × List Constituent) → List Token
  | [] => []
  | (name, type) :: rest =>
      [keyToken name, .mark ':'] ++ [.mark '|'].intercalate (tokensEach type) ++ [.mark ';'] ++
        propertyTokens rest

/-- The tokens of some types. -/
def tokensTypes : List (List Constituent) → List (List Token)
  | [] => []
  | type :: rest => [.mark '|'].intercalate (tokensEach type) :: tokensTypes rest

end

/-- The tokens of a type. -/
def TypeExpr.tokens (type : TypeExpr) : List Token := [.mark '|'].intercalate (tokensEach type)

theorem tokensEach_eq_map (constituents : List Constituent) :
    tokensEach constituents = constituents.map Constituent.tokens := by
  induction constituents with
  | nil => rfl
  | cons constituent rest inductionHypothesis =>
      rw [tokensEach, inductionHypothesis, List.map_cons]

theorem tokensTypes_eq_map (types : List TypeExpr) :
    tokensTypes types = types.map TypeExpr.tokens := by
  induction types with
  | nil => rfl
  | cons type rest inductionHypothesis =>
      rw [tokensTypes, inductionHypothesis, List.map_cons, TypeExpr.tokens]

/-! ### The tokens of a whole from those of its parts -/

section

variable (type : TypeExpr) (types : List TypeExpr)

theorem propertyTokens_cons (name : String) (rest : List (String × TypeExpr)) :
    propertyTokens ((name, type) :: rest) =
      [keyToken name, .mark ':'] ++ TypeExpr.tokens type ++ [.mark ';'] ++ propertyTokens rest :=
  rfl

namespace Constituent

theorem tokens_array :
    (array type).tokens = [.word "Array", .mark '<'] ++ TypeExpr.tokens type ++ [.mark '>'] :=
  rfl

theorem tokens_tuple :
    (tuple types).tokens =
      [.mark '['] ++ [.mark ','].intercalate (types.map TypeExpr.tokens) ++ [.mark ']'] := by
  rw [← tokensTypes_eq_map]
  rfl

theorem tokens_openTuple :
    (openTuple types type).tokens =
      [.mark '['] ++ [.mark ','].intercalate (types.map TypeExpr.tokens) ++
        [.mark ',', .mark '.', .mark '.', .mark '.', .word "Array", .mark '<'] ++
        TypeExpr.tokens type ++ [.mark '>', .mark ']'] := by
  rw [← tokensTypes_eq_map]
  rfl

theorem tokens_record :
    (record type).tokens =
      [.word "Record", .mark '<', .word "string", .mark ','] ++ TypeExpr.tokens type ++ [.mark '>'] :=
  rfl

end Constituent
end

/-! ## What is written spells the tokens -/

/-- A type spells its tokens if its constituents do. -/
theorem TypeExpr.spells_of_each {level : Nat} {type : TypeExpr}
    (each : ∀ constituent ∈ type, Spells (constituent.render level) constituent.tokens) :
    Spells (TypeExpr.render level type) (TypeExpr.tokens type) := by
  rw [TypeExpr.render, TypeExpr.tokens, renderEach_eq_map, tokensEach_eq_map]
  exact .intercalate (fun _ _ => rfl) ⟨' ', _, rfl, rfl⟩ each

/-- The types of positions spell their tokens if their constituents do. -/
theorem spells_types {level : Nat} {types : List TypeExpr}
    (each : ∀ type ∈ types, ∀ constituent ∈ type,
      Spells (constituent.render level) constituent.tokens) :
    Spells (", ".intercalate (types.map (TypeExpr.render level)))
      ([.mark ','].intercalate (types.map TypeExpr.tokens)) :=
  .intercalate (fun _ _ => rfl) ⟨',', _, rfl, rfl⟩
    fun type member => TypeExpr.spells_of_each (each type member)

/-- The lines of properties finish their tokens if the constituents of their types spell
theirs. -/
theorem finishes_properties {level : Nat} {properties : List (String × TypeExpr)}
    (each : ∀ type ∈ properties.map Prod.snd, ∀ constituent ∈ type,
      Spells (constituent.render level) constituent.tokens) :
    Finishes (renderProperties level properties) (propertyTokens properties) := by
  induction properties with
  | nil => exact .empty
  | cons property rest inductionHypothesis =>
      rcases property with ⟨name, type⟩
      rw [List.map_cons, List.forall_mem_cons] at each
      have colon : Finishes ": " [.mark ':'] := fun _ _ => rfl
      have ended : Finishes ";\n" [.mark ';'] := fun _ _ => rfl
      have named : Finishes (indent level ++ key name ++ ": ") [keyToken name, .mark ':'] :=
        ((finishes_indent level).append_spells (spells_key name)).append colon ⟨':', _, rfl, rfl⟩
      have line := (named.append_spells (TypeExpr.spells_of_each each.1)).append ended
        ⟨';', _, rfl, rfl⟩
      rw [renderProperties_cons, propertyTokens_cons]
      exact line.append (inductionHypothesis each.2)

theorem Keyword.name_plain (keyword : Keyword) :
    Naming.isPlainIdentifier keyword.name = true := by
  cases keyword <;> decide

/-- The text of a constituent spells its tokens. -/
theorem Constituent.spells (constituent : Constituent) : ∀ level : Nat,
    Spells (constituent.render level) constituent.tokens := by
  induction constituent using Constituent.induction with
  | whole constituent inductionHypothesis =>
      intro level
      have each : ∀ (inner : Nat), ∀ type ∈ constituent.parts, ∀ part ∈ type,
          Spells (part.render inner) part.tokens :=
        fun inner type listed part member => inductionHypothesis type listed part member inner
      cases constituent with
      | keyword keyword => exact spells_word keyword.name_plain
      | literal text => exact (finishes_quote text).spells
      | object properties =>
          cases properties with
          | nil =>
              have whole : Finishes "\x7b\x7d" [.mark '{', .mark '}'] := fun _ _ => rfl
              exact whole.spells
          | cons property rest =>
              have opened : Finishes "\x7b\n" [.mark '{'] := fun _ _ => rfl
              have closed : Finishes "\x7d" [.mark '}'] := fun _ _ => rfl
              have lines := opened.append (finishes_properties (each (level + 1)))
              have whole := (lines.append (finishes_indent level)).append closed
              rw [List.append_nil] at whole
              exact whole.spells
      | array item =>
          have opened : Finishes "Array<" [.word "Array", .mark '<'] := fun _ _ => rfl
          have closed : Finishes ">" [.mark '>'] := fun _ _ => rfl
          have inside := TypeExpr.spells_of_each (each level item List.mem_cons_self)
          rw [render_array, tokens_array]
          exact ((opened.append_spells inside).append closed ⟨'>', _, rfl, rfl⟩).spells
      | tuple items =>
          have opened : Finishes "[" [.mark '['] := fun _ _ => rfl
          have closed : Finishes "]" [.mark ']'] := fun _ _ => rfl
          have inside := spells_types (each level)
          rw [render_tuple, tokens_tuple]
          exact ((opened.append_spells inside).append closed ⟨']', _, rfl, rfl⟩).spells
      | openTuple items rest =>
          have opened : Finishes "[" [.mark '['] := fun _ _ => rfl
          have between : Finishes ", ...Array<"
              [.mark ',', .mark '.', .mark '.', .mark '.', .word "Array", .mark '<'] := fun _ _ => rfl
          have closed : Finishes ">]" [.mark '>', .mark ']'] := fun _ _ => rfl
          have first := spells_types fun type listed =>
            each level type (List.mem_append_left [rest] listed)
          have last := TypeExpr.spells_of_each
            (each level rest (List.mem_append_right items List.mem_cons_self))
          have front := (opened.append_spells first).append between ⟨',', _, rfl, rfl⟩
          rw [render_openTuple, tokens_openTuple]
          exact ((front.append_spells last).append closed ⟨'>', _, rfl, rfl⟩).spells
      | record value =>
          have opened : Finishes "Record<string, "
              [.word "Record", .mark '<', .word "string", .mark ','] := fun _ _ => rfl
          have closed : Finishes ">" [.mark '>'] := fun _ _ => rfl
          have inside := TypeExpr.spells_of_each (each level value List.mem_cons_self)
          rw [render_record, tokens_record]
          exact ((opened.append_spells inside).append closed ⟨'>', _, rfl, rfl⟩).spells

/-- The text of a type is read as its tokens, unless a carriage return is written. -/
theorem TypeExpr.tokens?_render (level : Nat) (type : TypeExpr) :
    tokens? (TypeExpr.render level type) =
      if '\r' ∈ (TypeExpr.render level type).toList then none else some (TypeExpr.tokens type) :=
  (TypeExpr.spells_of_each fun constituent _ => constituent.spells level).tokens?

end Structural
end Conformance
