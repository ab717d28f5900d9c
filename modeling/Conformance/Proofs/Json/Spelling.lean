import Conformance.Json.Printer
import Conformance.Json.Token

namespace Conformance
namespace Json

/-!
# The tokens of printed JSON

The scanner looks at every character once.  A number or a word is over only when something
else follows it, so behind the text of a tree the scanner either has all tokens of the tree
or is still in the last one.  In printed trees it is a mark or a line break that follows, and
neither goes on with a number or a word.

Texts are read back as they are, whatever characters are in them, and so are the integers of
words.  With a real it is not so simple: the reader rounds more than once, and the number that
it makes of the digits can be a neighbour of the one that was printed.  So what is shown here
is shown of trees whose numbers are read back one by one.
-/

namespace Token

variable {characters first second rest : List Char} {read more : List Token} {c : Char}

/-- Reads some characters. -/
def Scanner.run? (scanner : Scanner) (characters : List Char) : Option Scanner :=
  characters.foldlM Scanner.step? scanner

theorem Scanner.run?_cons (scanner : Scanner) (c : Char) (rest : List Char) :
    scanner.run? (c :: rest) = (scanner.step? c).bind (run? · rest) :=
  rfl

theorem Scanner.run?_append (scanner : Scanner) (first second : List Char) :
    scanner.run? (first ++ second) = (scanner.run? first).bind (run? · second) :=
  List.foldlM_append

/-- A character that goes on neither with a number nor with a word. -/
def StandsApart (c : Char) : Prop :=
  isNumeric c = false ∧ ¬ ('a' ≤ c ∧ c ≤ 'z')

/-- A text that begins with what stands apart. -/
def Separates (characters : List Char) : Prop :=
  ∃ c rest, characters = c :: rest ∧ StandsApart c

/-- A scanner that has all tokens, or has them when the text ends or something that stands
apart follows. -/
structure Scanner.Settles (scanner : Scanner) (tokens : List Token) : Prop where
  finish? : scanner.finish? = some tokens
  step? : ∀ {c : Char}, StandsApart c → scanner.step? c = (idle tokens).step? c

/-- A text spells tokens, of which the last one may still be in progress. -/
def Spells (characters : List Char) (read : List Token) : Prop :=
  ∀ tokens : List Token, ∃ scanner : Scanner,
    (idle tokens).run? characters = some scanner ∧ scanner.Settles (read.reverse ++ tokens)

/-- What has been spelled is what is scanned. -/
theorem Spells.scan? (spells : Spells characters read) : scan? characters = some read := by
  rcases spells [] with ⟨scanner, run, settles⟩
  have scanned : characters.foldlM Scanner.step? (idle []) = some scanner := run
  rw [Token.scan?, scanned]
  change scanner.finish?.bind (fun tokens => some tokens.reverse) = some read
  rw [settles.finish?, Option.bind_some, List.append_nil, List.reverse_reverse]

/-! ## Putting texts together -/

theorem settles_idle (tokens : List Token) : (idle tokens).Settles tokens :=
  ⟨rfl, fun _ => rfl⟩

theorem spells_nil : Spells [] [] := fun tokens => ⟨idle tokens, rfl, settles_idle tokens⟩

/-- A token in progress is finished by what stands apart. -/
theorem Spells.append (spells : Spells first read) (others : Spells second more)
    (separates : Separates second) : Spells (first ++ second) (read ++ more) := by
  intro tokens
  rcases separates with ⟨c, rest, rfl, apart⟩
  rcases spells tokens with ⟨between, run, settles⟩
  rcases others (read.reverse ++ tokens) with ⟨scanner, later, settled⟩
  refine ⟨scanner, ?_, ?_⟩
  · rw [Scanner.run?_append, run, Option.bind_some, Scanner.run?_cons, settles.step? apart]
    exact later
  · rw [List.reverse_append, List.append_assoc]
    exact settled

/-- Some characters that end between tokens. -/
theorem Spells.behind (first : List Char) (read : List Token) (finishes : ∀ tokens : List Token,
      (idle tokens).run? first = some (idle (read.reverse ++ tokens)))
    (spells : Spells second more) : Spells (first ++ second) (read ++ more) := by
  intro tokens
  rcases spells (read.reverse ++ tokens) with ⟨scanner, run, settles⟩
  refine ⟨scanner, ?_, ?_⟩
  · rw [Scanner.run?_append, finishes tokens]
    exact run
  · rw [List.reverse_append, List.append_assoc]
    exact settles

/-- A character that is a token by itself. -/
theorem Spells.mark {token : Token} (marks : ∀ tokens, start? tokens c = some (idle (token :: tokens)))
    (spells : Spells rest more) : Spells (c :: rest) (token :: more) :=
  spells.behind [c] [token] fun tokens => by
    rw [Scanner.run?_cons]
    exact congrArg (Option.bind · _) (marks tokens)

/-- Blank space in front of tokens. -/
theorem Spells.blank (spells : Spells rest more) : Spells (' ' :: rest) more :=
  spells.behind [' '] [] fun _ => rfl

/-- A line break and indentation in front of tokens. -/
theorem Spells.newline (level : Nat) (spells : Spells rest more) :
    Spells (newline level ++ rest) more := by
  refine spells.behind _ [] fun tokens => ?_
  have spaces : ∀ count : Nat,
      (idle tokens).run? (List.replicate count ' ') = some (idle tokens) := by
    intro count
    induction count with
    | zero => rfl
    | succ count inductionHypothesis => exact inductionHypothesis
  exact spaces (2 * level)

/-! ## Texts -/

theorem hexDigit?_hexDigit : ∀ digit < 16, hexDigit? (hexDigit digit) = some digit := by decide

/-- An escape of four digits is read as the control character that it stands for. -/
theorem run?_control (tokens : List Token) (before : List Char) {code : Nat} (control : code < 0x20) :
    (⟨.text before, tokens⟩ : Scanner).run?
        ['\\', 'u', '0', '0', hexDigit (code / 16), hexDigit (code % 16)] =
      some ⟨.text (Char.ofNat code :: before), tokens⟩ := by
  have zeros : (⟨.text before, tokens⟩ : Scanner).run? ['\\', 'u', '0', '0'] =
      some ⟨.unicode before [0, 0], tokens⟩ := rfl
  have high := hexDigit?_hexDigit (code / 16) (by omega)
  have low := hexDigit?_hexDigit (code % 16) (by omega)
  have value : hexValue [0, 0, code / 16, code % 16] = code := by
    simp only [hexValue, List.foldl_cons, List.foldl_nil]
    omega
  have ends : (⟨.unicode before [0, 0], tokens⟩ : Scanner).run?
      [hexDigit (code / 16), hexDigit (code % 16)] = finishUnicode? tokens before code := by
    simp only [Scanner.run?_cons, Scanner.step?, high, low, Option.bind_some, List.cons_append,
      List.nil_append, List.length_cons, List.length_nil, Nat.reduceAdd, Nat.reduceLT, if_true,
      if_false, value]
    exact Option.bind_fun_some _
  rw [show ['\\', 'u', '0', '0', hexDigit (code / 16), hexDigit (code % 16)] =
      ['\\', 'u', '0', '0'] ++ [hexDigit (code / 16), hexDigit (code % 16)] from rfl,
    Scanner.run?_append, zeros, Option.bind_some, ends, finishUnicode?, if_neg (by omega),
    if_neg (by omega)]

/-- A character inside of a text is read as itself. -/
theorem run?_escapeChar (tokens : List Token) (before : List Char) (c : Char) :
    (⟨.text before, tokens⟩ : Scanner).run? (escapeChar c) = some ⟨.text (c :: before), tokens⟩ := by
  unfold escapeChar
  split
  case h_8 quote backslash _ _ _ _ _ =>
    split
    case isTrue control =>
      have read := run?_control tokens before control
      rwa [Char.ofNat_toNat] at read
    case isFalse printable =>
      rw [Scanner.run?_cons]
      simp only [Scanner.step?, if_neg quote, if_neg backslash, if_neg printable]
      rfl
  all_goals rfl

/-- A text is read as itself. -/
theorem run?_quote (tokens : List Token) (text : String) :
    (idle tokens).run? (quote text) = some (idle (.text text :: tokens)) := by
  have inside : ∀ (characters before : List Char),
      (⟨.text before, tokens⟩ : Scanner).run? (characters.flatMap escapeChar ++ ['"']) =
        some (idle (.text (String.ofList (before.reverse ++ characters)) :: tokens)) := by
    intro characters
    induction characters with
    | nil =>
        intro before
        rw [List.append_nil]
        rfl
    | cons c rest inductionHypothesis =>
        intro before
        rw [List.flatMap_cons, List.append_assoc, Scanner.run?_append, run?_escapeChar,
          Option.bind_some, inductionHypothesis, List.reverse_cons, List.append_assoc,
          List.singleton_append]
  have whole := inside text.toList []
  rw [List.reverse_nil, List.nil_append, String.ofList_toList] at whole
  exact whole

theorem Spells.text (text : String) (spells : Spells rest more) :
    Spells (quote text ++ rest) (.text text :: more) :=
  spells.behind _ [.text text] fun tokens => run?_quote tokens text

/-! ## Words and numbers -/

theorem settles_word {letters : List Char} {token : Token} (tokens : List Token)
    (isWord : word? letters.reverse = some token) :
    (⟨.word letters, tokens⟩ : Scanner).Settles (token :: tokens) := by
  constructor
  · simp only [Scanner.finish?, isWord, Option.map_some]
  · intro c apart
    simp only [Scanner.step?, if_neg apart.2, isWord]
    rfl

theorem spells_null : Spells ['n', 'u', 'l', 'l'] [.null] :=
  fun tokens => ⟨_, rfl, settles_word tokens rfl⟩

theorem spells_true : Spells ['t', 'r', 'u', 'e'] [.boolean true] :=
  fun tokens => ⟨_, rfl, settles_word tokens rfl⟩

theorem spells_false : Spells ['f', 'a', 'l', 's', 'e'] [.boolean false] :=
  fun tokens => ⟨_, rfl, settles_word tokens rfl⟩

theorem settles_number {token : Token} (tokens : List Token)
    (isNumber : number? characters.reverse = some token) :
    (⟨.number characters, tokens⟩ : Scanner).Settles (token :: tokens) := by
  constructor
  · simp only [Scanner.finish?, isNumber, Option.map_some]
  · intro c apart
    simp only [Scanner.step?, apart.1, isNumber]
    rfl

theorem isNumeric_of_isDigit (digit : c.isDigit = true) : isNumeric c = true := by
  simp [isNumeric, digit]

theorem takeWhile_isDigit_numeric (characters : List Char) :
    ∀ c ∈ characters.takeWhile Char.isDigit, isNumeric c = true :=
  fun c member => isNumeric_of_isDigit (List.all_eq_true.mp List.all_takeWhile c member)

theorem exponentPart?_numeric {exponent : Bool × List Nat}
    (spelled : exponentPart? characters = some exponent) : ∀ c ∈ characters, isNumeric c = true := by
  unfold exponentPart? at spelled
  split at spelled
  case h_1 negative digits sign =>
    split at spelled
    case isFalse => cases spelled
    case isTrue all =>
      rw [Bool.and_eq_true, List.all_eq_true] at all
      have numeric : ∀ c ∈ digits, isNumeric c = true :=
        fun c member => isNumeric_of_isDigit (all.2 c member)
      split at sign
      case h_1 | h_2 =>
        cases sign
        exact List.forall_mem_cons.mpr ⟨by decide, numeric⟩
      case h_3 =>
        cases sign
        exact numeric

theorem fractionAndExponent?_numeric {parts : Option (List Nat) × Option (Bool × List Nat)}
    (spelled : fractionAndExponent? characters = some parts) :
    ∀ c ∈ characters, isNumeric c = true := by
  have power {letter : Char} {exponent : Bool × List Nat} {rest : List Char}
      (isLetter : (letter = 'e' || letter = 'E') = true)
      (spelled : exponentPart? rest = some exponent) : ∀ c ∈ letter :: rest, isNumeric c = true := by
    refine List.forall_mem_cons.mpr ⟨?_, exponentPart?_numeric spelled⟩
    rw [Bool.or_eq_true, decide_eq_true_eq, decide_eq_true_eq] at isLetter
    rcases isLetter with rfl | rfl <;> decide
  unfold fractionAndExponent? at spelled
  split at spelled
  case h_1 rest =>
    have behind : ∀ c ∈ rest.dropWhile Char.isDigit, isNumeric c = true := by
      simp only at spelled
      split at spelled
      case isTrue => cases spelled
      case isFalse =>
        split at spelled
        case h_1 nothing =>
          rw [nothing]
          exact fun _ => nofun
        case h_2 letter others split =>
          rw [split]
          split at spelled
          case isFalse => cases spelled
          case isTrue isLetter =>
            rcases Option.map_eq_some_iff.mp spelled with ⟨exponent, found, _⟩
            exact power isLetter found
    rw [← List.takeWhile_append_dropWhile (p := Char.isDigit) (l := rest)]
    exact List.forall_mem_cons.mpr
      ⟨by decide, List.forall_mem_append.mpr ⟨takeWhile_isDigit_numeric rest, behind⟩⟩
  case h_2 => exact fun _ => nofun
  case h_3 =>
    split at spelled
    case isFalse => cases spelled
    case isTrue isLetter =>
      rcases Option.map_eq_some_iff.mp spelled with ⟨exponent, found, _⟩
      exact power isLetter found

/-- A literal begins with a digit or a minus, and only numeric characters follow. -/
theorem literal?_numeric {literal : Literal} (spelled : literal? characters = some literal) :
    ∃ c rest, characters = c :: rest ∧ (c.isDigit || c = '-') = true ∧
      ∀ other ∈ rest, isNumeric other = true := by
  unfold literal? at spelled
  split at spelled
  case h_1 negative unsigned sign =>
    simp only at spelled
    split at spelled
    case isTrue => cases spelled
    case isFalse whole =>
      rcases Option.bind_eq_some_iff.mp spelled with ⟨parts, found, _⟩
      have nonempty : unsigned.takeWhile Char.isDigit ≠ [] := by
        intro nothing
        simp [nothing] at whole
      have numeric : ∀ c ∈ unsigned, isNumeric c = true := by
        rw [← List.takeWhile_append_dropWhile (p := Char.isDigit) (l := unsigned)]
        exact List.forall_mem_append.mpr
          ⟨takeWhile_isDigit_numeric unsigned, fractionAndExponent?_numeric found⟩
      split at sign
      case h_1 =>
        cases sign
        exact ⟨'-', _, rfl, by decide, numeric⟩
      case h_2 =>
        cases sign
        cases characters with
        | nil => exact absurd rfl nonempty
        | cons c rest =>
            have digit : c.isDigit = true := by
              refine Decidable.of_not_not fun other => ?_
              exact nonempty (List.takeWhile_cons_of_neg other)
            rw [List.forall_mem_cons] at numeric
            exact ⟨c, rest, rfl, by rw [digit]; rfl, numeric.2⟩

/-- What begins a number is no mark, no blank space and no quote. -/
theorem start?_number (tokens : List Token) (begins : (c.isDigit || c = '-') = true) :
    start? tokens c = some ⟨.number [c], tokens⟩ := by
  unfold start?
  split
  case h_12 => rw [if_pos begins]
  all_goals cases begins

theorem run?_numeric (tokens : List Token) (rest : List Char) :
    ∀ characters : List Char, (∀ c ∈ rest, isNumeric c = true) →
      (⟨.number characters, tokens⟩ : Scanner).run? rest =
        some ⟨.number (rest.reverse ++ characters), tokens⟩ := by
  induction rest with
  | nil => exact fun characters _ => rfl
  | cons c rest inductionHypothesis =>
      intro characters all
      rw [List.forall_mem_cons] at all
      have step : (⟨.number characters, tokens⟩ : Scanner).step? c =
          some ⟨.number (c :: characters), tokens⟩ := by
        simp only [Scanner.step?, all.1, if_true]
      rw [Scanner.run?_cons, step, Option.bind_some, inductionHypothesis (c :: characters) all.2,
        List.reverse_cons, List.append_assoc]
      rfl

/-- A number that is read back from its own text.  All integers of words are, and of the
reals those whose digits are not rounded to a neighbour. -/
def ReadsBack (number : Number) : Prop :=
  (literal? (numberChars number)).bind Literal.wordScaled? = some number

instance (number : Number) : Decidable (ReadsBack number) := inferInstanceAs (Decidable (_ = _))

/-- A number that is read back by itself is read back among other tokens. -/
theorem ReadsBack.spells {number : Number} (readsBack : ReadsBack number) :
    Spells (numberChars number) [.number number] := by
  have isNumber : number? (numberChars number) = some (.number number) := by
    rw [ReadsBack] at readsBack
    rw [number?, readsBack]
    rfl
  rcases Option.bind_eq_some_iff.mp readsBack with ⟨literal, spelled, _⟩
  revert isNumber spelled
  generalize numberChars number = characters
  intro isNumber spelled
  rcases literal?_numeric spelled with ⟨c, rest, rfl, begins, numeric⟩
  intro tokens
  refine ⟨⟨.number (rest.reverse ++ [c]), tokens⟩, ?_, ?_⟩
  · rw [Scanner.run?_cons]
    exact (congrArg (Option.bind · _) (start?_number tokens begins)).trans
      (run?_numeric tokens rest [c] numeric)
  · refine settles_number tokens ?_
    rw [List.reverse_append, List.reverse_reverse, List.reverse_singleton, List.singleton_append]
    exact isNumber

end Token
end Json
end Conformance
