import Conformance.Emission.Nominal
import Conformance.Proofs.Text.Literal
import Conformance.Value

namespace Conformance
namespace Nominal

/-!
# Declarations as they are written

A registered declaration is a text of a few lines.  This module says which kinds of lines there are
and how they make up the declaration of a struct, an enum or another name for a type, and it reads
them back.  Nothing here looks at how the emitter puts its texts together.

A declaration is read in two passes.  The first one takes the text apart into lines and recognizes
each by what it begins and ends with.  The second one goes over the lines; attributes belong to the
field or the variant that comes next.

Declared names stand in the text as they are given.  A name with the end of a line in it, or with the
mark that ends the name on its line, makes a text that says something else.  So what is written is
read again if the names on every line are legible there.
-/

/-! ## Parts of a line -/

/-- What stands behind a beginning. -/
def behind? : List Char → List Char → Option (List Char)
  | [], line => some line
  | c :: front, d :: line => if c = d then behind? front line else none
  | _ :: _, [] => none

/-- What stands between a beginning and an end. -/
def between? (front back : String) (line : List Char) : Option (List Char) :=
  (behind? back.toList.reverse line.reverse).bind fun inner =>
    behind? front.toList inner.reverse

/-- What stands in front of the first mark and behind it. -/
def splitAt? (mark : Char) : List Char → Option (List Char × List Char)
  | [] => none
  | c :: rest =>
      if c = mark then some ([], rest) else (splitAt? mark rest).map (Prod.map (c :: ·) id)

/-- The lines of a text, the first of which is begun. -/
def linesFrom (begun : List Char) : List Char → List (List Char)
  | [] => if begun.isEmpty then [] else [begun.reverse]
  | c :: rest => if c = '\n' then begun.reverse :: linesFrom [] rest else linesFrom (c :: begun) rest

section

variable {front back : String} {line rest first : List Char}

theorem behind?_append (front rest : List Char) : behind? front (front ++ rest) = some rest := by
  induction front with
  | nil => rfl
  | cons c front inductionHypothesis =>
      rw [List.cons_append, behind?, if_pos rfl, inductionHypothesis]

theorem between?_back (front back : String) (line : List Char) :
    between? front back (line ++ back.toList) = behind? front.toList line := by
  rw [between?, List.reverse_append, behind?_append, Option.bind_some, List.reverse_reverse]

theorem between?_append (front back : String) (line : List Char) :
    between? front back (front.toList ++ line ++ back.toList) = some line := by
  rw [between?_back, behind?_append]

theorem splitAt?_append {mark : Char} (absent : mark ∉ first) :
    splitAt? mark (first ++ mark :: rest) = some (first, rest) := by
  induction first with
  | nil => rw [List.nil_append, splitAt?, if_pos rfl]
  | cons c first inductionHypothesis =>
      rw [List.mem_cons, not_or] at absent
      rw [List.cons_append, splitAt?, if_neg (Ne.symm absent.1), inductionHypothesis absent.2]
      rfl

theorem linesFrom_line (whole : '\n' ∉ line) : ∀ begun : List Char,
    linesFrom begun (line ++ '\n' :: rest) = (begun.reverse ++ line) :: linesFrom [] rest := by
  induction line with
  | nil =>
      intro begun
      rw [List.nil_append, linesFrom, if_pos rfl, List.append_nil]
  | cons c line inductionHypothesis =>
      intro begun
      rw [List.mem_cons, not_or] at whole
      rw [List.cons_append, linesFrom, if_neg (Ne.symm whole.1), inductionHypothesis whole.2,
        List.reverse_cons, List.append_assoc]
      rfl

/-- A word does not begin in the way of what has a blank in it, say. -/
theorem behind?_eq_none {c mark : Char} {front : List Char} (listed : c ∈ front)
    (noMark : mark ∉ front) : ∀ {word : List Char}, c ∉ word →
      behind? front (word ++ mark :: rest) = none := by
  induction front with
  | nil => cases listed
  | cons d front inductionHypothesis =>
      intro word absent
      rw [List.mem_cons, not_or] at noMark
      cases word with
      | nil => rw [List.nil_append, behind?, if_neg (Ne.symm noMark.1)]
      | cons e word =>
          rw [List.mem_cons, not_or] at absent
          rw [List.cons_append, behind?]
          split
          case isTrue same =>
            have later : c ∈ front := (List.mem_cons.mp listed).resolve_left (same ▸ absent.1)
            exact inductionHypothesis later noMark.2 absent.2
          case isFalse => rfl

/-- A line that ends in another way has nothing in between. -/
theorem between?_eq_none {tail : String}
    (apart : ∀ rest, behind? back.toList.reverse (tail.toList.reverse ++ rest) = none)
    (line : List Char) : between? front back (line ++ tail.toList) = none := by
  rw [between?, List.reverse_append, apart, Option.bind_none]

end

/-! ## Words -/

/-- The characters that end a word. -/
def isDelimiter (c : Char) : Bool := [' ', '\n', '<', '>', '(', ')', ','].contains c

/-- A name that is a word. -/
def IsWord (name : String) : Prop := ∀ c ∈ name.toList, isDelimiter c = false

instance (name : String) : Decidable (IsWord name) :=
  decidable_of_iff (name.toList.all (!isDelimiter ·) = true) (by simp [IsWord])

theorem IsWord.not_mem {name : String} (word : IsWord name) {c : Char} (ends : isDelimiter c = true) :
    c ∉ name.toList := by
  intro member
  rw [word c member] at ends
  cases ends

/-! ## Lines -/

/-- The traits that a declaration derives. -/
def derivedTraits : String := "Debug, Clone, PartialEq, serde::Serialize, serde::Deserialize"

theorem newline_not_mem_derivedTraits : '\n' ∉ derivedTraits.toList := by decide +kernel

/-- The condition under which a field is left out. -/
def absentTest : String := "\"Option::is_none\""

theorem newline_not_mem_absentTest : '\n' ∉ absentTest.toList := by decide +kernel

/-- The lines that declarations are made of.  Literals are kept as they are written. -/
inductive Line where
  | derives (traits : String)
  | tag (literal : String)
  | unit (name : String)
  | struct (name : String)
  | enum (name : String)
  | synonym (name target : String)
  | rename (literal : String)
  | skip (test : String)
  | field (identifier type : String)
  | variant (name payload : String)
  | close
deriving DecidableEq, Repr

namespace Line

/-- The text of a line. -/
def text : Line → String
  | .derives traits => "#[derive(" ++ traits ++ ")]"
  | .tag literal => "#[serde(tag = " ++ literal ++ ")]"
  | .unit name => "pub struct " ++ name ++ " \x7b\x7d"
  | .struct name => "pub struct " ++ name ++ " \x7b"
  | .enum name => "pub enum " ++ name ++ " \x7b"
  | .synonym name target => "pub type " ++ name ++ " = " ++ target ++ ";"
  | .rename literal => "    #[serde(rename = " ++ literal ++ ")]"
  | .skip test => "    #[serde(skip_serializing_if = " ++ test ++ ")]"
  | .field identifier type => "    pub " ++ identifier ++ ": " ++ type ++ ","
  | .variant name payload => "    " ++ name ++ "(" ++ payload ++ "),"
  | .close => "\x7d"

/-- The text of some lines, each of which ends. -/
def join (lines : List Line) : String := String.join (lines.map fun line => line.text ++ "\n")

theorem join_cons (line : Line) (lines : List Line) :
    join (line :: lines) = line.text ++ "\n" ++ join lines :=
  String.join_cons

theorem join_singleton (line : Line) : join [line] = line.text ++ "\n" := by
  rw [join_cons]
  exact String.append_empty

theorem join_append (first second : List Line) : join (first ++ second) = join first ++ join second := by
  rw [join, List.map_append, String.join_append]
  rfl

theorem join_flatMap {Part : Type} (linesOf : Part → List Line) (parts : List Part) :
    join (parts.flatMap linesOf) = String.join (parts.map fun part => join (linesOf part)) := by
  induction parts with
  | nil => rfl
  | cons part parts inductionHypothesis =>
      rw [List.flatMap_cons, join_append, inductionHypothesis, List.map_cons, String.join_cons]

/-! ### Reading a line -/

/-- Reads a variant with what it holds. -/
def variant? (line : List Char) : Option Line :=
  ((between? "" ")," line).bind (splitAt? '(')).map fun (name, payload) =>
    .variant (String.ofList name) (String.ofList payload)

/-- Reads a field with its type. -/
def field? (line : List Char) : Option Line :=
  ((between? "pub " "," line).bind (splitAt? ':')).bind fun (identifier, type) =>
    (behind? " ".toList type).map fun type =>
      .field (String.ofList identifier) (String.ofList type)

/-- Reads another name for a type. -/
def synonym? (line : List Char) : Option Line :=
  ((between? "pub type " ";" line).bind (splitAt? ' ')).bind fun (name, target) =>
    (behind? "= ".toList target).map fun target =>
      .synonym (String.ofList name) (String.ofList target)

/-- Reads a line inside of a declaration, behind the blanks in front. -/
def inner? (line : List Char) : Option Line :=
  ((between? "#[serde(rename = " ")]" line).map (.rename <| String.ofList ·)).or <|
  ((between? "#[serde(skip_serializing_if = " ")]" line).map (.skip <| String.ofList ·)).or <|
  (field? line).or (variant? line)

/-- Reads a line that no blanks stand in front of. -/
def outer? (line : List Char) : Option Line :=
  if line = ['\x7d'] then some .close
  else
    ((between? "#[derive(" ")]" line).map (.derives <| String.ofList ·)).or <|
    ((between? "#[serde(tag = " ")]" line).map (.tag <| String.ofList ·)).or <|
    ((between? "pub struct " " \x7b\x7d" line).map (.unit <| String.ofList ·)).or <|
    ((between? "pub struct " " \x7b" line).map (.struct <| String.ofList ·)).or <|
    ((between? "pub enum " " \x7b" line).map (.enum <| String.ofList ·)).or (synonym? line)

/-- Reads a line. -/
def read? (line : List Char) : Option Line :=
  match behind? "    ".toList line with
  | some inner => inner? inner
  | none => outer? line

/-- The names on a line are legible: none goes on to the next line, or contains the mark that ends
it. -/
def Legible : Line → Prop
  | .derives text | .tag text | .unit text | .struct text | .enum text | .rename text
  | .skip text => '\n' ∉ text.toList
  | .synonym name target => '\n' ∉ name.toList ∧ '\n' ∉ target.toList ∧ ' ' ∉ name.toList
  | .field identifier type =>
      '\n' ∉ identifier.toList ∧ '\n' ∉ type.toList ∧ ':' ∉ identifier.toList
  | .variant name payload =>
      '\n' ∉ name.toList ∧ '\n' ∉ payload.toList ∧ ' ' ∉ name.toList ∧ '(' ∉ name.toList
  | .close => True

/-- A legible line is one line. -/
theorem Legible.whole {line : Line} (legible : line.Legible) : '\n' ∉ line.text.toList := by
  unfold text
  cases line with
  | close => simp
  | derives inside | tag inside | unit inside | struct inside | enum inside | rename inside
  | skip inside =>
      have kept : '\n' ∉ inside.toList := legible
      simp [kept]
  | synonym name target => simp [legible.1, legible.2.1]
  | field identifier type => simp [legible.1, legible.2.1]
  | variant name payload => simp [legible.1, legible.2.1]

/-! ### A line is read as what it says -/

section

variable {line inner : List Char}

theorem read?_of_blank (blank : line = "    ".toList ++ inner) : read? line = inner? inner := by
  rw [blank, read?, behind?_append]

theorem read?_of_outer (outer : behind? "    ".toList line = none) : read? line = outer? line := by
  rw [read?, outer]

end

theorem read?_derives (traits : String) :
    read? (derives traits).text.toList = some (.derives traits) := by
  have found := between?_append "#[derive(" ")]" traits.toList
  unfold text
  simp only [String.toList_append]
  rw [read?_of_outer (by simp [behind?]), outer?, if_neg (by simp), found]
  simp

theorem read?_tag (literal : String) : read? (tag literal).text.toList = some (.tag literal) := by
  have found := between?_append "#[serde(tag = " ")]" literal.toList
  have derives := between?_back "#[derive(" ")]" ("#[serde(tag = ".toList ++ literal.toList)
  unfold text
  simp only [String.toList_append]
  rw [read?_of_outer (by simp [behind?]), outer?, if_neg (by simp), derives, found]
  simp [behind?]

theorem read?_unit (name : String) : read? (unit name).text.toList = some (.unit name) := by
  have found := between?_append "pub struct " " \x7b\x7d" name.toList
  unfold text
  simp only [String.toList_append]
  rw [read?_of_outer (by simp [behind?]), outer?, if_neg (by simp), between?_eq_none (by simp [behind?]),
    between?_eq_none (by simp [behind?]), found]
  simp

theorem read?_struct (name : String) : read? (struct name).text.toList = some (.struct name) := by
  have found := between?_append "pub struct " " \x7b" name.toList
  unfold text
  simp only [String.toList_append]
  rw [read?_of_outer (by simp [behind?]), outer?, if_neg (by simp), between?_eq_none (by simp [behind?]),
    between?_eq_none (by simp [behind?]), between?_eq_none (by simp [behind?]), found]
  simp

theorem read?_enum (name : String) : read? (enum name).text.toList = some (.enum name) := by
  have found := between?_append "pub enum " " \x7b" name.toList
  have struct := between?_back "pub struct " " \x7b" ("pub enum ".toList ++ name.toList)
  unfold text
  simp only [String.toList_append]
  rw [read?_of_outer (by simp [behind?]), outer?, if_neg (by simp), between?_eq_none (by simp [behind?]),
    between?_eq_none (by simp [behind?]), between?_eq_none (by simp [behind?]), struct, found]
  simp [behind?]

theorem read?_synonym {name : String} (word : ' ' ∉ name.toList) (target : String) :
    read? (synonym name target).text.toList = some (.synonym name target) := by
  have found := between?_append "pub type " ";" (name.toList ++ ' ' :: ("= ".toList ++ target.toList))
  have shape : (synonym name target).text.toList =
      "pub type ".toList ++ (name.toList ++ ' ' :: ("= ".toList ++ target.toList)) ++ ";".toList := by
    unfold text
    simp
  rw [shape, read?_of_outer (by simp [behind?]), outer?, if_neg (by simp),
    between?_eq_none (by simp [behind?]), between?_eq_none (by simp [behind?]),
    between?_eq_none (by simp [behind?]), between?_eq_none (by simp [behind?]),
    between?_eq_none (by simp [behind?]), synonym?, found, Option.bind_some, splitAt?_append word]
  simp [behind?]

theorem read?_close : read? close.text.toList = some .close := by decide +kernel

theorem read?_rename (literal : String) :
    read? (rename literal).text.toList = some (.rename literal) := by
  have found := between?_append "#[serde(rename = " ")]" literal.toList
  have shape : (rename literal).text.toList =
      "    ".toList ++ ("#[serde(rename = ".toList ++ literal.toList ++ ")]".toList) := by
    unfold text
    simp
  rw [read?_of_blank shape, inner?, found]
  simp

theorem read?_skip (test : String) : read? (skip test).text.toList = some (.skip test) := by
  have found := between?_append "#[serde(skip_serializing_if = " ")]" test.toList
  have rename := between?_back "#[serde(rename = " ")]"
    ("#[serde(skip_serializing_if = ".toList ++ test.toList)
  have shape : (skip test).text.toList =
      "    ".toList ++ ("#[serde(skip_serializing_if = ".toList ++ test.toList ++ ")]".toList) := by
    unfold text
    simp
  rw [read?_of_blank shape, inner?, rename, found]
  simp [behind?]

theorem read?_field {identifier : String} (word : ':' ∉ identifier.toList) (type : String) :
    read? (field identifier type).text.toList = some (.field identifier type) := by
  have found := between?_append "pub " "," (identifier.toList ++ ':' :: (" ".toList ++ type.toList))
  have shape : (field identifier type).text.toList =
      "    ".toList ++ ("pub ".toList ++ (identifier.toList ++ ':' :: (" ".toList ++ type.toList)) ++
        ",".toList) := by
    unfold text
    simp
  rw [read?_of_blank shape, inner?, between?_eq_none (by simp [behind?]),
    between?_eq_none (by simp [behind?]), field?, found, Option.bind_some, splitAt?_append word]
  simp [behind?]

/-- A line with a variant is no field, because no blank stands in front of the parenthesis. -/
theorem read?_variant {name : String} (word : ' ' ∉ name.toList) (opens : '(' ∉ name.toList)
    (payload : String) : read? (variant name payload).text.toList = some (.variant name payload) := by
  have found := between?_append "" ")," (name.toList ++ '(' :: payload.toList)
  have shape : (variant name payload).text.toList =
      "    ".toList ++ ("".toList ++ (name.toList ++ '(' :: payload.toList) ++ "),".toList) := by
    unfold text
    simp
  have noField : field? ("".toList ++ (name.toList ++ '(' :: payload.toList) ++ "),".toList) = none := by
    have ending : "".toList ++ (name.toList ++ '(' :: payload.toList) ++ "),".toList =
        (name.toList ++ '(' :: (payload.toList ++ [')'])) ++ ",".toList := by simp
    have front : behind? "pub ".toList (name.toList ++ '(' :: (payload.toList ++ [')'])) = none :=
      behind?_eq_none (c := ' ') (by simp) (by simp) word
    rw [field?, ending, between?_back, front]
    rfl
  rw [read?_of_blank shape, inner?, between?_eq_none (by simp [behind?]),
    between?_eq_none (by simp [behind?]), noField, variant?, found, Option.bind_some,
    splitAt?_append opens]
  simp

/-- A legible line is read as what it says. -/
theorem Legible.read? {line : Line} (legible : line.Legible) :
    read? line.text.toList = some line := by
  cases line with
  | derives traits => exact read?_derives traits
  | tag literal => exact read?_tag literal
  | unit name => exact read?_unit name
  | struct name => exact read?_struct name
  | enum name => exact read?_enum name
  | synonym name target => exact read?_synonym legible.2.2 target
  | rename literal => exact read?_rename literal
  | skip test => exact read?_skip test
  | field identifier type => exact read?_field legible.2.2 type
  | variant name payload => exact read?_variant legible.2.2.1 legible.2.2.2 payload
  | close => exact read?_close

end Line

/-! ## Declarations -/

/-- What is written of a field: the literal of its name in data if it has one, whether it is left
out where it is absent, its identifier, and its type. -/
structure WrittenField where
  rename? : Option String
  skipped : Bool
  identifier : String
  type : String
deriving DecidableEq, Repr

/-- What is written of a variant: the literal that it stands for in data, its name, and the type of
what it holds. -/
structure WrittenVariant where
  rename : String
  name : String
  payload : String
deriving DecidableEq, Repr

/-- What is written of a declaration. -/
inductive WrittenDeclaration where
  | struct (name : String) (fields : List WrittenField)
  | enum (name tag : String) (variants : List WrittenVariant)
  | synonym (name target : String)
deriving DecidableEq, Repr

/-- The lines of a field. -/
def WrittenField.lines (field : WrittenField) : List Line :=
  (field.rename?.map Line.rename).toList ++ (if field.skipped then [.skip absentTest] else []) ++
    [.field field.identifier field.type]

/-- A field is legible if its literal, its identifier and its type stand on one line and no colon
ends the identifier. -/
theorem WrittenField.legible_lines {field : WrittenField}
    (renamed : ∀ literal ∈ field.rename?, '\n' ∉ literal.toList)
    (identified : '\n' ∉ field.identifier.toList ∧ ':' ∉ field.identifier.toList)
    (typed : '\n' ∉ field.type.toList) : ∀ line ∈ field.lines, line.Legible := by
  rw [lines, List.forall_mem_append, List.forall_mem_append, List.forall_mem_singleton]
  refine ⟨⟨?_, ?_⟩, identified.1, typed, identified.2⟩
  · intro line listed
    rcases List.mem_map.mp (Option.toList_map ▸ listed) with ⟨literal, present, rfl⟩
    exact renamed literal (Option.mem_toList.mp present)
  · split
    · exact List.forall_mem_singleton.mpr newline_not_mem_absentTest
    · exact List.forall_mem_nil _

/-- The name of a field in data: what its literal denotes, or else its identifier without the mark
of a keyword. -/
def WrittenField.key? (field : WrittenField) : Option String :=
  match field.rename? with
  | some literal => Text.literal? literal
  | none => some (Naming.withoutMark field.identifier)

/-- The lines of a variant. -/
def WrittenVariant.lines (variant : WrittenVariant) : List Line :=
  [.rename variant.rename, .variant variant.name variant.payload]

namespace WrittenDeclaration

/-- The name that is declared. -/
def name : WrittenDeclaration → String
  | .struct name _ | .enum name _ _ | .synonym name _ => name

/-- The lines of a declaration. -/
def lines : WrittenDeclaration → List Line
  | .struct name [] => [.derives derivedTraits, .unit name]
  | .struct name (field :: fields) =>
      [.derives derivedTraits, .struct name] ++ (field :: fields).flatMap WrittenField.lines ++
        [.close]
  | .enum name tag variants =>
      [.derives derivedTraits, .tag tag, .enum name] ++ variants.flatMap WrittenVariant.lines ++
        [.close]
  | .synonym name target => [.synonym name target]

/-- The text of a declaration. -/
def text (declaration : WrittenDeclaration) : String := Line.join declaration.lines

/-- Reads fields up to the end of a struct, with the attributes of the next one. -/
def fieldsFrom? (rename? : Option String) (skipped : Bool) : List Line → Option (List WrittenField)
  | [.close] => if rename? = none ∧ skipped = false then some [] else none
  | .rename literal :: rest =>
      if rename? = none ∧ skipped = false then fieldsFrom? (some literal) false rest else none
  | .skip test :: rest =>
      if test = absentTest ∧ skipped = false then fieldsFrom? rename? true rest else none
  | .field identifier type :: rest =>
      (fieldsFrom? none false rest).map (⟨rename?, skipped, identifier, type⟩ :: ·)
  | _ => none

/-- Reads variants up to the end of an enum, with the literal of the next one. -/
def variantsFrom? (rename? : Option String) : List Line → Option (List WrittenVariant)
  | [.close] => if rename? = none then some [] else none
  | .rename literal :: rest => if rename? = none then variantsFrom? (some literal) rest else none
  | .variant name payload :: rest =>
      rename?.bind fun literal => (variantsFrom? none rest).map (⟨literal, name, payload⟩ :: ·)
  | _ => none

/-- The declaration that some lines make up. -/
def ofLines? : List Line → Option WrittenDeclaration
  | [.derives traits, .unit name] => if traits = derivedTraits then some (.struct name []) else none
  | .derives traits :: .struct name :: rest =>
      if traits = derivedTraits then (fieldsFrom? none false rest).map (.struct name) else none
  | .derives traits :: .tag literal :: .enum name :: rest =>
      if traits = derivedTraits then (variantsFrom? none rest).map (.enum name literal) else none
  | [.synonym name target] => some (.synonym name target)
  | _ => none

/-- Reads a declaration. -/
def read? (text : String) : Option WrittenDeclaration :=
  ((linesFrom [] text.toList).mapM Line.read?).bind ofLines?

/-- Everything that is written of a declaration is legible on its line. -/
def Legible (declaration : WrittenDeclaration) : Prop := ∀ line ∈ declaration.lines, line.Legible

/-- An enum is legible if its names are words and its literals stand on one line. -/
theorem legible_enum {name tag : String} {variants : List WrittenVariant} (named : IsWord name)
    (tagged : '\n' ∉ tag.toList)
    (each : ∀ variant ∈ variants,
      '\n' ∉ variant.rename.toList ∧ IsWord variant.name ∧ IsWord variant.payload) :
    (enum name tag variants).Legible := by
  intro line listed
  simp only [lines, List.mem_append, List.mem_cons, List.not_mem_nil, or_false, List.mem_flatMap,
    WrittenVariant.lines] at listed
  rcases listed with ((rfl | rfl | rfl) | ⟨variant, member, rfl | rfl⟩) | rfl
  · exact newline_not_mem_derivedTraits
  · exact tagged
  · exact named.not_mem rfl
  · exact (each variant member).1
  · have words := (each variant member).2
    exact ⟨words.1.not_mem rfl, words.2.not_mem rfl, words.1.not_mem rfl, words.1.not_mem rfl⟩
  · trivial

/-- A struct is legible if its name and the types of its fields stand on one line, and so do its
literals and its identifiers, which no colon ends before. -/
theorem legible_struct {name : String} {fields : List WrittenField} (named : '\n' ∉ name.toList)
    (each : ∀ field ∈ fields, ∀ line ∈ field.lines, line.Legible) : (struct name fields).Legible := by
  cases fields with
  | nil => exact List.forall_mem_cons.mpr ⟨newline_not_mem_derivedTraits, List.forall_mem_singleton.mpr named⟩
  | cons field fields =>
      intro line listed
      rw [lines, List.mem_append, List.mem_append, List.mem_flatMap] at listed
      rcases listed with (front | ⟨other, member, inside⟩) | last
      · revert line
        exact List.forall_mem_cons.mpr ⟨newline_not_mem_derivedTraits, List.forall_mem_singleton.mpr named⟩
      · exact each other member line inside
      · rw [List.mem_singleton.mp last]
        trivial

/-! ### A declaration is read as what it says -/

theorem fieldsFrom?_lines (fields : List WrittenField) :
    fieldsFrom? none false (fields.flatMap WrittenField.lines ++ [.close]) = some fields := by
  induction fields with
  | nil => rfl
  | cons field fields inductionHypothesis =>
      rcases field with ⟨rename?, skipped, identifier, type⟩
      rw [List.flatMap_cons, List.append_assoc]
      cases rename? <;> cases skipped <;>
        simp [WrittenField.lines, fieldsFrom?, inductionHypothesis]

theorem variantsFrom?_lines (variants : List WrittenVariant) :
    variantsFrom? none (variants.flatMap WrittenVariant.lines ++ [.close]) = some variants := by
  induction variants with
  | nil => rfl
  | cons variant variants inductionHypothesis =>
      rw [List.flatMap_cons, List.append_assoc]
      simp [WrittenVariant.lines, variantsFrom?, inductionHypothesis]

/-- The lines of a declaration make it up. -/
theorem ofLines?_lines (declaration : WrittenDeclaration) :
    ofLines? declaration.lines = some declaration := by
  cases declaration with
  | struct name fields =>
      cases fields with
      | nil => rw [lines, ofLines?, if_pos rfl]
      | cons field fields =>
          have inside := fieldsFrom?_lines (field :: fields)
          rw [lines, List.append_assoc, List.cons_append, List.singleton_append, ofLines?,
            if_pos rfl, inside, Option.map_some]
  | enum name tag variants =>
      have inside := variantsFrom?_lines variants
      rw [lines, List.append_assoc, List.cons_append, List.cons_append, List.singleton_append,
        ofLines?, if_pos rfl, inside, Option.map_some]
  | synonym name target => rfl

/-- Legible lines are read one by one. -/
theorem mapM_read?_lines {lines : List Line} (legible : ∀ line ∈ lines, line.Legible) :
    (linesFrom [] (Line.join lines).toList).mapM Line.read? = some lines := by
  induction lines with
  | nil => rfl
  | cons line lines inductionHypothesis =>
      rw [List.forall_mem_cons] at legible
      have ended : "\n".toList = ['\n'] := rfl
      have first : ([] : List Char).reverse ++ line.text.toList = line.text.toList := rfl
      rw [Line.join_cons, String.append_assoc, String.toList_append, String.toList_append, ended, List.singleton_append, linesFrom_line legible.1.whole, first,
        List.mapM_cons, legible.1.read?, inductionHypothesis legible.2]
      rfl

/-- A legible declaration is read as what it says. -/
theorem Legible.read?_text {declaration : WrittenDeclaration} (legible : declaration.Legible) :
    read? declaration.text = some declaration := by
  rw [read?, text, mapM_read?_lines legible, Option.bind_some, ofLines?_lines]

end WrittenDeclaration

/-! ## What the emitter writes -/

/-- What the emitter writes of a field. -/
def WrittenField.ofField (name : String) (header : Header) (type : String) : WrittenField where
  rename? := if Naming.withoutMark (Naming.field name) = name then none else some (Text.quoted name)
  skipped := !header.required
  identifier := Naming.field name
  type := type

theorem WrittenField.identifier_ofField (name : String) (header : Header) (type : String) :
    (ofField name header type).identifier = Naming.field name := by
  simp only [ofField]

theorem WrittenField.type_ofField (name : String) (header : Header) (type : String) :
    (ofField name header type).type = type := by
  simp only [ofField]

theorem renameAttribute_eq (name : String) :
    renameAttribute name = (Line.rename (Text.quoted name)).text ++ "\n" := by
  have rename : (Line.rename (Text.quoted name)).text =
      "    #[serde(rename = " ++ Text.quoted name ++ ")]" := rfl
  apply String.toList_injective
  rw [renameAttribute, rename]
  simp [indent]

theorem fieldLines_eq (name : String) (header : Header) (type : String) :
    fieldLines name header type = Line.join (WrittenField.ofField name header type).lines := by
  have renamed : Line.join ((WrittenField.ofField name header type).rename?.map Line.rename).toList =
      if Naming.withoutMark (Naming.field name) = name then "" else renameAttribute name := by
    rw [WrittenField.ofField]
    split
    · rfl
    · simp only [Option.map_some, Option.toList_some, Line.join_singleton, renameAttribute_eq]
  have skipped : Line.join (if (WrittenField.ofField name header type).skipped then [.skip absentTest]
      else []) = if header.required then ""
        else indent ++ "#[serde(skip_serializing_if = \"Option::is_none\")]\n" := by
    have skip : indent ++ "#[serde(skip_serializing_if = \"Option::is_none\")]\n" =
        (Line.skip absentTest).text ++ "\n" := by decide +kernel
    rw [WrittenField.ofField, skip, ← Line.join_singleton]
    cases header.required <;> rfl
  have field : (Line.field (Naming.field name) type).text ++ "\n" =
      indent ++ "pub " ++ Naming.field name ++ ": " ++ type ++ ",\n" := by
    have text : (Line.field (Naming.field name) type).text =
        "    pub " ++ Naming.field name ++ ": " ++ type ++ "," := rfl
    apply String.toList_injective
    rw [text]
    simp [indent]
  rw [WrittenField.lines, Line.join_append, Line.join_append, renamed, skipped, Line.join_singleton,
    WrittenField.ofField, field, fieldLines]
  simp only [String.append_assoc]

theorem variantLines_eq (literal variant payload : String) :
    variantLines literal variant payload =
      Line.join (WrittenVariant.lines ⟨Text.quoted literal, variant, payload⟩) := by
  have held : (Line.variant variant payload).text = "    " ++ variant ++ "(" ++ payload ++ ")," := rfl
  apply String.toList_injective
  rw [variantLines, renameAttribute_eq, WrittenVariant.lines, Line.join_cons, Line.join_cons, held]
  simp [indent, Line.join]

theorem derives_eq : derives = (Line.derives derivedTraits).text ++ "\n" := by decide +kernel

/-- Some lines are no empty text. -/
theorem isEmpty_join {lines : List Line} {line : Line} (listed : line ∈ lines) :
    (Line.join lines).isEmpty = false := by
  rcases List.append_of_mem listed with ⟨first, last, rfl⟩
  rw [Line.join_append, Line.join_cons, ← Bool.not_eq_true, String.isEmpty_iff]
  intro empty
  have letters := congrArg String.toList empty
  simp at letters

theorem structText_eq (name : String) (fields : List WrittenField) :
    structText name (Line.join (fields.flatMap WrittenField.lines)) =
      (WrittenDeclaration.struct name fields).text := by
  apply String.toList_injective
  cases fields with
  | nil =>
      have unit : (Line.unit name).text = "pub struct " ++ name ++ " \x7b\x7d" := rfl
      rw [structText, derives_eq, WrittenDeclaration.text, WrittenDeclaration.lines, Line.join_cons,
        Line.join_cons, unit]
      simp [Line.join]
  | cons field fields =>
      have struct : (Line.struct name).text = "pub struct " ++ name ++ " \x7b" := rfl
      have close : Line.close.text = "\x7d" := rfl
      have listed : Line.field field.identifier field.type ∈
          (field :: fields).flatMap WrittenField.lines :=
        List.mem_flatMap.mpr ⟨field, List.mem_cons_self, List.mem_append_right _ List.mem_cons_self⟩
      rw [structText, derives_eq, isEmpty_join listed, WrittenDeclaration.text, WrittenDeclaration.lines,
        Line.join_append, Line.join_append, Line.join_cons, Line.join_cons, Line.join_cons, struct, close]
      simp [Line.join]

theorem enumText_eq (name tag : String) (variants : List WrittenVariant) :
    enumText name tag (Line.join (variants.flatMap WrittenVariant.lines)) =
      (WrittenDeclaration.enum name (Text.quoted tag) variants).text := by
  have tagged : (Line.tag (Text.quoted tag)).text = "#[serde(tag = " ++ Text.quoted tag ++ ")]" := rfl
  have enum : (Line.enum name).text = "pub enum " ++ name ++ " \x7b" := rfl
  have close : Line.close.text = "\x7d" := rfl
  apply String.toList_injective
  rw [enumText, derives_eq, WrittenDeclaration.text, WrittenDeclaration.lines, Line.join_append,
    Line.join_append, Line.join_cons, Line.join_cons, Line.join_cons, Line.join_cons, tagged, enum,
    close]
  simp [Line.join]

theorem aliasText_eq (name target : String) :
    aliasText name target = (WrittenDeclaration.synonym name target).text := by
  have synonym : (Line.synonym name target).text = "pub type " ++ name ++ " = " ++ target ++ ";" := rfl
  apply String.toList_injective
  rw [aliasText, WrittenDeclaration.text, WrittenDeclaration.lines, Line.join_cons, synonym]
  simp [Line.join]

end Nominal
end Conformance
