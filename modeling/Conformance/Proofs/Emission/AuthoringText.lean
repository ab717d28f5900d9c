import Conformance.Proofs.Emission.AuthoringLeaf
import Conformance.Proofs.Schema.Unfolding

namespace Conformance

/-!
# Authoring text tells the schema

Authoring text leaves out what is as usual, and it quotes what a schema can choose freely.
So it can be read in one way only.  The word in front of the first bracket is either a
variant or the word of a kind, and then the brackets hold what is particular to the kind;
wherever a node ends, its names are over as soon as there is no full stop.  By induction on
the tree, two trees with one text are equal, and so are the texts behind them.

The bounds of the schemas must lie between the sentinels, because what is beyond a sentinel is
not written.  Where the arenas of two schemas with one text differ, they still unfold to one
tree.
-/

namespace Form

variable {Child Target : Type}

/-- Whether the bounds of a node lie between the sentinels. -/
def WithinSentinels : Form Child → Prop
  | .leaf scalar => scalar.WithinSentinels
  | .array _ length | .record _ length => length.WithinSentinels
  | _ => True

/-- Whether the real bounds of a node are numbers of the format. -/
def IsRepresentable : Form Child → Prop
  | .leaf scalar => scalar.IsRepresentable
  | _ => True

/-- Whether the bounds of a node can be told from its text. -/
def Faithful : Form Child → Prop
  | .leaf scalar => scalar.Faithful
  | form => form.WithinSentinels

/-- A proper node with numbers of the format between the sentinels as its bounds can be told
from its text. -/
theorem faithful {form : Form Child} (proper : form.Proper) (within : form.WithinSentinels)
    (representable : form.IsRepresentable) : form.Faithful := by
  cases form with
  | leaf scalar =>
      cases scalar with
      | real range => exact ⟨proper.2.2, within, representable⟩
      | _ => exact within
  | _ => exact within

theorem map_faithful {change : Child → Target} {form : Form Child} (own : form.Faithful) :
    (form.map change).Faithful := by
  cases form <;> exact own

end Form

/-- A tree that can be told from its text.  No node of it has the mark of the root, which is
not written. -/
inductive Shape.Faithful : Shape → Prop where
  | node {header : Header} {form : Form Shape} (unmarked : header.isEntry = false)
      (own : form.Faithful) (children : ∀ child ∈ form.children, Faithful child) :
      Faithful (.node header form)

namespace Authoring

open Text

variable {level : Nat} {rest others : List Char}

/-! ## The parts of a node -/

/-- The word of a kind. -/
def word : Form Shape → String
  | .leaf scalar => leafWord scalar
  | .object _ => "object"
  | .array _ _ => "array"
  | .tuple _ => "tuple"
  | .record _ _ => "record"
  | .union _ => "union"

/-- A field of an object on a line of its own. -/
def fieldLine (level : Nat) (field : String × Shape) : List Char :=
  (indent level).toList ++
    ((key field.1).toList ++ ':' :: ' ' :: ((render level field.2).toList ++ [',', '\n']))

/-- The lines of the fields of an object up to the closing brace. -/
def fieldLines (level : Nat) (fields : List (String × Shape)) : List Char :=
  fields.flatMap (fieldLine (level + 1)) ++ ((indent level).toList ++ ['}'])

/-- Nodes behind another one up to the closing bracket. -/
def furtherItems (level : Nat) (items : List Shape) : List Char :=
  (items.flatMap fun item => ',' :: ' ' :: (render level item).toList) ++ [']']

/-- Nodes up to the closing bracket. -/
def listItems (level : Nat) : List Shape → List Char
  | [] => [']']
  | item :: rest => (render level item).toList ++ furtherItems level rest

/-- What stands in the brackets behind the word of a kind. -/
def inside (level : Nat) : Form Shape → List Char
  | .leaf scalar => (leafInside scalar).characters
  | .object [] => ['{', '}']
  | .object (field :: fields) => '{' :: '\n' :: fieldLines level (field :: fields)
  | .array item length | .record item length =>
      (render level item).toList ++ (countSettings "min" "max" length).behind
  | .tuple items | .union items => '[' :: listItems level items

theorem toList_renderFields (level : Nat) (fields : List (String × Shape)) :
    (renderFields level fields).toList = fields.flatMap (fieldLine level) := by
  induction fields with
  | nil => rfl
  | cons field fields inductionHypothesis =>
      rcases field with ⟨name, shape⟩
      rw [renderFields, List.flatMap_cons, ← inductionHypothesis, fieldLine]
      simp only [String.toList_append, List.append_assoc, List.cons_append, List.nil_append]
      rfl

theorem toList_items (level : Nat) (items : List Shape) :
    (", ".intercalate (renderAll level items)).toList ++ [']'] = listItems level items := by
  cases items with
  | nil => rfl
  | cons item items =>
      rw [listItems]
      induction items generalizing item with
      | nil =>
          rw [renderAll, renderAll, String.intercalate_singleton]
          rfl
      | cons next items inductionHypothesis =>
          have later := inductionHypothesis next
          rw [renderAll] at later
          rw [renderAll, renderAll, String.intercalate_cons_cons, String.toList_append,
            String.toList_append, List.append_assoc, List.append_assoc, later, furtherItems,
            furtherItems, List.flatMap_cons, List.append_assoc]
          rfl

/-- A node without its presence and names is its word with what stands in the brackets. -/
theorem toList_renderForm (level : Nat) (form : Form Shape) :
    (renderForm level form).toList = (word form).toList ++ '(' :: (inside level form ++ [')']) := by
  cases form with
  | leaf scalar =>
      rw [renderForm, toList_leafCall]
      rfl
  | object fields =>
      cases fields with
      | nil =>
          rw [renderForm]
          rfl
      | cons field fields =>
          have opening : "object(\x7b\n".toList = "object".toList ++ ['(', '{', '\n'] := rfl
          rw [renderForm]
          simp only [String.toList_append, toList_renderFields, opening, List.append_assoc,
            List.cons_append, List.nil_append, inside, fieldLines]
          rfl
  | array item length | record item length =>
      rw [renderForm, countOptions, options_eq_texts, Settings.toList_call_argument, inside,
        List.append_assoc]
      rfl
  | tuple items =>
      have opening : "tuple([".toList = "tuple".toList ++ ['(', '['] := rfl
      rw [renderForm, inside, ← toList_items]
      simp only [String.toList_append, opening, List.append_assoc, List.cons_append, List.nil_append]
      rfl
  | union items =>
      have opening : "union([".toList = "union".toList ++ ['(', '['] := rfl
      rw [renderForm, inside, ← toList_items]
      simp only [String.toList_append, opening, List.append_assoc, List.cons_append, List.nil_append]
      rfl

/-! ## Presence and names -/

section

variable {header : Header} {form : Form Shape}

/-- The variant that is not written for a kind. -/
def usualVariant (form : Form Shape) : Variant := .ofFlags (Node.defaultRequired form) false

/-- The names of a node stand behind its call. -/
theorem toList_decorate (header : Header) (required : Bool) (text : String) :
    (decorate header required text).toList =
      (if Variant.ofFlags header.required header.nullable = .ofFlags required false then text
        else (Variant.ofFlags header.required header.nullable).name ++ "(" ++ text ++ ")").toList ++
        suffixes header := by
  rcases header with ⟨isRequired, nullable, name, rename, isEntry⟩
  simp only [decorate, suffixes]
  generalize (if Variant.ofFlags isRequired nullable = .ofFlags required false then text
    else (Variant.ofFlags isRequired nullable).name ++ "(" ++ text ++ ")") = called
  cases name <;> cases rename <;>
    simp only [Option.elim, suffix, String.toList_append, List.append_assoc, List.append_nil,
      List.nil_append] <;> rfl

/-- A node with the usual variant begins with the word of its kind. -/
theorem toList_render_usual
    (usual : Variant.ofFlags header.required header.nullable = usualVariant form) :
    (render level (.node header form)).toList =
      (word form).toList ++ '(' :: (inside level form ++ ')' :: suffixes header) := by
  rw [usualVariant] at usual
  rw [render, toList_decorate, if_pos usual, toList_renderForm]
  simp only [List.append_assoc, List.cons_append, List.nil_append]

/-- A node with another variant begins with the name of the variant. -/
theorem toList_render_unusual
    (unusual : Variant.ofFlags header.required header.nullable ≠ usualVariant form) :
    (render level (.node header form)).toList =
      (Variant.ofFlags header.required header.nullable).name.toList ++ '(' ::
        ((word form).toList ++ '(' :: (inside level form ++ ')' :: ')' :: suffixes header)) := by
  rw [usualVariant] at unusual
  rw [render, toList_decorate, if_neg unusual]
  simp only [String.toList_append, toList_renderForm, List.append_assoc, List.cons_append,
    List.nil_append]
  rfl

end

/-- The words of leaves. -/
def leafWords : List String :=
  ["string", "integer", "float", "boolean", "null", "undefined", "date", "datetime", "timestamp",
    "exact", "regex", "unknown", "buffer"]

/-- The words of all kinds. -/
def words : List String := leafWords ++ ["object", "array", "tuple", "record", "union"]

theorem leafWord_mem (leaf : Leaf) : leafWord leaf ∈ leafWords := by
  cases leaf with
  | timestamp format =>
      cases format with
      | rfc3339 | lenient => decide
  | _ =>
      rw [leafWord]
      decide

theorem word_mem (form : Form Shape) : word form ∈ words := by
  cases form with
  | leaf scalar => exact List.mem_append_left _ (leafWord_mem scalar)
  | _ =>
      rw [word]
      decide

/-- A word ends in front of a bracket, and no list ends in front of a word. -/
def isLetter (c : Char) : Bool := c != '(' && c != ']'

theorem words_letters {word : String} (listed : word ∈ words) :
    ∀ c ∈ word.toList, isLetter c = true := by
  have letters : (words.all fun word => word.toList.all isLetter) = true := by decide
  exact List.all_eq_true.mp (List.all_eq_true.mp letters word listed)

theorem variant_letters (variant : Variant) : ∀ c ∈ variant.name.toList, isLetter c = true := by
  refine List.all_eq_true.mp ?_
  cases variant <;> decide

theorem variant_not_word (variant : Variant) : variant.name ∉ words := by
  cases variant <;> decide

theorem variant_injective {left right : Variant} (same : left.name = right.name) : left = right := by
  cases left <;> cases right
  case required.required | optional.optional | nullable.nullable |
      optionalNullable.optionalNullable => rfl
  all_goals exact absurd same (by decide)

theorem flags_injective {required nullable otherRequired otherNullable : Bool}
    (same : Variant.ofFlags required nullable = Variant.ofFlags otherRequired otherNullable) :
    required = otherRequired ∧ nullable = otherNullable := by
  revert required nullable otherRequired otherNullable
  decide

/-! ## What tells a tree -/

/-- A tree is told by its text, in front of anything but a full stop. -/
def Tells (shape : Shape) : Prop :=
  ∀ ⦃other : Shape⦄ ⦃level : Nat⦄ ⦃rest others : List Char⦄, other.Faithful →
    Stops (· == '.') rest → Stops (· == '.') others →
    (render level shape).toList ++ rest = (render level other).toList ++ others →
      shape = other ∧ rest = others

theorem stops_further (level : Nat) (items : List Shape) (rest : List Char) :
    Stops (· == '.') (furtherItems level items ++ rest) := by
  cases items <;> exact stops_cons (by decide) _

theorem stops_behind (settings : Settings) (rest : List Char) :
    Stops (· == '.') (settings.behind ++ ')' :: rest) := by
  cases settings <;> exact stops_cons (by decide) _

/-- No node begins with the bracket that ends a list. -/
theorem render_ne_bracket (shape : Shape) :
    (render level shape).toList ++ rest ≠ ']' :: others := by
  have letters_ne {letters rest : List Char} (areLetters : ∀ c ∈ letters, isLetter c = true) :
      letters ++ '(' :: rest ≠ ']' :: others := by
    intro same
    cases letters with
    | nil => exact absurd (List.cons.inj same).1 (by decide)
    | cons c letters =>
        have letter := areLetters c List.mem_cons_self
        rw [(List.cons.inj same).1] at letter
        exact absurd letter (by decide)
  cases shape with
  | node header form =>
      by_cases usual : Variant.ofFlags header.required header.nullable = usualVariant form
      · rw [toList_render_usual usual, List.append_assoc]
        exact letters_ne (words_letters (word_mem form))
      · rw [toList_render_unusual usual, List.append_assoc]
        exact letters_ne (variant_letters _)

/-- Nodes behind another one show where they end. -/
theorem furtherItems_delimit {items otherItems : List Shape} (tells : ∀ item ∈ items, Tells item)
    (faithful : ∀ item ∈ otherItems, item.Faithful)
    (same : furtherItems level items ++ rest = furtherItems level otherItems ++ others) :
    items = otherItems ∧ rest = others := by
  have furtherItems_cons (item : Shape) (items : List Shape) (rest : List Char) :
      furtherItems level (item :: items) ++ rest =
        ',' :: ' ' :: ((render level item).toList ++ (furtherItems level items ++ rest)) := by
    simp only [furtherItems, List.flatMap_cons, List.cons_append, List.append_assoc]
  induction items generalizing otherItems with
  | nil =>
      cases otherItems with
      | nil => exact ⟨rfl, (List.cons.inj same).2⟩
      | cons => exact absurd (List.cons.inj same).1 (by decide)
  | cons item items inductionHypothesis =>
      cases otherItems with
      | nil => exact absurd (List.cons.inj same).1 (by decide)
      | cons otherItem otherItems =>
          rw [List.forall_mem_cons] at tells faithful
          rw [furtherItems_cons, furtherItems_cons] at same
          rcases tells.1 faithful.1 (stops_further level items rest)
            (stops_further level otherItems others) (List.cons.inj (List.cons.inj same).2).2 with
            ⟨rfl, tails⟩
          rcases inductionHypothesis tells.2 faithful.2 tails with ⟨rfl, rests⟩
          exact ⟨rfl, rests⟩

/-- Nodes in brackets show where they end. -/
theorem listItems_delimit {items otherItems : List Shape} (tells : ∀ item ∈ items, Tells item)
    (faithful : ∀ item ∈ otherItems, item.Faithful)
    (same : listItems level items ++ rest = listItems level otherItems ++ others) :
    items = otherItems ∧ rest = others := by
  cases items with
  | nil =>
      cases otherItems with
      | nil => exact ⟨rfl, (List.cons.inj same).2⟩
      | cons otherItem otherItems =>
          rw [listItems, listItems, List.append_assoc] at same
          exact absurd same.symm (render_ne_bracket otherItem)
  | cons item items =>
      cases otherItems with
      | nil =>
          rw [listItems, listItems, List.append_assoc] at same
          exact absurd same (render_ne_bracket item)
      | cons otherItem otherItems =>
          rw [List.forall_mem_cons] at tells faithful
          rw [listItems, listItems, List.append_assoc, List.append_assoc] at same
          rcases tells.1 faithful.1 (stops_further level items rest)
            (stops_further level otherItems others) same with ⟨rfl, tails⟩
          rcases furtherItems_delimit tells.2 faithful.2 tails with ⟨rfl, rests⟩
          exact ⟨rfl, rests⟩

theorem toList_indent_succ (level : Nat) :
    (indent (level + 1)).toList = (indent level).toList ++ [' ', ' '] := by
  rw [indent, indent, String.toList_ofList, String.toList_ofList, Nat.mul_add, List.replicate_add]
  rfl

/-- The lines of the fields of an object show where they end: the closing brace is not indented
as far as they are. -/
theorem fieldLines_delimit {fields otherFields : List (String × Shape)}
    (tells : ∀ field ∈ fields, Tells field.2) (faithful : ∀ field ∈ otherFields, field.2.Faithful)
    (same : fieldLines level fields ++ rest = fieldLines level otherFields ++ others) :
    fields = otherFields ∧ rest = others := by
  have fieldLines_nil (rest : List Char) :
      fieldLines level [] ++ rest = (indent level).toList ++ '}' :: rest := by
    simp only [fieldLines, List.flatMap_nil, List.nil_append, List.append_assoc, List.cons_append]
  have fieldLines_cons (field : String × Shape) (fields : List (String × Shape)) (rest : List Char) :
      fieldLines level (field :: fields) ++ rest = (indent level).toList ++ ' ' :: ' ' ::
        ((key field.1).toList ++ ':' :: ' ' :: ((render (level + 1) field.2).toList ++
          ',' :: '\n' :: (fieldLines level fields ++ rest))) := by
    simp only [fieldLines, fieldLine, toList_indent_succ, List.flatMap_cons, List.append_assoc,
      List.cons_append, List.nil_append]
  induction fields generalizing otherFields with
  | nil =>
      cases otherFields with
      | nil =>
          rw [fieldLines_nil, fieldLines_nil] at same
          exact ⟨rfl, (List.cons.inj (List.append_cancel_left same)).2⟩
      | cons =>
          rw [fieldLines_nil, fieldLines_cons] at same
          exact absurd (List.cons.inj (List.append_cancel_left same)).1 (by decide)
  | cons field fields inductionHypothesis =>
      cases otherFields with
      | nil =>
          rw [fieldLines_nil, fieldLines_cons] at same
          exact absurd (List.cons.inj (List.append_cancel_left same)).1 (by decide)
      | cons otherField otherFields =>
          rw [List.forall_mem_cons] at tells faithful
          rw [fieldLines_cons, fieldLines_cons] at same
          have keyed := (List.cons.inj (List.cons.inj (List.append_cancel_left same)).2).2
          rcases key_delimits (stops_cons (by decide) _) (stops_cons (by decide) _) keyed with
            ⟨names, behind⟩
          rcases tells.1 faithful.1 (stops_cons (by decide) _) (stops_cons (by decide) _)
            (List.cons.inj (List.cons.inj behind).2).2 with ⟨shapes, tails⟩
          rcases inductionHypothesis tells.2 faithful.2 (List.cons.inj (List.cons.inj tails).2).2 with
            ⟨rfl, rests⟩
          exact ⟨by rw [Prod.ext names shapes], rests⟩

/-- The fields of an object show where they end. -/
theorem object_delimits {fields otherFields : List (String × Shape)}
    (tells : ∀ field ∈ fields, Tells field.2) (faithful : ∀ field ∈ otherFields, field.2.Faithful)
    (same : inside level (.object fields) ++ ')' :: rest =
      inside level (.object otherFields) ++ ')' :: others) :
    fields = otherFields ∧ rest = others := by
  cases fields with
  | nil =>
      cases otherFields with
      | nil => exact ⟨rfl, (List.cons.inj (List.cons.inj (List.cons.inj same).2).2).2⟩
      | cons => exact absurd (List.cons.inj (List.cons.inj same).2).1 (by decide)
  | cons field fields =>
      cases otherFields with
      | nil => exact absurd (List.cons.inj (List.cons.inj same).2).1 (by decide)
      | cons otherField otherFields =>
          rcases fieldLines_delimit tells faithful (List.cons.inj (List.cons.inj same).2).2 with
            ⟨fieldsEq, rests⟩
          exact ⟨fieldsEq, (List.cons.inj rests).2⟩

/-- An item with the bounds of a list shows where it ends. -/
theorem item_delimits {item otherItem : Shape} {length otherLength : LengthBounds}
    (tells : Tells item) (faithful : otherItem.Faithful) (within : length.WithinSentinels)
    (otherWithin : otherLength.WithinSentinels)
    (same : (render level item).toList ++ (countSettings "min" "max" length).behind ++ ')' :: rest =
      (render level otherItem).toList ++ (countSettings "min" "max" otherLength).behind ++
        ')' :: others) :
    item = otherItem ∧ length = otherLength ∧ rest = others := by
  rw [List.append_assoc, List.append_assoc] at same
  rcases tells faithful (stops_behind _ rest) (stops_behind _ others) same with ⟨items, tails⟩
  rcases Settings.behind_delimits (countSettings_numeric (by decide) (by decide) length)
    (countSettings_numeric (by decide) (by decide) otherLength) tails with ⟨settings, rests⟩
  exact ⟨items, countSettings_injective (by decide) within otherWithin settings, rests⟩

/-- The word of a leaf is the word of no other kind. -/
theorem leafWord_ne_word {leaf : Leaf} {form : Form Shape} (composite : ∀ scalar, form ≠ .leaf scalar) :
    leafWord leaf ≠ word form := by
  intro same
  have listed := leafWord_mem leaf
  rw [same] at listed
  cases form with
  | leaf scalar => exact composite scalar rfl
  | _ =>
      rw [word] at listed
      exact absurd listed (by decide)

/-- Behind one word, what stands in the brackets tells a node, if the texts of its children
tell the children. -/
theorem inside_delimits {left right : Form Shape} (leftFaithful : left.Faithful)
    (rightFaithful : right.Faithful) (tells : ∀ child ∈ left.children, Tells child)
    (faithful : ∀ child ∈ right.children, child.Faithful) (sameWord : word left = word right)
    (same : inside level left ++ ')' :: rest = inside level right ++ ')' :: others) :
    left = right ∧ rest = others := by
  cases left with
  | leaf scalar =>
      cases right with
      | leaf otherScalar =>
          rcases Inside.characters_delimit (leafInside_numeric leftFaithful)
            (leafInside_numeric rightFaithful) same with ⟨insides, rests⟩
          exact ⟨by rw [leaf_injective leftFaithful rightFaithful sameWord insides], rests⟩
      | _ => exact absurd sameWord (leafWord_ne_word (by rintro _ ⟨⟩))
  | object fields =>
      cases right with
      | object otherFields =>
          have tellsField : ∀ field ∈ fields, Tells field.2 := fun field listed =>
            tells field.2 (List.mem_map_of_mem listed)
          have faithfulField : ∀ field ∈ otherFields, field.2.Faithful := fun field listed =>
            faithful field.2 (List.mem_map_of_mem listed)
          rcases object_delimits tellsField faithfulField same with ⟨rfl, rests⟩
          exact ⟨rfl, rests⟩
      | leaf scalar => exact absurd sameWord.symm (leafWord_ne_word (by rintro _ ⟨⟩))
      | _ => simp only [word, String.reduceEq] at sameWord
  | array item length =>
      cases right with
      | array otherItem otherLength =>
          rcases item_delimits (tells item List.mem_cons_self) (faithful otherItem List.mem_cons_self)
            leftFaithful rightFaithful same with ⟨rfl, rfl, rests⟩
          exact ⟨rfl, rests⟩
      | leaf scalar => exact absurd sameWord.symm (leafWord_ne_word (by rintro _ ⟨⟩))
      | _ => simp only [word, String.reduceEq] at sameWord
  | record value keys =>
      cases right with
      | record otherValue otherKeys =>
          rcases item_delimits (tells value List.mem_cons_self) (faithful otherValue List.mem_cons_self)
            leftFaithful rightFaithful same with ⟨rfl, rfl, rests⟩
          exact ⟨rfl, rests⟩
      | leaf scalar => exact absurd sameWord.symm (leafWord_ne_word (by rintro _ ⟨⟩))
      | _ => simp only [word, String.reduceEq] at sameWord
  | tuple items =>
      cases right with
      | tuple otherItems =>
          rcases listItems_delimit tells faithful (List.cons.inj same).2 with ⟨rfl, rests⟩
          exact ⟨rfl, (List.cons.inj rests).2⟩
      | leaf scalar => exact absurd sameWord.symm (leafWord_ne_word (by rintro _ ⟨⟩))
      | _ => simp only [word, String.reduceEq] at sameWord
  | union items =>
      cases right with
      | union otherItems =>
          rcases listItems_delimit tells faithful (List.cons.inj same).2 with ⟨rfl, rests⟩
          exact ⟨rfl, (List.cons.inj rests).2⟩
      | leaf scalar => exact absurd sameWord.symm (leafWord_ne_word (by rintro _ ⟨⟩))
      | _ => simp only [word, String.reduceEq] at sameWord

/-- Letters in front of a bracket show where they end. -/
theorem letters_delimit {left right : String} (leftLetters : ∀ c ∈ left.toList, isLetter c = true)
    (rightLetters : ∀ c ∈ right.toList, isLetter c = true)
    (same : left.toList ++ '(' :: rest = right.toList ++ '(' :: others) :
    left = right ∧ rest = others := by
  rcases run_delimits leftLetters rightLetters (stops_cons (by decide) _) (stops_cons (by decide) _)
    same with ⟨letters, behind⟩
  exact ⟨String.toList_injective letters, (List.cons.inj behind).2⟩

/-- What a node says is told by its variant and its names, if it does not have the mark of the
root. -/
theorem header_ext {header otherHeader : Header} (unmarked : header.isEntry = false)
    (otherUnmarked : otherHeader.isEntry = false)
    (variant : Variant.ofFlags header.required header.nullable =
      .ofFlags otherHeader.required otherHeader.nullable)
    (name : header.name = otherHeader.name) (rename : header.rename = otherHeader.rename) :
    header = otherHeader := by
  rcases flags_injective variant with ⟨required, nullable⟩
  cases header
  cases otherHeader
  cases required
  cases nullable
  cases name
  cases rename
  cases unmarked
  cases otherUnmarked
  rfl

section

variable {header otherHeader : Header} {form otherForm : Form Shape}

/-- The first brackets of two nodes with one text have the same words in front: either both
nodes have their usual variants, or both have the same other one. -/
theorem front_delimits
    (same : (render level (.node header form)).toList ++ rest =
      (render level (.node otherHeader otherForm)).toList ++ others) :
    word form = word otherForm ∧
      (Variant.ofFlags header.required header.nullable = usualVariant form ∧
          Variant.ofFlags otherHeader.required otherHeader.nullable = usualVariant otherForm ∧
          inside level form ++ ')' :: (suffixes header ++ rest) =
            inside level otherForm ++ ')' :: (suffixes otherHeader ++ others) ∨
        Variant.ofFlags header.required header.nullable =
            .ofFlags otherHeader.required otherHeader.nullable ∧
          inside level form ++ ')' :: ')' :: (suffixes header ++ rest) =
            inside level otherForm ++ ')' :: ')' :: (suffixes otherHeader ++ others)) := by
  have letters := words_letters (word_mem form)
  have otherLetters := words_letters (word_mem otherForm)
  by_cases usual : Variant.ofFlags header.required header.nullable = usualVariant form
  · rw [toList_render_usual usual] at same
    by_cases otherUsual :
        Variant.ofFlags otherHeader.required otherHeader.nullable = usualVariant otherForm
    · rw [toList_render_usual otherUsual] at same
      simp only [List.append_assoc, List.cons_append] at same
      rcases letters_delimit letters otherLetters same with ⟨sameWord, called⟩
      exact ⟨sameWord, .inl ⟨usual, otherUsual, called⟩⟩
    · rw [toList_render_unusual otherUsual] at same
      simp only [List.append_assoc, List.cons_append] at same
      rcases letters_delimit letters (variant_letters _) same with ⟨isVariant, _⟩
      exact absurd (isVariant ▸ word_mem form) (variant_not_word _)
  · rw [toList_render_unusual usual] at same
    by_cases otherUsual :
        Variant.ofFlags otherHeader.required otherHeader.nullable = usualVariant otherForm
    · rw [toList_render_usual otherUsual] at same
      simp only [List.append_assoc, List.cons_append] at same
      rcases letters_delimit (variant_letters _) otherLetters same with ⟨isVariant, _⟩
      exact absurd (isVariant ▸ word_mem otherForm) (variant_not_word _)
    · rw [toList_render_unusual otherUsual] at same
      simp only [List.append_assoc, List.cons_append] at same
      rcases letters_delimit (variant_letters _) (variant_letters _) same with ⟨variants, inner⟩
      rcases letters_delimit letters otherLetters inner with ⟨sameWord, called⟩
      exact ⟨sameWord, .inr ⟨variant_injective variants, called⟩⟩

/-- The text of a node tells the node, if the texts of its children tell the children. -/
theorem node_delimits (unmarked : header.isEntry = false) (otherUnmarked : otherHeader.isEntry = false)
    (own : form.Faithful) (otherOwn : otherForm.Faithful) (tells : ∀ child ∈ form.children, Tells child)
    (faithful : ∀ child ∈ otherForm.children, child.Faithful) (stops : Stops (· == '.') rest)
    (otherStops : Stops (· == '.') others)
    (same : (render level (.node header form)).toList ++ rest =
      (render level (.node otherHeader otherForm)).toList ++ others) :
    Shape.node header form = .node otherHeader otherForm ∧ rest = others := by
  rcases front_delimits same with ⟨sameWord, ⟨usual, otherUsual, called⟩ | ⟨variants, called⟩⟩
  · rcases inside_delimits own otherOwn tells faithful sameWord called with ⟨rfl, behind⟩
    rcases suffixes_delimit stops otherStops behind with ⟨name, rename, rests⟩
    rw [header_ext unmarked otherUnmarked (usual.trans otherUsual.symm) name rename]
    exact ⟨rfl, rests⟩
  · rcases inside_delimits own otherOwn tells faithful sameWord called with ⟨rfl, behind⟩
    rcases suffixes_delimit stops otherStops (List.cons.inj behind).2 with ⟨name, rename, rests⟩
    rw [header_ext unmarked otherUnmarked variants name rename]
    exact ⟨rfl, rests⟩

end

/-- The text of a tree that can be told from its text tells the tree. -/
theorem tells_of_faithful {shape : Shape} (shapeFaithful : shape.Faithful) : Tells shape := by
  induction shapeFaithful with
  | node unmarked own _ inductionHypothesis =>
      intro other level rest others otherFaithful stops otherStops same
      cases otherFaithful with
      | node otherUnmarked otherOwn otherChildren =>
          exact node_delimits unmarked otherUnmarked own otherOwn inductionHypothesis otherChildren
            stops otherStops same

/-- No two trees that can be told from their texts have one text. -/
theorem render_injective {left right : Shape} (leftFaithful : left.Faithful)
    (rightFaithful : right.Faithful) (same : render level left = render level right) :
    left = right := by
  have noStop : Stops (· == '.') [] := fun c listed => nomatch listed
  have texts : (render level left).toList ++ [] = (render level right).toList ++ [] := by rw [same]
  exact (tells_of_faithful leftFaithful rightFaithful noStop noStop texts).1

/-- The mark of the root is not written. -/
theorem render_asEntry (level : Nat) (shape : Shape) : render level shape.asEntry = render level shape := by
  cases shape
  rfl

end Authoring

/-! ## Schemas -/

namespace Schema

variable {schema left right : Schema}

/-- Whether all bounds of a schema lie between the sentinels: no least number is below the
least safe integer, and no largest one above the largest. -/
def WithinSentinels (schema : Schema) : Prop :=
  ∀ node ∈ schema.nodes, node.form.WithinSentinels

/-- Whether all real bounds of a schema are numbers of the format. -/
def IsRepresentable (schema : Schema) : Prop :=
  ∀ node ∈ schema.nodes, node.form.IsRepresentable

/-- What a node of such a schema unfolds to can be told from its text. -/
theorem Unfolds.faithful {id : NodeId} {tree : Shape} (unfolds : schema.Unfolds id tree)
    (within : schema.WithinSentinels) (representable : schema.IsRepresentable) : tree.Faithful := by
  induction unfolds with
  | @node id node subtree listed children inductionHypothesis =>
      have member : node ∈ schema.nodes := Array.mem_of_getElem? listed
      refine .node rfl (Form.map_faithful (Form.faithful (schema.node_proper listed)
        (within node member) (representable node member))) ?_
      intro child childListed
      rw [Form.children_map] at childListed
      rcases List.mem_map.mp childListed with ⟨childId, childMember, rfl⟩
      exact inductionHypothesis childId childMember

/-- The authoring text of a schema tells what the schema unfolds to: its kinds, bounds, texts,
patterns, fields in their order, variants and names.  Two schemas with one authoring text
unfold to one tree, if their bounds lie between the sentinels. -/
theorem authoring_text_determines_tree (leftWithin : left.WithinSentinels)
    (leftRepresentable : left.IsRepresentable) (rightWithin : right.WithinSentinels)
    (rightRepresentable : right.IsRepresentable)
    (same : Authoring.render 0 left.rootShape = Authoring.render 0 right.rootShape) :
    ∃ tree, left.Unfolds left.root tree ∧ right.Unfolds right.root tree := by
  rcases left.exists_unfolds left.root_lt with ⟨tree, unfolds⟩
  rcases right.exists_unfolds right.root_lt with ⟨otherTree, otherUnfolds⟩
  rw [unfolds.rootShape_eq, otherUnfolds.rootShape_eq, Authoring.render_asEntry,
    Authoring.render_asEntry] at same
  have equal := Authoring.render_injective (unfolds.faithful leftWithin leftRepresentable)
    (otherUnfolds.faithful rightWithin rightRepresentable) same
  exact ⟨tree, unfolds, equal ▸ otherUnfolds⟩

/-- A share of at least one half. -/
def shareNode : Node :=
  ⟨.leaf (.real ⟨.ofRatio false 1 2, RealRange.unbounded.max⟩), true, true, some "Share", none⟩

/-- An object with two shares of one node. -/
def sharedShares : Schema :=
  ⟨#[shareNode, ⟨.object [("first", 0), ("second share", 0)], true, false, none, none⟩],
    1, by decide, by decide +kernel⟩

/-- The same object with a node for each share. -/
def spreadShares : Schema :=
  ⟨#[shareNode, shareNode, ⟨.object [("first", 1), ("second share", 0)], true, false, none, none⟩],
    2, by decide, by decide +kernel⟩

theorem bounds_of_share {node : Node}
    (kind : node = shareNode ∨ ∃ fields, node.form = .object fields) :
    node.form.WithinSentinels ∧ node.form.IsRepresentable := by
  rcases kind with rfl | ⟨fields, isObject⟩
  · have half := Binary64.isRepresentable_ofRatio false 1 2
    have most := Binary64.isRepresentable_ofInt maxSafeInteger
    refine ⟨by constructor <;> decide +kernel, ?_⟩
    simp only [shareNode, RealRange.unbounded]
    generalize Binary64.ofRatio false 1 2 = min at half
    generalize Binary64.ofInt maxSafeInteger = max at most
    exact ⟨half, most⟩
  · rw [isObject]
    exact ⟨trivial, trivial⟩

/-- Two objects with shares have one authoring text and unfold to one tree. -/
theorem authoring_text_determines_tree_shares :
    (sharedShares.WithinSentinels ∧ sharedShares.IsRepresentable) ∧
      (spreadShares.WithinSentinels ∧ spreadShares.IsRepresentable) ∧
      Authoring.render 0 sharedShares.rootShape = Authoring.render 0 spreadShares.rootShape ∧
      (sharedShares == spreadShares) = false ∧
      ∃ tree, sharedShares.Unfolds sharedShares.root tree ∧
        spreadShares.Unfolds spreadShares.root tree := by
  have shared : ∀ node ∈ sharedShares.nodes,
      node = shareNode ∨ ∃ fields, node.form = .object fields := by
    simp [sharedShares]
  have spread : ∀ node ∈ spreadShares.nodes,
      node = shareNode ∨ ∃ fields, node.form = .object fields := by
    simp [spreadShares]
  have sharedWithin : sharedShares.WithinSentinels :=
    fun node listed => (bounds_of_share (shared node listed)).1
  have sharedRepresentable : sharedShares.IsRepresentable :=
    fun node listed => (bounds_of_share (shared node listed)).2
  have spreadWithin : spreadShares.WithinSentinels :=
    fun node listed => (bounds_of_share (spread node listed)).1
  have spreadRepresentable : spreadShares.IsRepresentable :=
    fun node listed => (bounds_of_share (spread node listed)).2
  have same : Authoring.render 0 sharedShares.rootShape = Authoring.render 0 spreadShares.rootShape := by
    decide +kernel
  exact ⟨⟨sharedWithin, sharedRepresentable⟩, ⟨spreadWithin, spreadRepresentable⟩, same,
    by decide +kernel, authoring_text_determines_tree sharedWithin sharedRepresentable spreadWithin
      spreadRepresentable same⟩

example : Authoring.render 0 spreadShares.rootShape =
    "object(\x7b\n  first: nullable(float(\x7b min: 0.5 \x7d)).named(\"Share\"),\n" ++
      "  \"second share\": nullable(float(\x7b min: 0.5 \x7d)).named(\"Share\"),\n\x7d)" := by
  decide +kernel

end Schema
end Conformance
