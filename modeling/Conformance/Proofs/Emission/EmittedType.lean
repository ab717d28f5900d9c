import Conformance.Proofs.Emission.TypeReader
import Conformance.Proofs.Schema.Tree

namespace Conformance
namespace Structural

/-!
# The type that is emitted for a node

The emitter puts texts together.  Here the types behind these texts are put together in the
same way, and the text of a node turns out to be that of its type.

The only place where the emitter looks at a text is the presence of a node: the word for
an absent value is added unless the text is just that word.  Since a word stands for one
type, this is a question about the type.

A carriage return in what is emitted comes from an exact string or from the name of a field.
-/

/-! ## Parts of proper types -/

/-- A constituent is proper if its parts are. -/
theorem Constituent.Proper.of_parts {constituent : Constituent}
    (started : ∀ rest, constituent ≠ .openTuple [] rest)
    (parts : ∀ type ∈ constituent.parts, TypeExpr.Proper type) : constituent.Proper :=
  .intro constituent started (fun type member => (parts type member).nonempty)
    fun type member => (parts type member).each

theorem Constituent.Proper.of_keyword (keyword : Keyword) : (Constituent.keyword keyword).Proper :=
  .of_parts (by simp) (fun type member => nomatch member)

namespace TypeExpr.Proper

variable {type other : TypeExpr}

theorem singleton {constituent : Constituent} (proper : constituent.Proper) :
    TypeExpr.Proper [constituent] :=
  ⟨List.cons_ne_nil _ _, List.forall_mem_singleton.mpr proper⟩

/-- A proper type may be extended. -/
theorem append (proper : TypeExpr.Proper type) (each : ∀ constituent ∈ other, constituent.Proper) :
    TypeExpr.Proper (type ++ other) :=
  ⟨List.append_ne_nil_of_left_ne_nil proper.nonempty other,
    List.forall_mem_append.mpr ⟨proper.each, each⟩⟩

/-- The union of some proper types. -/
theorem flatten {types : List TypeExpr} (nonempty : types ≠ [])
    (each : ∀ type ∈ types, TypeExpr.Proper type) : TypeExpr.Proper types.flatten := by
  constructor
  · rcases List.exists_mem_of_ne_nil types nonempty with ⟨type, member⟩
    intro empty
    exact (each type member).nonempty (List.flatten_eq_nil_iff.mp empty type member)
  · intro constituent member
    rcases List.mem_flatten.mp member with ⟨type, listed, inside⟩
    exact (each type listed).each constituent inside

end TypeExpr.Proper

/-! ## The text of a union -/

namespace TypeExpr

variable {level : Nat} {type other : TypeExpr}

theorem render_append (nonempty : type ≠ []) (others : other ≠ []) :
    render level (type ++ other) = render level type ++ " | " ++ render level other := by
  rw [render, render, render, renderEach_eq_map, renderEach_eq_map, renderEach_eq_map,
    List.map_append]
  exact String.intercalate_append_of_ne_nil (mt List.map_eq_nil_iff.mp nonempty)
    (mt List.map_eq_nil_iff.mp others)

theorem render_singleton (constituent : Constituent) :
    render level [constituent] = constituent.render level :=
  String.intercalate_singleton

/-- A union of unions is one union. -/
theorem render_flatten {types : List TypeExpr} (nonempty : ∀ type ∈ types, type ≠ []) :
    render level types.flatten = " | ".intercalate (types.map (render level)) := by
  induction types with
  | nil => rfl
  | cons type rest inductionHypothesis =>
      rw [List.forall_mem_cons] at nonempty
      have later := inductionHypothesis nonempty.2
      cases rest with
      | nil =>
          rw [List.flatten_singleton, List.map_singleton, String.intercalate_singleton]
      | cons next others =>
          have remaining : (next :: others).flatten ≠ [] := by
            intro empty
            exact nonempty.2 next List.mem_cons_self
              (List.flatten_eq_nil_iff.mp empty next List.mem_cons_self)
          rw [List.flatten_cons, render_append nonempty.1 remaining, later]
          exact (String.intercalate_cons_of_ne_nil (List.cons_ne_nil _ _)).symm

end TypeExpr

/-- Whether a type is just a word. -/
def isOnly (keyword : Keyword) : TypeExpr → Bool
  | [.keyword only] => only == keyword
  | _ => false

theorem isOnly_iff {keyword : Keyword} {type : TypeExpr} :
    isOnly keyword type = true ↔ type = [.keyword keyword] := by
  constructor
  · intro only
    unfold isOnly at only
    split at only
    case h_1 other => rw [beq_iff_eq.mp only]
    case h_2 => cases only
  · rintro rfl
    exact beq_self_eq_true keyword

/-- The text of a type is a word exactly when the type is. -/
theorem render_eq_name_iff (level : Nat) {type : TypeExpr} (proper : TypeExpr.Proper type)
    (keyword : Keyword) :
    TypeExpr.render level type = keyword.name ↔ isOnly keyword type = true := by
  have text : TypeExpr.render level [.keyword keyword] = keyword.name :=
    TypeExpr.render_singleton (.keyword keyword)
  have noReturn : '\r' ∉ keyword.name.toList := by cases keyword <;> decide
  have word := (TypeExpr.Proper.singleton (.of_keyword keyword)).read?_render level
  rw [text, if_neg noReturn] at word
  rw [isOnly_iff]
  constructor
  · intro same
    have whole := proper.read?_render level
    rw [same, if_neg noReturn, word] at whole
    exact (Option.some.inj whole).symm
  · rintro rfl
    exact text

/-! ## Types of nodes -/

/-- The type of a leaf. -/
def leafConstituent : Leaf → Constituent
  | .string _ | .date | .timestamp _ | .pattern _ => .keyword .string
  | .integer _ | .real _ => .keyword .number
  | .boolean => .keyword .boolean
  | .null => .keyword .null
  | .undefined => .keyword .undefined
  | .unknown => .keyword .unknown
  | .buffer _ => .keyword .buffer
  | .exact expected => .literal expected

/-- The type of a list. -/
def listConstituent (item : TypeExpr) (length : LengthBounds) : Constituent :=
  if maxUnrolled < length.min then .array item
  else if length.upper? = some length.min then .tuple (List.replicate length.min item)
  else if 0 < length.min then .openTuple (List.replicate length.min item) item
  else .array item

/-- A type with a word added to it, unless it is just that word. -/
def withKeyword (keyword : Keyword) (type : TypeExpr) : TypeExpr :=
  if isOnly keyword type then type else type ++ [.keyword keyword]

/-- A type with the alternatives for an absent value and for null. -/
def presenceType (header : Header) (type : TypeExpr) : TypeExpr :=
  let type := if !header.required then withKeyword .undefined type else type
  if header.nullable then withKeyword .null type else type

mutual

/-- The type of a node. -/
def typeOf : Shape → TypeExpr
  | .node header form => presenceType header (bareType form)

/-- The type of a node without the alternatives of its presence. -/
def bareType : Form Shape → TypeExpr
  | .leaf scalar => [leafConstituent scalar]
  | .object fields => [.object (fieldTypes fields)]
  | .array item length => [listConstituent (typeOf item) length]
  | .tuple items => [.tuple (typesOf items)]
  | .record value _ => [.record (typeOf value)]
  | .union alternatives => (typesOf alternatives).flatten

/-- The types of the fields of an object. -/
def fieldTypes : List (String × Shape) → List (String × TypeExpr)
  | [] => []
  | (name, shape) :: rest => (name, typeOf shape) :: fieldTypes rest

/-- The types of some nodes. -/
def typesOf : List Shape → List TypeExpr
  | [] => []
  | shape :: rest => typeOf shape :: typesOf rest

end

theorem typesOf_eq_map (shapes : List Shape) : typesOf shapes = shapes.map typeOf := by
  induction shapes with
  | nil => rfl
  | cons shape rest inductionHypothesis => rw [typesOf, inductionHypothesis, List.map_cons]

theorem fieldTypes_eq_map (fields : List (String × Shape)) :
    fieldTypes fields = fields.map fun (name, shape) => (name, typeOf shape) := by
  induction fields with
  | nil => rfl
  | cons field rest inductionHypothesis => rw [fieldTypes, inductionHypothesis, List.map_cons]

/-! ## The types of nodes are proper -/

theorem leafConstituent_proper (scalar : Leaf) : (leafConstituent scalar).Proper :=
  .of_parts (by cases scalar <;> simp [leafConstituent])
    (by cases scalar <;> exact fun type member => nomatch member)

theorem listConstituent_proper {item : TypeExpr} (proper : TypeExpr.Proper item)
    (length : LengthBounds) : (listConstituent item length).Proper := by
  have array : (Constituent.array item).Proper :=
    .of_parts (by simp) (List.forall_mem_singleton.mpr proper)
  have repeated : ∀ type ∈ List.replicate length.min item, TypeExpr.Proper type := by
    intro type member
    rw [List.eq_of_mem_replicate member]
    exact proper
  rw [listConstituent]
  split
  case isTrue => exact array
  case isFalse =>
    split
    case isTrue => exact .of_parts (by simp) repeated
    case isFalse =>
      split
      case isTrue some? =>
        refine .of_parts ?_ (List.forall_mem_append.mpr
          ⟨repeated, List.forall_mem_singleton.mpr proper⟩)
        intro rest same
        have empty := (Constituent.openTuple.inj same).1
        rw [List.replicate_eq_nil_iff] at empty
        exact Nat.ne_of_gt some? empty
      case isFalse => exact array

theorem withKeyword_proper {type : TypeExpr} (proper : TypeExpr.Proper type) (keyword : Keyword)
    (added : Bool) : TypeExpr.Proper (if added then withKeyword keyword type else type) := by
  cases added with
  | false => exact proper
  | true =>
      rw [if_pos rfl, withKeyword]
      split
      · exact proper
      · exact proper.append (List.forall_mem_singleton.mpr (.of_keyword keyword))

theorem presenceType_proper {type : TypeExpr} (proper : TypeExpr.Proper type) (header : Header) :
    TypeExpr.Proper (presenceType header type) :=
  withKeyword_proper (withKeyword_proper proper .undefined (!header.required)) .null header.nullable

theorem bareType_proper {form : Form Shape} (own : form.Proper)
    (children : ∀ child ∈ form.children, TypeExpr.Proper (typeOf child)) :
    TypeExpr.Proper (bareType form) := by
  cases form with
  | leaf scalar => exact .singleton (leafConstituent_proper scalar)
  | object fields =>
      refine .singleton (.of_parts (by simp) ?_)
      rw [fieldTypes_eq_map, Constituent.parts, List.map_map]
      intro type member
      rcases List.mem_map.mp member with ⟨field, listed, rfl⟩
      exact children field.2 (List.mem_map_of_mem listed)
  | array item length =>
      exact .singleton (listConstituent_proper (children item List.mem_cons_self) length)
  | tuple items =>
      refine .singleton (.of_parts (by simp) ?_)
      rw [typesOf_eq_map, Constituent.parts, List.forall_mem_map]
      exact children
  | record value keys =>
      exact .singleton (.of_parts (by simp)
        (List.forall_mem_singleton.mpr (children value List.mem_cons_self)))
  | union alternatives =>
      rw [bareType, typesOf_eq_map]
      exact .flatten (mt List.map_eq_nil_iff.mp own) (List.forall_mem_map.mpr children)

/-- The type of a proper node is proper. -/
theorem typeOf_proper {shape : Shape} (proper : shape.Proper) : TypeExpr.Proper (typeOf shape) := by
  induction proper with
  | node header form own children inductionHypothesis =>
      exact presenceType_proper (bareType_proper own inductionHypothesis) header

/-! ## The text of a node is that of its type -/

theorem leafType_eq_render (level : Nat) (scalar : Leaf) :
    leafType scalar = (leafConstituent scalar).render level := by
  cases scalar <;> rfl

/-- The written items of a list are the written positions of a tuple. -/
theorem unrolled_eq_render (level : Nat) (item : TypeExpr) (count : Nat) :
    unrolled (TypeExpr.render level item) count =
      ", ".intercalate (renderTypes level (List.replicate count item)) := by
  rw [unrolled, renderTypes_eq_map, List.map_replicate]

theorem listType_eq_render (level : Nat) (item : TypeExpr) (length : LengthBounds) :
    listType (TypeExpr.render level item) length = (listConstituent item length).render level := by
  rw [listType, listConstituent]
  simp only [unrolled_eq_render]
  split
  · rfl
  · split
    · rfl
    · split <;> rfl

/-- A word is added to a text where it is added to its type. -/
theorem withKeyword_render (level : Nat) {type : TypeExpr} (proper : TypeExpr.Proper type)
    (keyword : Keyword) (added : Bool) :
    (if added && TypeExpr.render level type != keyword.name
      then TypeExpr.render level type ++ (" | " ++ keyword.name)
      else TypeExpr.render level type) =
      TypeExpr.render level (if added then withKeyword keyword type else type) := by
  cases added with
  | false => rfl
  | true =>
      rw [Bool.true_and, if_pos rfl, withKeyword]
      by_cases only : isOnly keyword type = true
      · have same := (render_eq_name_iff level proper keyword).mpr only
        rw [if_pos only, if_neg (by simp [same])]
      · have differs := mt (render_eq_name_iff level proper keyword).mp only
        rw [if_neg only, if_pos (bne_iff_ne.mpr differs),
          TypeExpr.render_append proper.nonempty (List.cons_ne_nil _ _),
          TypeExpr.render_singleton, String.append_assoc]
        rfl

theorem withPresence_render {level : Nat} {type : TypeExpr} (proper : TypeExpr.Proper type)
    (header : Header) :
    withPresence header (TypeExpr.render level type) =
      TypeExpr.render level (presenceType header type) := by
  have present := withKeyword_proper proper .undefined (!header.required)
  have undefined := withKeyword_render level proper .undefined (!header.required)
  have null := withKeyword_render level present .null header.nullable
  rw [← undefined] at null
  exact null

/-- The texts of the fields of an object are the lines of its properties. -/
theorem properties_eq_render {level : Nat} {fields : List (String × Shape)}
    (each : ∀ child ∈ fields.map Prod.snd,
      expression level child = TypeExpr.render level (typeOf child)) :
    properties level fields = renderProperties level (fieldTypes fields) := by
  induction fields with
  | nil => rfl
  | cons field rest inductionHypothesis =>
      rw [List.map_cons, List.forall_mem_cons] at each
      rw [properties, fieldTypes, renderProperties_cons, each.1, inductionHypothesis each.2]

/-- The texts of some nodes are those of their types. -/
theorem expressions_eq_render {level : Nat} {shapes : List Shape}
    (each : ∀ child ∈ shapes, expression level child = TypeExpr.render level (typeOf child)) :
    expressions level shapes = (typesOf shapes).map (TypeExpr.render level) := by
  induction shapes with
  | nil => rfl
  | cons shape rest inductionHypothesis =>
      rw [List.forall_mem_cons] at each
      rw [expressions, typesOf, List.map_cons, each.1, inductionHypothesis each.2]

/-- The text of a node without the alternatives of its presence, from the texts of its
children. -/
theorem bare_eq_render {form : Form Shape}
    (types : ∀ child ∈ form.children, TypeExpr.Proper (typeOf child))
    (each : ∀ child ∈ form.children, ∀ level : Nat,
      expression level child = TypeExpr.render level (typeOf child)) (level : Nat) :
    bare level form = TypeExpr.render level (bareType form) := by
  cases form with
  | leaf scalar =>
      rw [bareType, TypeExpr.render_singleton]
      exact leafType_eq_render level scalar
  | object fields =>
      cases fields with
      | nil => rfl
      | cons field rest =>
          rcases field with ⟨name, shape⟩
          have lines := properties_eq_render fun child member => each child member (level + 1)
          calc
            bare level (.object ((name, shape) :: rest)) =
                "\x7b\n" ++ properties (level + 1) ((name, shape) :: rest) ++ indent level ++
                  "\x7d" := rfl
            _ = (Constituent.object (fieldTypes ((name, shape) :: rest))).render level := by
              rw [lines]
              rfl
            _ = TypeExpr.render level (bareType (.object ((name, shape) :: rest))) :=
              (TypeExpr.render_singleton _).symm
  | array item length =>
      calc
        bare level (.array item length) = listType (expression level item) length := rfl
        _ = (listConstituent (typeOf item) length).render level := by
          rw [each item List.mem_cons_self, listType_eq_render]
        _ = TypeExpr.render level (bareType (.array item length)) :=
          (TypeExpr.render_singleton _).symm
  | tuple items =>
      have texts := expressions_eq_render fun child member => each child member level
      calc
        bare level (.tuple items) = "[" ++ ", ".intercalate (expressions level items) ++ "]" := rfl
        _ = (Constituent.tuple (typesOf items)).render level := by
          rw [Constituent.render_tuple]
          exact congrArg (fun parts => "[" ++ ", ".intercalate parts ++ "]") texts
        _ = TypeExpr.render level (bareType (.tuple items)) := (TypeExpr.render_singleton _).symm
  | record value keys =>
      calc
        bare level (.record value keys) =
            "Record<string, " ++ expression level value ++ ">" := rfl
        _ = (Constituent.record (typeOf value)).render level := by
          rw [each value List.mem_cons_self, Constituent.render_record]
        _ = TypeExpr.render level (bareType (.record value keys)) :=
          (TypeExpr.render_singleton _).symm
  | union alternatives =>
      have texts := expressions_eq_render fun child member => each child member level
      have nonempty : ∀ type ∈ typesOf alternatives, type ≠ [] := by
        rw [typesOf_eq_map, List.forall_mem_map]
        exact fun child member => (types child member).nonempty
      calc
        bare level (.union alternatives) = " | ".intercalate (expressions level alternatives) := rfl
        _ = " | ".intercalate ((typesOf alternatives).map (TypeExpr.render level)) :=
          congrArg (" | ".intercalate) texts
        _ = TypeExpr.render level (bareType (.union alternatives)) :=
          (TypeExpr.render_flatten nonempty).symm

/-- The text of a node is that of its type. -/
theorem expression_eq_render {shape : Shape} (proper : shape.Proper) : ∀ level : Nat,
    expression level shape = TypeExpr.render level (typeOf shape) := by
  induction proper with
  | node header form own children inductionHypothesis =>
      intro level
      have types : ∀ child ∈ form.children, TypeExpr.Proper (typeOf child) :=
        fun child member => typeOf_proper (children child member)
      rw [expression, typeOf, bare_eq_render types inductionHypothesis,
        withPresence_render (bareType_proper own types)]

/-- What is emitted for a node is read as its type, unless a carriage return is written. -/
theorem read?_expression {shape : Shape} (proper : shape.Proper) (level : Nat) :
    read? (expression level shape) =
      if '\r' ∈ (expression level shape).toList then none else some (typeOf shape) := by
  rw [expression_eq_render proper]
  exact (typeOf_proper proper).read?_render level

/-! ## Carriage returns -/

/-- A text stands in a tree, as an exact string or as the name of a field. -/
inductive Quotes (text : String) : Shape → Prop where
  | exact (header : Header) : Quotes text (.node header (.leaf (.exact text)))
  | field (header : Header) {fields : List (String × Shape)}
      (listed : text ∈ fields.map Prod.fst) : Quotes text (.node header (.object fields))
  | inside (header : Header) {form : Form Shape} {child : Shape} (listed : child ∈ form.children)
      (quotes : Quotes text child) : Quotes text (.node header form)

section

variable {first second : String}

theorem noReturn_append (left : '\r' ∉ first.toList) (right : '\r' ∉ second.toList) :
    '\r' ∉ (first ++ second).toList := by
  rw [String.toList_append, List.mem_append]
  exact not_or.mpr ⟨left, right⟩

theorem noReturn_intercalate {parts : List String} (between : '\r' ∉ first.toList)
    (each : ∀ part ∈ parts, '\r' ∉ part.toList) : '\r' ∉ (first.intercalate parts).toList := by
  induction parts with
  | nil => exact List.not_mem_nil
  | cons part rest inductionHypothesis =>
      rw [List.forall_mem_cons] at each
      cases rest with
      | nil =>
          rw [String.intercalate_singleton]
          exact each.1
      | cons next others =>
          rw [String.intercalate_cons_cons]
          exact noReturn_append (noReturn_append each.1 between) (inductionHypothesis each.2)

theorem noReturn_key (kept : '\r' ∉ first.toList) : '\r' ∉ (key first).toList := by
  rw [key]
  split
  · exact kept
  · rwa [return_mem_quote_iff]

theorem noReturn_indent (level : Nat) : '\r' ∉ (indent level).toList := by
  rw [indent, String.toList_ofList]
  exact fun member => absurd (List.eq_of_mem_replicate member) (by decide)

theorem noReturn_withPresence (header : Header) (kept : '\r' ∉ first.toList) :
    '\r' ∉ (withPresence header first).toList := by
  have extended {text word : String} (added : Bool) (textKept : '\r' ∉ text.toList)
      (wordKept : '\r' ∉ word.toList) : '\r' ∉ (if added then text ++ word else text).toList := by
    cases added with
    | false => exact textKept
    | true => exact noReturn_append textKept wordKept
  exact extended _ (extended _ kept (by decide)) (by decide)

theorem noReturn_listType (length : LengthBounds) (kept : '\r' ∉ first.toList) :
    '\r' ∉ (listType first length).toList := by
  have array : '\r' ∉ ("Array<" ++ first ++ ">").toList :=
    noReturn_append (noReturn_append (by decide) kept) (by decide)
  have unrolled : '\r' ∉ (unrolled first length.min).toList :=
    noReturn_intercalate (by decide) fun part member => (List.eq_of_mem_replicate member) ▸ kept
  rw [listType]
  split
  · exact array
  · split
    · exact noReturn_append (noReturn_append (by decide) unrolled) (by decide)
    · split
      · exact noReturn_append (noReturn_append (noReturn_append (noReturn_append (by decide)
          unrolled) (by decide)) kept) (by decide)
      · exact array

end

theorem noReturn_expressions {level : Nat} {shapes : List Shape}
    (each : ∀ child ∈ shapes, '\r' ∉ (expression level child).toList) :
    ∀ text ∈ expressions level shapes, '\r' ∉ text.toList := by
  induction shapes with
  | nil => exact fun text member => nomatch member
  | cons shape rest inductionHypothesis =>
      rw [List.forall_mem_cons] at each
      exact List.forall_mem_cons.mpr ⟨each.1, inductionHypothesis each.2⟩

theorem noReturn_properties (level : Nat) {fields : List (String × Shape)}
    (names : ∀ name ∈ fields.map Prod.fst, '\r' ∉ name.toList)
    (each : ∀ child ∈ fields.map Prod.snd, '\r' ∉ (expression level child).toList) :
    '\r' ∉ (properties level fields).toList := by
  induction fields with
  | nil => exact List.not_mem_nil
  | cons field rest inductionHypothesis =>
      rcases field with ⟨name, shape⟩
      rw [List.map_cons, List.forall_mem_cons] at names each
      have named := noReturn_append (noReturn_indent level) (noReturn_key names.1)
      have colon : '\r' ∉ ": ".toList := by decide
      have typed := noReturn_append (noReturn_append named colon) each.1
      exact noReturn_append (noReturn_append typed (by decide)) (inductionHypothesis names.2 each.2)

/-- No carriage return is emitted for a tree in which none is quoted. -/
theorem noReturn_expression (shape : Shape) : ∀ level : Nat,
    (∀ text, Quotes text shape → '\r' ∉ text.toList) →
      '\r' ∉ (expression level shape).toList := by
  induction shape using Shape.induction with
  | node header form inductionHypothesis =>
      intro level quoted
      have each : ∀ (inner : Nat), ∀ child ∈ form.children,
          '\r' ∉ (expression inner child).toList :=
        fun inner child listed => inductionHypothesis child listed inner
          fun text quotes => quoted text (.inside header listed quotes)
      refine noReturn_withPresence header ?_
      cases form with
      | leaf scalar =>
          cases scalar with
          | exact expected =>
              exact (return_mem_quote_iff expected).not.mpr (quoted expected (.exact header))
          | _ =>
              unfold bare
              simp only [leafType]
              decide
      | object fields =>
          cases fields with
          | nil =>
              unfold bare
              decide
          | cons field rest =>
              have lines := noReturn_properties (level + 1)
                (fun name listed => quoted name (.field header listed)) (each (level + 1))
              exact noReturn_append (noReturn_append (noReturn_append (by decide) lines)
                (noReturn_indent level)) (by decide)
      | array item length => exact noReturn_listType length (each level item List.mem_cons_self)
      | tuple items =>
          have inside := noReturn_expressions (each level)
          exact noReturn_append (noReturn_append (by decide)
            (noReturn_intercalate (by decide) inside)) (by decide)
      | record value keys =>
          exact noReturn_append (noReturn_append (by decide) (each level value List.mem_cons_self))
            (by decide)
      | union alternatives =>
          exact noReturn_intercalate (by decide) (noReturn_expressions (each level))

end Structural
end Conformance
