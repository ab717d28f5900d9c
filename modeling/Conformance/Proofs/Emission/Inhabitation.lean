import Conformance.Proofs.Emission.EmittedType
import Conformance.Proofs.Verdict

namespace Conformance

/-!
# Accepted values belong to emitted types

A check and an emitted type walk over the same tree, each in its own way.  Whatever the
check accepts at a node belongs to the type of the node: the gate lets an absent value or
null pass only where the type has a word for it, and behind the gate every form holds what
its check accepts, if the types of its children hold what theirs accept.

What is emitted is a type only if it contains no carriage return, since a literal cannot
contain one and quoting does not escape it.

Nothing is said about the other direction.  Bounds of strings and numbers, for instance,
have no place in a type.
-/

/-! ## Values that are visited -/

namespace Value

theorem map_snd_indexedFrom (items : List Value) : ∀ position : Nat,
    (indexedFrom position items).map Prod.snd = items := by
  induction items with
  | nil =>
      intro position
      rfl
  | cons item rest inductionHypothesis =>
      intro position
      rw [indexedFrom, List.map_cons, inductionHypothesis]

theorem map_snd_indexed (items : List Value) : (indexed items).map Prod.snd = items :=
  map_snd_indexedFrom items 0

end Value

namespace Judgement

/-- Nothing is found in the items of a list exactly if nothing is found in any of them. -/
theorem each_indexed_eq_nil_iff (child : Judgement) (items : List Value) :
    child.each (Value.indexed items) = [] ↔ ∀ item ∈ items, child (some item) = [] := by
  have visited := List.forall_mem_map (f := Prod.snd) (l := Value.indexed items)
    (P := fun item => child (some item) = [])
  rw [Value.map_snd_indexed] at visited
  rw [each_eq_nil_iff, visited]

theorem positions_indexed_eq_nil_iff (children : List Judgement) (items : List Value) :
    positions children (Value.indexed items) = [] ↔
      ∀ pair ∈ children.zip items, pair.1 (some pair.2) = [] := by
  have visited : children.zip items =
      (children.zip (Value.indexed items)).map (Prod.map id Prod.snd) := by
    rw [← List.zip_map_right, Value.map_snd_indexed]
  rw [positions_eq_nil_iff, visited, List.forall_mem_map]
  exact Iff.rfl

theorem each_keyed_eq_nil_iff (child : Judgement) (entries : List (String × Value)) :
    child.each (Value.keyed entries) = [] ↔ ∀ entry ∈ entries, child (some entry.2) = [] := by
  rw [each_eq_nil_iff, Value.keyed, List.forall_mem_map]

/-- A leaf that finds nothing in a value does not take it for one of another shape. -/
theorem violation?_ne_wrongType {counting : Counting} {scalar : Leaf} {value : Value}
    (accepted : leaf counting scalar value = []) (described : scalar ≠ .unknown) :
    scalar.violation? value ≠ some .wrongType := by
  intro wrong
  rw [leaf, wrong] at accepted
  have reported : ∃ template, scalar.reported? counting .wrongType = some template := by
    cases scalar with
    | unknown => exact absurd rfl described
    | timestamp format => cases format <;> exact ⟨_, rfl⟩
    | _ => exact ⟨_, rfl⟩
  rcases reported with ⟨template, found⟩
  simp only [found] at accepted
  cases accepted

end Judgement

namespace Structural

/-! ## The gate -/

section

variable {header : Header} {type : TypeExpr} {value : Option Value}

theorem withKeyword_holds_of_type {keyword : Keyword} {added : Bool}
    (holds : TypeExpr.holds type value = true) :
    TypeExpr.holds (if added then withKeyword keyword type else type) value = true := by
  cases added with
  | false => exact holds
  | true =>
      rw [if_pos rfl, withKeyword]
      split
      · exact holds
      · exact TypeExpr.holds_append.mpr (.inl holds)

theorem withKeyword_holds_of_keyword {keyword : Keyword} (holds : keyword.holds value = true) :
    TypeExpr.holds (withKeyword keyword type) value = true := by
  have word : TypeExpr.holds [.keyword keyword] value = true := TypeExpr.holds_singleton.mpr holds
  rw [withKeyword]
  split
  case isTrue only =>
    rw [isOnly_iff.mp only]
    exact word
  case isFalse => exact TypeExpr.holds_append.mpr (.inr word)

/-- The type of a node holds what its form does. -/
theorem presenceType_holds_of_type (holds : TypeExpr.holds type value = true) :
    TypeExpr.holds (presenceType header type) value = true :=
  withKeyword_holds_of_type (withKeyword_holds_of_type holds)

/-- The type of a node that need not be there holds what `undefined` does. -/
theorem presenceType_holds_of_optional (optional : header.required = false)
    (holds : Keyword.undefined.holds value = true) :
    TypeExpr.holds (presenceType header type) value = true := by
  rw [presenceType, optional]
  exact withKeyword_holds_of_type (withKeyword_holds_of_keyword holds)

/-- The type of a nullable node holds null. -/
theorem presenceType_holds_null (nullable : header.nullable = true) :
    TypeExpr.holds (presenceType header type) (some .null) = true := by
  rw [presenceType, if_pos nullable]
  exact withKeyword_holds_of_keyword rfl

/-- What passes the gate of a node, and its form if the gate does not decide, belongs to
the type of the node if the type of the form holds what the form accepts. -/
theorem presenceType_holds {nullIsValue : Bool} {form : Value → List Finding}
    (inside : ∀ present : Value, form present = [] → TypeExpr.holds type (some present) = true)
    (accepted : Judgement.gated header.required header.nullable nullIsValue form value = []) :
    TypeExpr.holds (presenceType header type) value = true := by
  cases value with
  | none =>
      cases required : header.required with
      | true =>
          rw [required] at accepted
          cases accepted
      | false => exact presenceType_holds_of_optional required rfl
  | some present =>
      by_cases null : present = .null
      · rw [null] at accepted ⊢
        rcases (Judgement.gated_null_eq_nil_iff _ _ _ _).mp accepted with nullable | decided
        · exact presenceType_holds_null nullable
        · cases nullIsValue with
          | true => exact presenceType_holds_of_type (inside .null decided)
          | false => exact presenceType_holds_of_optional decided rfl
      · rw [Judgement.gated_of_ne_null _ _ _ _ null] at accepted
        exact presenceType_holds_of_type (inside present accepted)

end

/-! ## The forms -/

section

variable {counting : Counting} {mode : UnionMode}

/-- A byte of a buffer is an integer from 0 to 255. -/
theorem isOctet_of_isByte {value : Value} (byte : LeafCheck.isByte value = true) :
    isOctet value = true := by
  cases value with
  | number number =>
      cases number with
      | integer integer =>
          rw [LeafCheck.isByte, Number.toWord?] at byte
          split at byte
          case isTrue word =>
            have small : integer.toNat ≤ 255 := of_decide_eq_true byte
            rw [isOctet, Bool.and_eq_true, decide_eq_true_iff, decide_eq_true_iff]
            omega
          case isFalse => cases byte
      | real real => cases byte
  | _ => cases byte

/-- The type of a leaf holds what the leaf accepts. -/
theorem leafConstituent_holds {scalar : Leaf} {value : Value}
    (accepted : Judgement.leaf counting scalar value = []) :
    (leafConstituent scalar).holds (some value) = true := by
  by_cases anything : scalar = .unknown
  · rw [anything]
    rfl
  · have shaped := Judgement.violation?_ne_wrongType accepted anything
    cases scalar with
    | unknown => exact absurd rfl anything
    | undefined => exact absurd rfl shaped
    | exact expected =>
        cases value with
        | text found =>
            by_cases same : found = expected
            · exact beq_iff_eq.mpr same
            · exact absurd (by simp [Leaf.violation?, LeafCheck.expected?, Violation.refuteUnless,
                same]) shaped
        | _ => exact absurd rfl shaped
    | buffer length =>
        cases value with
        | list items =>
            by_cases bytes : items.all LeafCheck.isByte = true
            · exact List.all_eq_true.mpr fun item member =>
                isOctet_of_isByte (List.all_eq_true.mp bytes item member)
            · exact absurd (by simp only [Leaf.violation?, LeafCheck.buffer?, bytes,
                Bool.false_eq_true, if_false]) shaped
        | _ => exact absurd rfl shaped
    | _ =>
        -- Every other type looks at nothing but the shape of a value.
        cases value with
        | _ => first | rfl | exact absurd rfl shaped

/-- The type of a list holds the lists of an admitted length whose items the type of items
holds. -/
theorem listConstituent_holds {type : TypeExpr} {length : LengthBounds} {items : List Value}
    (admitted : length.contains items.length = true)
    (inside : ∀ item ∈ items, TypeExpr.holds type (some item) = true) :
    (listConstituent type length).holds (some (.list items)) = true := by
  rw [LengthBounds.contains, Bool.and_eq_true, decide_eq_true_iff, decide_eq_true_iff] at admitted
  have repeated : ∀ pair ∈ (List.replicate length.min type).zip items,
      TypeExpr.holds pair.1 (some pair.2) = true := by
    intro pair member
    rw [List.eq_of_mem_replicate (List.of_mem_zip member).1]
    exact inside pair.2 (List.of_mem_zip member).2
  have array := Constituent.array_holds_iff.mpr inside
  rw [listConstituent]
  split
  case isTrue => exact array
  case isFalse =>
    split
    case isTrue fixed =>
      have most : length.max = length.min := by
        rw [LengthBounds.upper?] at fixed
        split at fixed
        · exact Option.some.inj fixed
        · cases fixed
      have count : length.min = items.length := by omega
      exact Constituent.tuple_holds_iff.mpr ⟨List.length_replicate.trans count, repeated⟩
    case isFalse =>
      split
      case isTrue =>
        refine Constituent.openTuple_holds_iff.mpr ⟨?_, repeated, ?_⟩
        · rw [List.length_replicate]
          exact admitted.1
        · exact fun item member => inside item (List.mem_of_mem_drop member)
      case isFalse => exact array

/-- The type of a form holds what the form accepts, if the types of the children hold what
they accept. -/
theorem bareType_holds {form : Form Shape} (own : form.Proper)
    (children : ∀ child ∈ form.children, ∀ value : Option Value,
      child.judge .every mode value = [] → TypeExpr.holds (typeOf child) value = true)
    {value : Value} (accepted : (form.map (Shape.judge .every mode)).judge .every mode value = []) :
    TypeExpr.holds (bareType form) (some value) = true := by
  cases form with
  | leaf scalar => exact TypeExpr.holds_singleton.mpr (leafConstituent_holds accepted)
  | object fields =>
      cases value with
      | record entries =>
          have each := (Judgement.fields_eq_nil_iff _ entries).mp accepted
          rw [List.forall_mem_map] at each
          refine TypeExpr.holds_singleton.mpr (propertiesHold_iff.mpr ?_)
          rw [fieldTypes_eq_map, List.forall_mem_map]
          exact fun field listed =>
            children field.2 (List.mem_map_of_mem listed) _ (each field listed)
      | _ => cases accepted
  | array item length =>
      cases value with
      | list items =>
          rw [Form.map, Form.judge] at accepted
          split at accepted
          case isTrue admitted =>
            have each := (Judgement.each_indexed_eq_nil_iff _ items).mp accepted
            exact TypeExpr.holds_singleton.mpr (listConstituent_holds admitted
              fun value member => children item List.mem_cons_self _ (each value member))
          case isFalse => cases accepted
      | _ => cases accepted
  | tuple shapes =>
      cases value with
      | list items =>
          rw [Form.map, Form.judge] at accepted
          split at accepted
          case isTrue fits =>
            have each := (Judgement.positions_indexed_eq_nil_iff _ items).mp accepted
            rw [List.zip_map_left, List.forall_mem_map] at each
            refine TypeExpr.holds_singleton.mpr (Constituent.tuple_holds_iff.mpr ?_)
            rw [typesOf_eq_map, List.zip_map_left, List.forall_mem_map]
            refine ⟨?_, fun pair member =>
              children pair.1 (List.of_mem_zip member).1 _ (each pair member)⟩
            rw [List.length_map, fits, List.length_map]
          case isFalse => cases accepted
      | _ => cases accepted
  | record child keys =>
      cases value with
      | record entries =>
          rw [Form.map, Form.judge] at accepted
          split at accepted
          case isTrue =>
            have each := (Judgement.each_keyed_eq_nil_iff _ entries).mp accepted
            exact TypeExpr.holds_singleton.mpr (Constituent.record_holds_iff.mpr
              fun entry member => children child List.mem_cons_self _ (each entry member))
          case isFalse => cases accepted
      | _ => cases accepted
  | union alternatives =>
      have some? : (alternatives.map (Shape.judge .every mode)).map (· (some value)) ≠ [] :=
        mt List.map_eq_nil_iff.mp (mt List.map_eq_nil_iff.mp own)
      have silent := (Judgement.union_eq_nil_iff mode value some?).mp accepted
      rw [List.map_map] at silent
      rcases List.mem_map.mp silent with ⟨child, listed, nothing⟩
      have held := children child listed _ nothing
      rcases TypeExpr.holds_iff.mp held with ⟨constituent, member, holds⟩
      refine TypeExpr.holds_iff.mpr ⟨constituent, ?_, holds⟩
      rw [bareType, typesOf_eq_map]
      exact List.mem_flatten.mpr ⟨typeOf child, List.mem_map_of_mem listed, member⟩

end

/-- What a tree accepts belongs to its type. -/
theorem typeOf_holds {mode : UnionMode} {shape : Shape} (proper : shape.Proper) :
    ∀ value : Option Value, shape.judge .every mode value = [] →
      TypeExpr.holds (typeOf shape) value = true := by
  induction proper with
  | node header form own children inductionHypothesis =>
      intro value accepted
      rw [Shape.judge_node] at accepted
      exact presenceType_holds (fun present => bareType_holds own inductionHypothesis) accepted

end Structural

namespace Schema

/-- Accepted values inhabit emitted types: what is emitted for a node, at any level of
indentation, is read as a type that holds every value that a check accepts at the node, be the
value absent or not, as long as what is emitted contains no carriage return.  It contains none if
no exact string and no name of a field does; with one it is no type at all. -/
theorem accepted_inhabits (schema : Schema) (mode : UnionMode) (id : NodeId) (level : Nat)
    {value : Option Value} (accepted : schema.Accepts mode id value) :
    ((∃ type, Structural.read? (Structural.expression level (schema.shape id)) = some type ∧
        Structural.TypeExpr.holds type value = true) ↔
      '\r' ∉ (Structural.expression level (schema.shape id)).toList) ∧
    ((∀ text, Structural.Quotes text (schema.shape id) → '\r' ∉ text.toList) →
      '\r' ∉ (Structural.expression level (schema.shape id)).toList) := by
  have proper := schema.shape_proper id
  have read := Structural.read?_expression proper level
  have holds := Structural.typeOf_holds proper value ((schema.accepts_iff mode value id).mp accepted)
  refine ⟨⟨?written, ?inhabited⟩, Structural.noReturn_expression (schema.shape id) level⟩
  case written =>
    rintro ⟨type, found, _⟩ carriage
    rw [read, if_pos carriage] at found
    cases found
  case inhabited =>
    intro noReturn
    rw [if_neg noReturn] at read
    exact ⟨Structural.typeOf (schema.shape id), read, holds⟩

/-- A list of two nicknames at least, of which some may be null. -/
def nicknames : Schema :=
  ⟨#[⟨.leaf (.string .unbounded), true, true, none, none⟩,
      ⟨.array 0 (.ofOptions (some 2) none), true, false, none, none⟩],
    1, by decide, by decide⟩

/-- A list of nicknames with a null inside belongs to an open tuple. -/
theorem accepted_inhabits_nicknames :
    nicknames.Accepts .all 1 (some (.list [.text "Bo", .null, .text "Bobby"])) ∧
    ∃ type, Structural.read? "[string | null, string | null, ...Array<string | null>]" = some type ∧
      Structural.TypeExpr.holds type (some (.list [.text "Bo", .null, .text "Bobby"])) = true := by
  have accepted : nicknames.Accepts .all 1 (some (.list [.text "Bo", .null, .text "Bobby"])) := by
    decide +kernel
  have text : Structural.expression 0 (nicknames.shape 1) =
      "[string | null, string | null, ...Array<string | null>]" := by decide +kernel
  have inhabits := accepted_inhabits nicknames .all 1 0 accepted
  rw [text] at inhabits
  exact ⟨accepted, inhabits.1.mpr (by decide +kernel)⟩

/-- One text that contains a carriage return. -/
def carriageReturn : Schema := ⟨#[⟨.leaf (.exact "a\rb"), true, false, none, none⟩], 0, by decide, by decide⟩

/-- A text with a carriage return is accepted where it is expected, but belongs to no type: what
is emitted there is none. -/
theorem return_inhabits_nothing :
    carriageReturn.Accepts .all 0 (some (.text "a\rb")) ∧
    Structural.expression 0 (carriageReturn.shape 0) = "'a\rb'" ∧
    Structural.read? "'a\rb'" = none ∧
    ¬ ∀ (schema : Schema) (mode : UnionMode) (id : NodeId) (level : Nat) (value : Option Value),
      schema.Accepts mode id value →
        ∃ type, Structural.read? (Structural.expression level (schema.shape id)) = some type ∧
          Structural.TypeExpr.holds type value = true := by
  have accepted : carriageReturn.Accepts .all 0 (some (.text "a\rb")) := by decide +kernel
  have text : Structural.expression 0 (carriageReturn.shape 0) = "'a\rb'" := by decide +kernel
  have unread : Structural.read? "'a\rb'" = none := by decide +kernel
  refine ⟨accepted, text, unread, fun always => ?_⟩
  rcases always carriageReturn .all 0 0 _ accepted with ⟨type, read, _⟩
  rw [text, unread] at read
  cases read

end Schema
end Conformance
