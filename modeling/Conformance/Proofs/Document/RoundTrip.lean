import Conformance.Document.Lowering
import Conformance.Proofs.Document.Slots
import Conformance.Proofs.Json.Integers
import Conformance.Proofs.Json.RoundTrip

namespace Conformance

/-!
# Documents survive JSON

A document that is printed as JSON is read as the same document.  This takes documents that
can be written in the first place: counts are unsigned words and integers signed ones, reals
are finite, an object names each of its fields once, and the text is not nested deeper than
the reader goes.  Of the reals it is also assumed that each by itself is read back, because
the reader of JSON numbers can miss a real by a unit in its last place.
-/

namespace Description

variable {Child : Type}

/-- The children of a node. -/
def children : Description Child → List Child
  | .object fields => fields.map Prod.snd
  | .array child _ _ | .record child _ _ => [child]
  | .tuple items => items
  | .union anyOf => anyOf
  | _ => []

/-- The bounds that are counts. -/
def counts : Description Child → List Nat
  | .string min max | .buffer min max | .array _ min max | .record _ min max =>
      min.toList ++ max.toList
  | _ => []

/-- The bounds that are integers. -/
def integers : Description Child → List Int
  | .integer min max => min.toList ++ max.toList
  | _ => []

/-- The bounds that are reals. -/
def reals : Description Child → List Binary64
  | .float min max => min.toList ++ max.toList
  | _ => []

/-- The names of the fields. -/
def fieldNames : Description Child → List String
  | .object fields => fields.map Prod.fst
  | _ => []

/-- What a node can say: its counts are unsigned words, its integers signed ones, its reals are
finite, and its fields have different names. -/
structure Writable (description : Description Child) : Prop where
  counts_le : ∀ count ∈ description.counts, count ≤ Number.wordMax
  integers_within : ∀ value ∈ description.integers, Number.signedMin ≤ value ∧ value ≤ Number.signedMax
  reals_finite : ∀ value ∈ description.reals, value.isFinite = true
  fieldNames_nodup : description.fieldNames.Nodup

/-- The reals of a node are read back from their own texts. -/
def RealsReadBack (description : Description Child) : Prop :=
  ∀ value ∈ description.reals, Json.Token.ReadsBack (.real value)

end Description

namespace Document

/-- What holds of every node of a document. -/
inductive Everywhere (holds : Description Document → Prop) : Document → Prop where
  | node (marks : Marks) {description : Description Document} (here : holds description)
      (below : ∀ child ∈ description.children, Everywhere holds child) :
      Everywhere holds (.node marks description)

/-! ## Reading the slots of a kind -/

section

variable {Target : Type} {read? : Datum → Option Target} {datum : Target → Datum} {slots : Slots}
variable {position : Nat} {name : String}

/-- A field that may be missing is read back, if a value of it is. -/
theorem field?_entries {value? : Option Target}
    (only : slots.ofSort (Datum.isField position name) = [(name, value?.map datum)])
    (reads : ∀ value ∈ value?.toList, Entries.optional? read? (some (datum value)) = some (some value)) :
    slots.entries.field? read? position name = some value? := by
  rw [Entries.field?, Slots.once?_entries only]
  cases value? with
  | none => rfl
  | some value => exact reads value List.mem_cons_self

/-- A field that has to be there is read. -/
theorem required?_entries {value : Datum}
    (only : slots.ofSort (Datum.isField position name) = [(name, some value)]) :
    slots.entries.required? read? position name = read? value := by
  rw [Entries.required?, Slots.once?_entries only]
  rfl

end

theorem optional?_count {count : Nat} (fits : count ≤ Number.wordMax) :
    Entries.optional? Datum.word? (some (.ofTree (wordTree count))) = some (some count) := by
  have within : (0 : Int) ≤ count ∧ (count : Int) ≤ Number.wordMax :=
    ⟨Int.natCast_nonneg count, Int.ofNat_le.mpr fits⟩
  change ((if (0 : Int) ≤ count ∧ (count : Int) ≤ Number.wordMax then some (count : Int).toNat
    else none).map some) = some (some count)
  rw [if_pos within]
  rfl

theorem optional?_integer {value : Int}
    (within : Number.signedMin ≤ value ∧ value ≤ Number.signedMax) :
    Entries.optional? Datum.signed? (some (.ofTree (signedTree value))) = some (some value) := by
  change ((if Number.signedMin ≤ value ∧ value ≤ Number.signedMax then some value
    else none).map some) = some (some value)
  rw [if_pos within]
  rfl

theorem optional?_real {value : Binary64} (finite : value.isFinite = true) :
    Entries.optional? Datum.real? (some (.ofTree (realTree value))) = some (some value) := by
  rw [realTree, if_pos finite]
  rfl

/-- A field with a new name comes last. -/
theorem putField_eq {name : String} {child : Document} {before : List (String × Document)}
    (new : name ∉ before.map Prod.fst) :
    Description.putField name child before = before ++ [(name, child)] := by
  induction before with
  | nil => rfl
  | cons field rest inductionHypothesis =>
      rcases field with ⟨other, old⟩
      rw [List.map_cons, List.mem_cons, not_or] at new
      rw [Description.putField, if_neg (Ne.symm new.1), inductionHypothesis new.2]
      rfl

/-- Fields with different names are read in their order. -/
theorem fieldsOnto?_eq {child? : Datum → Option Document} {fields : List (String × Document)}
    (each : ∀ child ∈ fields.map Prod.snd, child? child.toDatum = some child) :
    ∀ before : List (String × Document), ((before ++ fields).map Prod.fst).Nodup →
      Description.fieldsOnto? child? before
        (fields.map fun (name, child) => (.text name, child.toDatum)) = some (before ++ fields) := by
  induction fields with
  | nil =>
      intro before _
      rw [List.append_nil]
      rfl
  | cons field rest inductionHypothesis =>
      intro before nodup
      rcases field with ⟨name, child⟩
      rw [List.map_cons, List.forall_mem_cons] at each
      have new : name ∉ before.map Prod.fst := by
        rw [List.map_append, List.map_cons, List.nodup_append] at nodup
        exact fun listed => nodup.2.2 name listed name List.mem_cons_self rfl
      have later := inductionHypothesis each.2 (before ++ [(name, child)])
        (by rwa [List.append_assoc, List.singleton_append])
      rw [List.append_assoc, List.singleton_append] at later
      have readsChild : child? child.toDatum = some child := each.1
      rw [List.map_cons, Description.fieldsOnto?]
      simp only [Datum.text?, readsChild, Option.bind_eq_bind, Option.bind_some, putField_eq new]
      exact later

/-- Children are read in their order. -/
theorem children?_eq {child? : Datum → Option Document} (items : List Document)
    (each : ∀ child ∈ items, child? child.toDatum = some child) :
    Description.children? child? (.list (items.map toDatum)) = some items := by
  change (items.map toDatum).mapM child? = some items
  induction items with
  | nil => rfl
  | cons child rest inductionHypothesis =>
      rw [List.forall_mem_cons] at each
      rw [List.map_cons, List.mapM_cons, each.1, inductionHypothesis each.2]
      rfl

/-- The slots of a kind are read back, if the children are. -/
theorem read?_fieldSlots {child? : Datum → Option Document} {description : Description Document}
    (writable : description.Writable)
    (each : ∀ child ∈ description.children, child? child.toDatum = some child) :
    Description.read? child? (fieldSlots description).entries description.kind =
      some description := by
  have count {min max : Option Nat} (bounds : description.counts = min.toList ++ max.toList) :
      ∀ value ∈ min.toList ++ max.toList,
        Entries.optional? Datum.word? (some ((.ofTree ∘ wordTree) value)) = some (some value) :=
    fun value listed => optional?_count (writable.counts_le value (bounds ▸ listed))
  cases description with
  | string min max | buffer min max =>
      have each := List.forall_mem_append.mp (count rfl)
      rw [Description.kind, Description.read?, field?_entries rfl each.1, field?_entries rfl each.2]
      rfl
  | integer min max =>
      have each := List.forall_mem_append.mp writable.integers_within
      rw [Description.kind, Description.read?,
        field?_entries rfl fun value listed => optional?_integer (each.1 value listed),
        field?_entries rfl fun value listed => optional?_integer (each.2 value listed)]
      rfl
  | float min max =>
      have each := List.forall_mem_append.mp writable.reals_finite
      rw [Description.kind, Description.read?,
        field?_entries rfl fun value listed => optional?_real (each.1 value listed),
        field?_entries rfl fun value listed => optional?_real (each.2 value listed)]
      rfl
  | boolean | null | undefined | date | unknown => rfl
  | dateTime format => cases format <;> rfl
  | exact value | regex value =>
      rw [Description.kind, Description.read?, required?_entries rfl]
      rfl
  | object fields =>
      have read : Description.fields? child?
          (.map (fields.map fun (name, child) => (.text name, child.toDatum))) = some fields :=
        fieldsOnto?_eq each [] writable.fieldNames_nodup
      rw [Description.kind, Description.read?, fieldSlots, Slots.once?_entries rfl,
        Option.bind_eq_bind, Option.bind_some]
      simp only [read]
      rfl
  | array child min max | record child min max =>
      have bounds := List.forall_mem_append.mp (count rfl)
      rw [Description.kind, Description.read?, required?_entries rfl,
        each child List.mem_cons_self, field?_entries rfl bounds.1, field?_entries rfl bounds.2]
      rfl
  | tuple items | union items =>
      rw [Description.kind, Description.read?, required?_entries rfl,
        children?_eq items each]
      rfl

/-! ## Documents -/

/-- A child is written inside of what is in some slot. -/
theorem depth_child_le_slot {description : Description Document} {child : Document}
    (listed : child ∈ description.children) :
    ∃ name value, (name, some value) ∈ fieldSlots description ∧
      child.toDatum.depth ≤ value.depth := by
  cases description with
  | object fields =>
      rcases List.mem_map.mp listed with ⟨⟨name, child⟩, member, rfl⟩
      have entry : (.text name, child.toDatum) ∈
          fields.map fun (name, child) => ((.text name, child.toDatum) : Datum × Datum) :=
        List.mem_map.mpr ⟨(name, child), member, rfl⟩
      exact ⟨_, _, List.mem_cons_self,
        Nat.le_trans (Datum.depth_le_depthEntries entry) (Nat.le_add_left _ 1)⟩
  | array | record =>
      rw [List.mem_singleton.mp listed]
      exact ⟨_, _, List.mem_cons_self, Nat.le_refl _⟩
  | tuple | union =>
      have item := List.mem_map_of_mem (f := toDatum) listed
      exact ⟨_, _, List.mem_cons_self,
        Nat.le_trans (Datum.depth_le_depthItems item) (Nat.le_add_left _ 1)⟩
  | _ => cases listed

/-- A child is written less deep than its node. -/
theorem depth_child_lt (marks : Marks) {description : Description Document} {child : Document}
    (listed : child ∈ description.children) :
    child.toDatum.depth < (toDatum (.node marks description)).depth := by
  rcases depth_child_le_slot listed with ⟨name, value, filled, inside⟩
  have slot : (name, some value) ∈ slots marks description :=
    List.mem_append_left _ (List.mem_cons_of_mem _ filled)
  have bound := Datum.depth_le_depthEntries (Slots.mem_entries slot)
  rw [toDatum_node, Datum.depth]
  omega

/-- What is written for a document is read as the document, if there is room for it. -/
theorem ofDatumWithin?_toDatum {document : Document}
    (writable : document.Everywhere Description.Writable) :
    ∀ depth : Nat, document.toDatum.depth ≤ depth →
      ofDatumWithin? depth document.toDatum = some document := by
  induction writable with
  | @node marks description here below inductionHypothesis =>
      intro depth room
      cases depth with
      | zero =>
          rw [toDatum_node, Datum.depth] at room
          omega
      | succ depth =>
          have each : ∀ child ∈ description.children,
              ofDatumWithin? depth child.toDatum = some child := by
            intro child listed
            have less := depth_child_lt marks listed
            exact inductionHypothesis child listed depth (by omega)
          rw [toDatum_node, ofDatumWithin?, readNode?_slots, read?_fieldSlots here each]
          rfl

theorem ofDatum?_toDatum {document : Document}
    (writable : document.Everywhere Description.Writable) :
    ofDatum? document.toDatum = some document :=
  ofDatumWithin?_toDatum writable _ (Nat.le_refl _)

/-! ## Their text -/

section

variable {description : Description Document}

/-- What holds of the trees of all values that a field can have holds of its entry. -/
theorem forall_entry {Target : Type} {name : String} {tree : Target → Json.Tree}
    {value? : Option Target} (each : ∀ value ∈ value?.toList, (tree value).Legible) :
    ∀ written ∈ (entry name tree value?).map Prod.snd, written.Legible := by
  cases value? with
  | none => exact fun _ => nofun
  | some value =>
      intro written listed
      rw [List.mem_singleton.mp listed]
      exact each value List.mem_cons_self

theorem legible_markEntries (marks : Marks) :
    ∀ written ∈ (markEntries marks).map Prod.snd, written.Legible := by
  have flag (set : Bool) (name : String) :
      ∀ written ∈ (if set then [(name, Json.Tree.boolean true)] else []).map Prod.snd,
        written.Legible := by
    cases set with
    | false => exact fun _ => nofun
    | true => exact List.forall_mem_singleton.mpr (.boolean true)
  simp only [markEntries, List.map_append, List.forall_mem_append]
  exact ⟨⟨⟨flag _ _, flag _ _⟩, forall_entry fun name _ => .text name⟩,
    forall_entry fun name _ => .text name⟩

theorem legible_toTrees {documents : List Document} (each : ∀ child ∈ documents, child.toTree.Legible) :
    ∀ written ∈ toTrees documents, written.Legible := by
  induction documents with
  | nil => exact fun _ => nofun
  | cons child rest inductionHypothesis =>
      rw [List.forall_mem_cons] at each
      exact List.forall_mem_cons.mpr ⟨each.1, inductionHypothesis each.2⟩

theorem legible_toTreeFields {fields : List (String × Document)}
    (each : ∀ child ∈ fields.map Prod.snd, child.toTree.Legible) :
    ∀ written ∈ (toTreeFields fields).map Prod.snd, written.Legible := by
  induction fields with
  | nil => exact fun _ => nofun
  | cons field rest inductionHypothesis =>
      rw [List.map_cons, List.forall_mem_cons] at each
      exact List.forall_mem_cons.mpr ⟨each.1, inductionHypothesis each.2⟩

theorem legible_fieldEntries (writable : description.Writable) (readBack : description.RealsReadBack)
    (each : ∀ child ∈ description.children, child.toTree.Legible) :
    ∀ written ∈ (fieldEntries description).map Prod.snd, written.Legible := by
  have counts {min max : Option Nat} (bounds : description.counts = min.toList ++ max.toList) :
      ∀ value ∈ min.toList ++ max.toList, (wordTree value).Legible := by
    intro value listed
    have fits := writable.counts_le value (bounds ▸ listed)
    exact .number (Json.Token.readsBack_integer
      (Int.le_trans (by decide) (Int.natCast_nonneg value)) (Int.ofNat_le.mpr fits))
  cases description with
  | string min max | buffer min max =>
      have bounds := List.forall_mem_append.mp (counts rfl)
      rw [fieldEntries, List.map_append]
      exact List.forall_mem_append.mpr ⟨forall_entry bounds.1, forall_entry bounds.2⟩
  | integer min max =>
      have integers : ∀ value ∈ min.toList ++ max.toList, (signedTree value).Legible := by
        intro value listed
        have within := writable.integers_within value listed
        exact .number (Json.Token.readsBack_integer within.1 (Int.le_trans within.2 (by decide)))
      have bounds := List.forall_mem_append.mp integers
      rw [fieldEntries, List.map_append]
      exact List.forall_mem_append.mpr ⟨forall_entry bounds.1, forall_entry bounds.2⟩
  | float min max =>
      have reals : ∀ value ∈ min.toList ++ max.toList, (realTree value).Legible := by
        intro value listed
        rw [realTree, if_pos (writable.reals_finite value listed)]
        exact .number (readBack value listed)
      have bounds := List.forall_mem_append.mp reals
      rw [fieldEntries, List.map_append]
      exact List.forall_mem_append.mpr ⟨forall_entry bounds.1, forall_entry bounds.2⟩
  | boolean | null | undefined | date | unknown => exact List.forall_mem_nil _
  | dateTime | exact | regex => exact List.forall_mem_singleton.mpr (.text _)
  | object => exact List.forall_mem_singleton.mpr (.map (legible_toTreeFields each))
  | array child min max | record child min max =>
      have bounds := List.forall_mem_append.mp (counts rfl)
      rw [fieldEntries, List.cons_append, List.map_cons, List.map_append]
      refine List.forall_mem_cons.mpr ⟨each child List.mem_cons_self, ?_⟩
      exact List.forall_mem_append.mpr ⟨forall_entry bounds.1, forall_entry bounds.2⟩
  | tuple | union => exact List.forall_mem_singleton.mpr (.list (legible_toTrees each))

end

/-- The numbers in the tree of a document are read back. -/
theorem legible_toTree {document : Document}
    (writable : document.Everywhere Description.Writable)
    (readBack : document.Everywhere Description.RealsReadBack) : document.toTree.Legible := by
  induction writable with
  | @node marks description here below inductionHypothesis =>
      rcases readBack with ⟨_, realsHere, realsBelow⟩
      have fields := legible_fieldEntries here realsHere fun child listed =>
        inductionHypothesis child listed (realsBelow child listed)
      refine .map ?_
      rw [List.cons_append, List.map_cons, List.map_append]
      exact List.forall_mem_cons.mpr
        ⟨.text _, List.forall_mem_append.mpr ⟨fields, legible_markEntries marks⟩⟩

/-- A document is read back from its text.  So what is made of it, a schema or an error, is
made of its text as well. -/
theorem survives_json {document : Document}
    (writable : document.Everywhere Description.Writable)
    (readBack : document.Everywhere Description.RealsReadBack)
    (shallow : document.toTree.depth ≤ Json.defaultDepth) :
    ofJson? document.toJson = some document ∧
      (ofJson? document.toJson).map toSchema = some document.toSchema := by
  have read : ofJson? document.toJson = some document := by
    rw [ofJson?, toJson, (legible_toTree writable readBack).read?_pretty shallow]
    exact ofDatum?_toDatum writable
  exact ⟨read, by rw [read, Option.map_some]⟩

/-- A share of one half at most, a count from the least word on, and labels of any length. -/
def sample : Document :=
  .node ⟨false, false, some "Sample", none⟩ (.object
    [("share", .node ⟨false, true, none, some "a \"part\"\n"⟩
        (.float (some (.finite true 0)) (some (.finite false (Nat.pow 2 1073))))),
      ("count", .node ⟨true, false, none, none⟩ (.integer (some (-9223372036854775808)) none)),
      ("labels", .node ⟨false, false, none, none⟩
        (.array (.node ⟨false, false, none, none⟩ (.string none (some 18446744073709551615)))
          none (some 3)))])

/-- The sample is read back, with its fields in their order. -/
theorem survives_json_sample :
    sample.Everywhere Description.Writable ∧ sample.Everywhere Description.RealsReadBack ∧
      sample.toTree.depth ≤ Json.defaultDepth ∧ ofJson? sample.toJson = some sample := by
  have writable : sample.Everywhere Description.Writable := by
    refine .node _ ⟨by decide, by decide, by decide, by decide⟩ ?_
    refine List.forall_mem_cons.mpr ⟨.node _ ⟨by decide, by decide, by decide, by decide⟩ nofun, ?_⟩
    refine List.forall_mem_cons.mpr ⟨.node _ ⟨by decide, by decide, by decide, by decide⟩ nofun, ?_⟩
    refine List.forall_mem_singleton.mpr (.node _ ⟨by decide, by decide, by decide, by decide⟩ ?_)
    exact List.forall_mem_singleton.mpr (.node _ ⟨by decide, by decide, by decide, by decide⟩ nofun)
  have readBack : sample.Everywhere Description.RealsReadBack := by
    refine .node _ nofun (List.forall_mem_cons.mpr ⟨.node _ ?_ nofun, ?_⟩)
    · exact List.forall_mem_cons.mpr
        ⟨by decide +kernel, List.forall_mem_singleton.mpr (by decide +kernel)⟩
    · refine List.forall_mem_cons.mpr ⟨.node _ nofun nofun, ?_⟩
      refine List.forall_mem_singleton.mpr (.node _ nofun ?_)
      exact List.forall_mem_singleton.mpr (.node _ nofun nofun)
  have shallow : sample.toTree.depth ≤ Json.defaultDepth := by decide
  exact ⟨writable, readBack, shallow, (survives_json writable readBack shallow).1⟩

end Document
end Conformance
