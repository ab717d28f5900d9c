import Conformance.Document.Printer
import Conformance.Document.Reader

namespace Conformance

/-!
# The slots of a node

A node is written as a map with an entry for everything that it says.  Which entries there
can be depends on its kind only; they are the slots of the node, and a slot stays empty where
there is nothing to say.  As no two slots have the same name, reading a name finds the slot
of that name, whether it is empty or not.
-/

/-- Names with what is written under them, if anything is. -/
abbrev Slots : Type := List (String × Option Datum)

namespace Slots

/-- The entries of the slots that are not empty. -/
def entries (slots : Slots) : Entries :=
  slots.filterMap fun (name, value?) => value?.map fun value => (.text name, value)

/-- The slots whose names are keys of some sort. -/
def ofSort (isKey : Datum → Bool) (slots : Slots) : Slots :=
  slots.filter fun (name, _) => isKey (.text name)

variable {slots first second : Slots} {isKey : Datum → Bool} {name : String} {value? : Option Datum}

theorem entries_cons (name : String) (value? : Option Datum) (slots : Slots) :
    entries ((name, value?) :: slots) =
      (value?.map fun value => (.text name, value)).toList ++ entries slots := by
  rw [entries, List.filterMap_cons]
  cases value? <;> rfl

theorem entries_append (first second : Slots) :
    entries (first ++ second) = entries first ++ entries second :=
  List.filterMap_append

/-- Selecting entries by their keys is selecting slots by their names. -/
theorem filter_entries (isKey : Datum → Bool) (slots : Slots) :
    slots.entries.filter (fun (key, _) => isKey key) = (slots.ofSort isKey).entries := by
  induction slots with
  | nil => rfl
  | cons slot rest inductionHypothesis =>
      rcases slot with ⟨name, value?⟩
      rw [ofSort] at inductionHypothesis
      rw [entries_cons, List.filter_append, inductionHypothesis, ofSort, List.filter_cons]
      cases named : isKey (.text name) with
      | false => cases value? <;> simp [named]
      | true => cases value? <;> simp [named, entries_cons]

/-- The only slot with a key of some sort is the one that is found. -/
theorem once?_entries (only : slots.ofSort isKey = [(name, value?)]) :
    slots.entries.once? isKey = some value? := by
  rw [Entries.once?, filter_entries, only]
  cases value? <;> rfl

theorem all_isKey_entries (slots : Slots) :
    slots.entries.all (fun (key, _) => key.isKey) = true := by
  induction slots with
  | nil => rfl
  | cons slot rest inductionHypothesis =>
      rcases slot with ⟨name, value?⟩
      rw [entries_cons, List.all_append, inductionHypothesis]
      cases value? <;> rfl

theorem mem_entries {value : Datum} (listed : (name, some value) ∈ slots) :
    (.text name, value) ∈ slots.entries :=
  List.mem_filterMap.mpr ⟨(name, some value), listed, rfl⟩

theorem ofSort_append (isKey : Datum → Bool) (first second : Slots) :
    (first ++ second).ofSort isKey = first.ofSort isKey ++ second.ofSort isKey :=
  List.filter_append ..

/-- Where no name is a key of some sort, there is no such slot. -/
theorem ofSort_eq_nil (none : ∀ slot ∈ slots, isKey (.text slot.1) = false) :
    slots.ofSort isKey = [] :=
  List.filter_eq_nil_iff.mpr fun slot listed => Bool.eq_false_iff.mp (none slot listed)

/-- Where all names are keys of some sort, all slots are of that sort. -/
theorem ofSort_eq_self (all : ∀ slot ∈ slots, isKey (.text slot.1) = true) :
    slots.ofSort isKey = slots :=
  List.filter_eq_self.mpr all

end Slots

namespace Datum

theorem ofEntries_append (first second : List (String × Json.Tree)) :
    ofEntries (first ++ second) = ofEntries first ++ ofEntries second := by
  induction first with
  | nil => rfl
  | cons entry rest inductionHypothesis =>
      rcases entry with ⟨key, tree⟩
      rw [List.cons_append, ofEntries, ofEntries, inductionHypothesis, List.cons_append]

theorem depth_le_depthItems {items : List Datum} {item : Datum} (listed : item ∈ items) :
    item.depth ≤ depthItems items := by
  induction items with
  | nil => cases listed
  | cons first rest inductionHypothesis =>
      rcases List.mem_cons.mp listed with rfl | later
      · exact Nat.le_max_left _ _
      · exact Nat.le_trans (inductionHypothesis later) (Nat.le_max_right _ _)

theorem depth_le_depthEntries {entries : List (Datum × Datum)} {key value : Datum}
    (listed : (key, value) ∈ entries) : value.depth ≤ depthEntries entries := by
  induction entries with
  | nil => cases listed
  | cons first rest inductionHypothesis =>
      rcases List.mem_cons.mp listed with rfl | later
      · exact Nat.le_max_left _ _
      · exact Nat.le_trans (inductionHypothesis later) (Nat.le_max_right _ _)

end Datum

namespace Document

/-- The datum that is written for a document. -/
def toDatum (document : Document) : Datum := .ofTree document.toTree

/-- The slots of the marks. -/
def markSlots (marks : Marks) : Slots :=
  [("optional", if marks.optional then some (.boolean true) else none),
    ("nullable", if marks.nullable then some (.boolean true) else none),
    ("name", marks.name.map .text), ("rename", marks.rename.map .text)]

/-- The slots of a kind. -/
def fieldSlots : Description Document → Slots
  | .string min max | .buffer min max =>
      [("min_length", min.map (.ofTree ∘ wordTree)), ("max_length", max.map (.ofTree ∘ wordTree))]
  | .integer min max =>
      [("minimum", min.map (.ofTree ∘ signedTree)), ("maximum", max.map (.ofTree ∘ signedTree))]
  | .float min max =>
      [("minimum", min.map (.ofTree ∘ realTree)), ("maximum", max.map (.ofTree ∘ realTree))]
  | .boolean | .null | .undefined | .date | .unknown => []
  | .dateTime format => [("format", some (.text format.name))]
  | .exact value => [("value", some (.text value))]
  | .regex pattern => [("pattern", some (.text pattern))]
  | .object fields => [("fields", some (.map (fields.map fun (name, child) => (.text name, child.toDatum))))]
  | .array items min max =>
      [("items", some items.toDatum), ("min_items", min.map (.ofTree ∘ wordTree)),
        ("max_items", max.map (.ofTree ∘ wordTree))]
  | .tuple items => [("items", some (.list (items.map toDatum)))]
  | .record values min max =>
      [("values", some values.toDatum), ("min_keys", min.map (.ofTree ∘ wordTree)),
        ("max_keys", max.map (.ofTree ∘ wordTree))]
  | .union anyOf => [("any_of", some (.list (anyOf.map toDatum)))]

/-- The slots of a node. -/
def slots (marks : Marks) (description : Description Document) : Slots :=
  ("kind", some (.text description.kind.name)) :: fieldSlots description ++ markSlots marks

/-! ## What is written are the slots -/

theorem ofEntries_entry {Target : Type} (name : String) (tree : Target → Json.Tree)
    (value? : Option Target) :
    Datum.ofEntries (entry name tree value?) = Slots.entries [(name, value?.map (.ofTree ∘ tree))] := by
  cases value? <;> rfl

theorem ofEntries_markEntries (marks : Marks) :
    Datum.ofEntries (markEntries marks) = (markSlots marks).entries := by
  rcases marks with ⟨optional, nullable, name, rename⟩
  cases optional <;> cases nullable <;> cases name <;> cases rename <;> rfl

theorem ofTrees_toTrees (documents : List Document) :
    Datum.ofTrees (toTrees documents) = documents.map toDatum := by
  induction documents with
  | nil => rfl
  | cons child rest inductionHypothesis =>
      rw [toTrees, Datum.ofTrees, inductionHypothesis]
      rfl

theorem ofEntries_toTreeFields (fields : List (String × Document)) :
    Datum.ofEntries (toTreeFields fields) =
      fields.map fun (name, child) => (.text name, child.toDatum) := by
  induction fields with
  | nil => rfl
  | cons field rest inductionHypothesis =>
      rcases field with ⟨name, child⟩
      rw [toTreeFields, Datum.ofEntries, inductionHypothesis]
      rfl

theorem ofEntries_fieldEntries (description : Description Document) :
    Datum.ofEntries (fieldEntries description) = (fieldSlots description).entries := by
  cases description with
  | string min max | integer min max | float min max | buffer min max =>
      rw [fieldEntries, Datum.ofEntries_append, ofEntries_entry, ofEntries_entry,
        ← Slots.entries_append]
      rfl
  | array child min max | record child min max =>
      rw [fieldEntries, List.cons_append, Datum.ofEntries, Datum.ofEntries_append, ofEntries_entry,
        ofEntries_entry, ← Slots.entries_append]
      rfl
  | object fields =>
      rw [fieldSlots, ← ofEntries_toTreeFields]
      rfl
  | tuple documents | union documents =>
      rw [fieldSlots, ← ofTrees_toTrees]
      rfl
  | _ => rfl

theorem toDatum_node (marks : Marks) (description : Description Document) :
    toDatum (.node marks description) = .map (slots marks description).entries := by
  rw [toDatum, toTree, Datum.ofTree, List.cons_append, Datum.ofEntries, Datum.ofEntries_append,
    ofEntries_fieldEntries, ofEntries_markEntries, ← Slots.entries_append]
  rfl

/-! ## Reading the slots that every node has -/

/-- The slots of a kind are neither marks nor the kind. -/
theorem fieldSlots_apart {description : Description Document} :
    ∀ slot ∈ fieldSlots description,
      Datum.isMarkKey (.text slot.1) = false ∧ Datum.isText "kind" (.text slot.1) = false := by
  cases description <;> simp [fieldSlots, Datum.isMarkKey, Datum.isText]

/-- A key that only marks can have is looked for among the marks. -/
theorem ofSort_mark {isKey : Datum → Bool}
    (isMark : ∀ key, isKey key = true → Datum.isMarkKey key = true) (marks : Marks)
    (description : Description Document) :
    (slots marks description).ofSort isKey = (markSlots marks).ofSort isKey := by
  have apart {name : String} (notMark : Datum.isMarkKey (.text name) = false) :
      isKey (.text name) = false := by
    cases found : isKey (.text name) with
    | false => rfl
    | true => rw [isMark _ found] at notMark; cases notMark
  have none : ∀ slot ∈ (("kind", some (.text description.kind.name)) :: fieldSlots description : Slots),
      isKey (.text slot.1) = false :=
    List.forall_mem_cons.mpr ⟨apart rfl, fun slot listed => apart (fieldSlots_apart slot listed).1⟩
  rw [slots, Slots.ofSort_append, Slots.ofSort_eq_nil none, List.nil_append]

theorem isMarkKey_of_isText {mark : String} (isMark : Datum.isMarkKey (.text mark) = true)
    {key : Datum} (isText : Datum.isText mark key = true) : key.isMarkKey = true := by
  cases key with
  | text value =>
      rw [Datum.isText, beq_iff_eq] at isText
      rwa [isText]
  | _ => cases isText

theorem flag?_entries {slots : Slots} {name : String} {value : Bool}
    (only : slots.ofSort (Datum.isText name) = [(name, if value then some (.boolean true) else none)]) :
    slots.entries.flag? name = some value := by
  rw [Entries.flag?, Slots.once?_entries only]
  cases value <;> rfl

theorem label?_entries {slots : Slots} {name : String} {value? : Option String}
    (only : slots.ofSort (Datum.isText name) = [(name, value?.map .text)]) :
    slots.entries.label? name = some value? := by
  rw [Entries.label?, Slots.once?_entries only]
  cases value? <;> rfl

/-- The marks of a node are read back. -/
theorem marks?_slots (marks : Marks) (description : Description Document) :
    (slots marks description).entries.marks? = some marks := by
  have found (mark : String) (isMark : Datum.isMarkKey (.text mark) = true) :
      (slots marks description).ofSort (Datum.isText mark) =
        (markSlots marks).ofSort (Datum.isText mark) :=
    ofSort_mark (fun _ => isMarkKey_of_isText isMark) marks description
  rw [Entries.marks?, flag?_entries ((found "optional" rfl).trans rfl),
    flag?_entries ((found "nullable" rfl).trans rfl),
    label?_entries ((found "name" rfl).trans rfl), label?_entries ((found "rename" rfl).trans rfl)]
  rfl

/-- Behind the marks a node has its kind and the slots of its kind. -/
theorem ofSort_others (marks : Marks) (description : Description Document) :
    (slots marks description).ofSort (fun key => !key.isMarkKey) =
      ("kind", some (.text description.kind.name)) :: fieldSlots description := by
  have others : ∀ slot ∈ (("kind", some (.text description.kind.name)) :: fieldSlots description : Slots),
      (!Datum.isMarkKey (.text slot.1)) = true := by
    refine List.forall_mem_cons.mpr ⟨rfl, fun slot listed => ?_⟩
    rw [(fieldSlots_apart slot listed).1]
    rfl
  have none : ∀ slot ∈ markSlots marks, (!Datum.isMarkKey (.text slot.1)) = false := by
    simp [markSlots, Datum.isMarkKey]
  rw [slots, Slots.ofSort_append, Slots.ofSort_eq_self others, Slots.ofSort_eq_nil none,
    List.append_nil]

theorem ofDatum?_name (kind : Kind) : Kind.ofDatum? (.text kind.name) = some kind := by
  cases kind <;> decide

/-- What is read of a node is its marks, which are there, and the slots of its kind. -/
theorem readNode?_slots (child? : Datum → Option Document) (marks : Marks)
    (description : Description Document) :
    readNode? child? (slots marks description).entries =
      (Description.read? child? (fieldSlots description).entries description.kind).map (.node marks) := by
  have isKind : Slots.ofSort (Datum.isText "kind")
      (("kind", some (.text description.kind.name)) :: fieldSlots description) =
        [("kind", some (.text description.kind.name))] :=
    congrArg (_ :: ·) (Slots.ofSort_eq_nil fun slot listed => (fieldSlots_apart slot listed).2)
  have isField : Slots.ofSort (fun key => !key.isText "kind")
      (("kind", some (.text description.kind.name)) :: fieldSlots description) =
        fieldSlots description := by
    have fields : (fieldSlots description).ofSort (fun key => !key.isText "kind") =
        fieldSlots description := by
      refine Slots.ofSort_eq_self fun slot listed => ?_
      rw [(fieldSlots_apart slot listed).2]
      rfl
    exact fields
  rw [readNode?, marks?_slots, Option.bind_eq_bind, Option.bind_some,
    if_pos (Slots.all_isKey_entries _), Slots.filter_entries (fun key => !key.isMarkKey),
    ofSort_others]
  simp only [Slots.once?_entries isKind, Slots.filter_entries (fun key => !key.isText "kind"), isField,
    Option.bind_eq_bind, Option.bind_some, ofDatum?_name]
  rcases Description.read? child? (fieldSlots description).entries description.kind <;> rfl

end Document
end Conformance
