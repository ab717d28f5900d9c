import Conformance.Proofs.Text.Delimited
import Conformance.Proofs.Text.Ranges
import Conformance.Regex.Property
import Conformance.Text.CaseMap

namespace Conformance
namespace Text

/-!
# Capital letters in identifiers

Identifiers are made of code points with two properties: one for those that begin an identifier
and one for all others.  Conversion to uppercase keeps both, with one exception: an iota below a
letter cannot begin an identifier, but its uppercase is a letter.  No uppercase begins with a small
letter of ASCII, so a word that is capitalized is no keyword in small letters.
-/

/-- The code points that can begin an identifier. -/
def identifierStarts : Ranges := (Regex.findSet? Regex.traitTables "xids").getD ⟨#[]⟩

/-- The code points that can stand in an identifier. -/
def identifierParts : Ranges := (Regex.findSet? Regex.traitTables "xidc").getD ⟨#[]⟩

/-- A character can begin an identifier. -/
def CanBegin (c : Char) : Prop := identifierStarts.contains c.toNat = true

/-- A character can stand in an identifier. -/
def CanContinue (c : Char) : Prop := identifierParts.contains c.toNat = true

/-- The iota below a letter. -/
def iotaBelow : Char := Char.ofNat 0x345

/-- The letters with capitals: those of ASCII and those of the table. -/
def capitals : List (Nat × List Nat) :=
  (List.range 26).map (fun place => (97 + place, [65 + place])) ++ toUppercaseMap.entries.toList

/-! ## Computations on the tables -/

/-- Letters in circles have capitals, but are no letters of identifiers. -/
def isCircled (entry : Nat × List Nat) : Bool :=
  (entry.1 :: entry.2).all fun code => Nat.ble 0x24b6 code && Nat.ble code 0x24e9

/-- What the capital of any letter satisfies: it consists of characters and begins with none that
is a digit, a small letter or an underscore.  If it begins with `S`, it is the capital of the letter
`s`, or has another capital as its second character. -/
def isRegular (entry : Nat × List Nat) : Bool :=
  entry.2.all (fun code => Nat.blt code 0xd800 || Nat.blt 0xdfff code && Nat.blt code 0x110000) &&
    match entry.2 with
    | [] => false
    | first :: rest =>
        (Nat.blt first 48 || Nat.blt 57 first && Nat.blt first 95 || Nat.blt 122 first) &&
          (first != 83 || (entry.1 == 0x73 || entry.1 == 0x17f) && rest == [] ||
            rest.head?.any fun second => Nat.blt second 97)

/-- The code points that capitals need to be able to begin an identifier. -/
def startCodes (entries : List (Nat × List Nat)) : List Nat :=
  let lettered := entries.filter fun entry => !isCircled entry
  (lettered.filter fun entry => entry.1 != 0x345).map Prod.fst ++
    lettered.filterMap fun entry => entry.2.head?

/-- The code points that capitals need to be able to stand in an identifier. -/
def partCodes (entries : List (Nat × List Nat)) : List Nat :=
  let lettered := entries.filter fun entry => !isCircled entry
  lettered.map Prod.fst ++ lettered.flatMap Prod.snd

section

variable {entries : List (Nat × List Nat)} {letter first : Nat} {images rest : List Nat}

theorem mem_startCodes (listed : (letter, first :: rest) ∈ entries)
    (lettered : isCircled (letter, first :: rest) = false) :
    first ∈ startCodes entries ∧ (letter ≠ 0x345 → letter ∈ startCodes entries) := by
  have kept : (letter, first :: rest) ∈ entries.filter fun entry => !isCircled entry :=
    List.mem_filter.mpr ⟨listed, by rw [lettered]; rfl⟩
  constructor
  · apply List.mem_append_right
    exact List.mem_filterMap.mpr ⟨_, kept, rfl⟩
  · intro other
    apply List.mem_append_left
    exact List.mem_map.mpr ⟨_, List.mem_filter.mpr ⟨kept, bne_iff_ne.mpr other⟩, rfl⟩

theorem mem_partCodes (listed : (letter, images) ∈ entries)
    (lettered : isCircled (letter, images) = false) :
    ∀ code ∈ letter :: images, code ∈ partCodes entries := by
  have kept : (letter, images) ∈ entries.filter fun entry => !isCircled entry :=
    List.mem_filter.mpr ⟨listed, by rw [lettered]; rfl⟩
  rw [List.forall_mem_cons]
  constructor
  · apply List.mem_append_left
    exact List.mem_map_of_mem kept
  · intro code image
    apply List.mem_append_right
    exact List.mem_flatMap.mpr ⟨_, kept, image⟩

end

/-- What is computed of a set: its ranges are in order, no letter in a circle is in it, and it has
the code points that it needs. -/
def checks (ranges : Ranges) (codes : List Nat) : Bool :=
  Ranges.increasing 0 ranges.bounds.toList && Ranges.avoids ranges.bounds.toList 0x24b6 0x24e9 &&
    Ranges.covers ranges.bounds.toList ranges.bounds.toList 0 codes

set_option maxRecDepth 100000 in
theorem capitals_checked :
    (Ranges.increasing 0 (toUppercaseMap.entries.toList.map fun entry => (entry.1, entry.1)) &&
      capitals.all isRegular &&
      [(0x345, [0x399]), (0x17f, [0x53])].all toUppercaseMap.entries.toList.contains) = true := by
  have table : toUppercaseMap = CodeMap.ofTable _ := rfl
  unfold toUppercaseTable at table
  rw [capitals, table, CodeMap.ofTable_ofList]
  decide +kernel

set_option maxRecDepth 100000 in
theorem starts_checked : checks identifierStarts (startCodes capitals) = true := by
  have table : toUppercaseMap = CodeMap.ofTable _ := rfl
  unfold toUppercaseTable at table
  have starts : identifierStarts = Ranges.ofTable _ := rfl
  rw [checks, capitals, table, CodeMap.ofTable_ofList, starts, Ranges.ofTable_ofList]
  decide +kernel

set_option maxRecDepth 100000 in
theorem parts_checked : checks identifierParts ('_'.toNat :: partCodes capitals) = true := by
  have table : toUppercaseMap = CodeMap.ofTable _ := rfl
  unfold toUppercaseTable at table
  have parts : identifierParts = Ranges.ofTable _ := rfl
  rw [checks, capitals, table, CodeMap.ofTable_ofList, parts, Ranges.ofTable_ofList]
  decide +kernel

section

variable {ranges : Ranges} {codes : List Nat} (checked : checks ranges codes = true)

include checked

theorem contains_of_checks {code : Nat} (listed : code ∈ codes) :
    ranges.contains code = true := by
  rw [checks, Bool.and_eq_true, Bool.and_eq_true] at checked
  apply (Ranges.contains_iff (Ranges.isOrdered_of_increasing checked.1.1)).mpr
  exact Ranges.lists_of_covers (List.Subset.refl _) checked.2 code listed

/-- Letters in circles are not in a set, nor are their capitals. -/
theorem not_contains_of_circled {entry : Nat × List Nat} (circled : isCircled entry = true) :
    ∀ code ∈ entry.1 :: entry.2, ¬ ranges.contains code = true := by
  intro code listed
  rw [checks, Bool.and_eq_true, Bool.and_eq_true] at checked
  have between := List.all_eq_true.mp circled code listed
  rw [Bool.and_eq_true, Nat.ble_eq, Nat.ble_eq] at between
  exact Ranges.not_contains_of_avoids checked.1.2 between.1 between.2

end

theorem canContinue_underscore : CanContinue '_' :=
  contains_of_checks parts_checked List.mem_cons_self

/-! ## Capitals of characters -/

theorem toUppercaseMap_isOrdered : toUppercaseMap.IsOrdered := by
  have checked := capitals_checked
  rw [Bool.and_eq_true, Bool.and_eq_true] at checked
  exact CodeMap.isOrdered_of_increasing checked.1.1

/-- What the capital of any letter satisfies. -/
theorem capital_spec {letter : Nat} {images : List Nat} (listed : (letter, images) ∈ capitals) :
    (∀ code ∈ images, (Char.ofNat code).toNat = code) ∧ ∃ first rest, images = first :: rest ∧
      (first < 48 ∨ 57 < first ∧ first < 95 ∨ 122 < first) ∧
      (first = 83 → (letter = 0x73 ∨ letter = 0x17f) ∧ rest = [] ∨
        ∃ second ∈ rest.head?, second < 97) := by
  have checked := capitals_checked
  rw [Bool.and_eq_true, Bool.and_eq_true] at checked
  have regular := List.all_eq_true.mp checked.1.2 (letter, images) listed
  rw [isRegular, Bool.and_eq_true] at regular
  refine ⟨fun code image => ?_, ?_⟩
  · have valid := List.all_eq_true.mp regular.1 code image
    simp only [Bool.or_eq_true, Bool.and_eq_true, Nat.blt_eq] at valid
    rw [Char.ofNat, dif_pos (by simpa [Nat.isValidChar] using valid)]
    rfl
  · cases images with
    | nil => cases regular.2
    | cons first rest =>
        refine ⟨first, rest, rfl, ?_⟩
        simpa [or_assoc, Classical.or_iff_not_imp_left, Option.any_eq_true, Nat.blt_eq] using regular.2

theorem isLower_iff {c : Char} : c.isLower = true ↔ 97 ≤ c.toNat ∧ c.toNat ≤ 122 :=
  Bool.and_eq_true_iff.trans (and_congr decide_eq_true_iff decide_eq_true_iff)

/-- The capital of a small letter of ASCII, or the character itself. -/
theorem toUpper_ascii : ∀ code < 128,
    if 97 ≤ code ∧ code ≤ 122 then (Char.ofNat code).toUpper = Char.ofNat (65 + (code - 97))
    else (Char.ofNat code).toUpper = Char.ofNat code := by
  decide

/-- A character is a letter with a capital, or its own uppercase and no small letter of ASCII. -/
theorem toUppercase_cases (c : Char) :
    (toUppercase c = [c] ∧ c.isLower = false) ∨
      ∃ images, (c.toNat, images) ∈ capitals ∧ toUppercase c = images.map Char.ofNat := by
  by_cases ascii : c.toNat < 128
  · have converted := toUpper_ascii c.toNat ascii
    rw [Char.ofNat_toNat] at converted
    rw [toUppercase, isAscii, if_pos (decide_eq_true ascii)]
    split at converted
    case isTrue small =>
      refine .inr ⟨[65 + (c.toNat - 97)], List.mem_append_left _ ?_, by rw [converted]; rfl⟩
      exact List.mem_map.mpr ⟨c.toNat - 97, List.mem_range.mpr (by omega),
        Prod.ext (by simp only; omega) rfl⟩
    case isFalse other =>
      exact .inl ⟨by rw [converted], Bool.eq_false_iff.mpr (mt isLower_iff.mp other)⟩
  · rw [toUppercase, isAscii, if_neg (by simpa using ascii)]
    cases found : toUppercaseMap.find? c.toNat with
    | none =>
        refine .inl ⟨rfl, Bool.eq_false_iff.mpr fun small => ?_⟩
        have bounds := isLower_iff.mp small
        omega
    | some images =>
        exact .inr ⟨images, List.mem_append_right _ (CodeMap.mem_of_search found), rfl⟩

theorem mem_toUppercaseMap {entry : Nat × List Nat}
    (listed : entry ∈ [(0x345, [0x399]), (0x17f, [0x53])]) :
    entry ∈ toUppercaseMap.entries.toList := by
  have checked := capitals_checked
  rw [Bool.and_eq_true, Bool.and_eq_true] at checked
  exact List.contains_iff_mem.mp (List.all_eq_true.mp checked.2 entry listed)

theorem toUppercase_of_mem {c : Char} {images : List Nat} (other : 128 ≤ c.toNat)
    (listed : (c.toNat, images) ∈ toUppercaseMap.entries.toList) :
    toUppercase c = images.map Char.ofNat := by
  rw [toUppercase, isAscii, if_neg (by simpa using other), CodeMap.find?_of_mem
    toUppercaseMap_isOrdered listed]

/-- The uppercase of a character can stand in an identifier exactly if the character can. -/
theorem canContinue_toUppercase (c : Char) :
    (∀ image ∈ toUppercase c, CanContinue image) ↔ CanContinue c := by
  rcases toUppercase_cases c with ⟨same, _⟩ | ⟨images, listed, converted⟩
  · rw [same, List.forall_mem_singleton]
  · rcases capital_spec listed with ⟨restored, first, rest, nonempty, _⟩
    have image : first ∈ images := by rw [nonempty]; exact List.mem_cons_self
    have codes : (∀ image ∈ toUppercase c, CanContinue image) ↔
        ∀ code ∈ images, identifierParts.contains code = true := by
      rw [converted, List.forall_mem_map]
      exact forall₂_congr fun code image => by rw [CanContinue, restored code image]
    rw [codes, CanContinue]
    cases inCircle : isCircled (c.toNat, images) with
    | true =>
        have outside := not_contains_of_circled parts_checked inCircle
        exact iff_of_false (fun all => outside first (List.mem_cons_of_mem _ image) (all first image))
          (outside _ List.mem_cons_self)
    | false =>
        have inside : ∀ code ∈ c.toNat :: images, identifierParts.contains code = true := by
          intro code listedCode
          apply contains_of_checks parts_checked
          exact List.mem_cons_of_mem _ (mem_partCodes listed inCircle code listedCode)
        exact iff_of_true (List.forall_mem_cons.mp inside).2 (List.forall_mem_cons.mp inside).1

/-- The capital of a letter begins as an identifier does exactly if the letter is able to begin one
or is an iota below a letter. -/
theorem canBegin_capital {c : Char} {first : Nat} {rest : List Nat}
    (listed : (c.toNat, first :: rest) ∈ capitals) :
    identifierStarts.contains first = true ↔ CanBegin c ∨ c = iotaBelow := by
  cases inCircle : isCircled (c.toNat, first :: rest) with
  | true =>
      have outside := not_contains_of_circled starts_checked inCircle
      refine iff_of_false (outside first (List.mem_cons_of_mem _ List.mem_cons_self)) ?_
      rintro (begins | rfl)
      · exact outside _ List.mem_cons_self begins
      · cases inCircle
  | false =>
      rcases mem_startCodes listed inCircle with ⟨capital, letter⟩
      refine iff_of_true (contains_of_checks starts_checked capital) ?_
      by_cases iota : c.toNat = 0x345
      · right
        rw [← Char.ofNat_toNat c, iota]
        rfl
      · left
        exact contains_of_checks starts_checked (letter iota)

/-- The uppercase of a character begins as an identifier does exactly if the character is able to
begin one or is an iota below a letter.  It does not begin with a small letter, nor with a digit or
an underscore unless the character is one. -/
theorem exists_capital (c : Char) : ∃ first rest, toUppercase c = first :: rest ∧
    (CanBegin first ↔ CanBegin c ∨ c = iotaBelow) ∧ first.isLower = false ∧
    (first = c ∨ first.isDigit = false ∧ first ≠ '_') := by
  rcases toUppercase_cases c with ⟨same, notSmall⟩ | ⟨images, listed, converted⟩
  · refine ⟨c, [], same, ⟨.inl, ?_⟩, notSmall, .inl rfl⟩
    rintro (begins | rfl)
    · exact begins
    · have moved := toUppercase_of_mem (c := iotaBelow) (by decide)
        (mem_toUppercaseMap List.mem_cons_self)
      rw [same] at moved
      exact absurd moved (by decide)
  · rcases capital_spec listed with ⟨restored, first, rest, rfl, notSmall, _⟩
    have code := restored first List.mem_cons_self
    refine ⟨Char.ofNat first, rest.map Char.ofNat, converted, ?_, ?_, .inr ⟨?_, ?_⟩⟩
    · rw [CanBegin, code, canBegin_capital listed]
    · refine Bool.eq_false_iff.mpr fun small => ?_
      have bounds := isLower_iff.mp small
      omega
    · refine Bool.eq_false_iff.mpr fun digit => ?_
      have bounds := isDigit_bounds digit
      omega
    · intro same
      rw [same] at code
      change 95 = first at code
      omega

/-- Small letters of ASCII can stand anywhere in an identifier. -/
theorem canBegin_isLower {c : Char} (small : c.isLower = true) : CanBegin c ∧ CanContinue c := by
  have bounds := isLower_iff.mp small
  have listed : (c.toNat, [c.toNat - 32]) ∈ capitals := by
    apply List.mem_append_left
    exact List.mem_map.mpr ⟨c.toNat - 97, List.mem_range.mpr (by omega), by
      rw [show 97 + (c.toNat - 97) = c.toNat by omega,
        show 65 + (c.toNat - 97) = c.toNat - 32 by omega]⟩
  have lettered : isCircled (c.toNat, [c.toNat - 32]) = false := by
    apply Bool.eq_false_iff.mpr
    intro circled
    have between := List.all_eq_true.mp circled c.toNat List.mem_cons_self
    rw [Bool.and_eq_true, Nat.ble_eq, Nat.ble_eq] at between
    omega
  constructor
  · exact contains_of_checks starts_checked ((mem_startCodes listed lettered).2 (by omega))
  · apply contains_of_checks parts_checked
    exact List.mem_cons_of_mem _ (mem_partCodes listed lettered _ List.mem_cons_self)

/-- The uppercase of a character begins with `S`, and then goes on with a small letter, only if it
is that of a letter `s`. -/
theorem toUppercase_append_eq_s {c : Char} {rest others : List Char} :
    toUppercase c ++ rest = 'S' :: 'e' :: others ↔
      c ∈ ['s', 'S', 'ſ'] ∧ rest = 'e' :: others := by
  constructor
  · intro same
    rcases toUppercase_cases c with ⟨own, _⟩ | ⟨images, listed, converted⟩
    · rw [own] at same
      rcases List.cons.inj same with ⟨rfl, left⟩
      exact ⟨by decide, left⟩
    · rcases capital_spec listed with ⟨restored, first, images, rfl, _, isS⟩
      rw [converted, List.map_cons, List.cons_append] at same
      rcases List.cons.inj same with ⟨begins, left⟩
      have code := restored first List.mem_cons_self
      rw [begins] at code
      rcases isS code.symm with ⟨letter, rfl⟩ | ⟨second, image, capital⟩
      · refine ⟨?_, left⟩
        rw [← Char.ofNat_toNat c]
        rcases letter with letter | letter <;> rw [letter] <;> decide
      · cases images with
        | nil => cases image
        | cons second images =>
            cases image
            have second := restored second (List.mem_cons_of_mem _ List.mem_cons_self)
            rw [(List.cons.inj left).1] at second
            change 101 = _ at second
            omega
  · rintro ⟨letter, rfl⟩
    have capital : toUppercase c = ['S'] := by
      simp only [List.mem_cons, List.not_mem_nil, or_false] at letter
      rcases letter with rfl | rfl | rfl
      · rfl
      · rfl
      · exact toUppercase_of_mem (c := 'ſ') (by decide)
          (mem_toUppercaseMap (List.mem_cons_of_mem _ List.mem_cons_self))
    rw [capital]
    rfl

end Text
end Conformance
