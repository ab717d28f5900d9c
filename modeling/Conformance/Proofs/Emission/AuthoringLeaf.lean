import Conformance.Proofs.Emission.AuthoringParts
import Conformance.Proofs.Number.Plain
import Conformance.Proofs.Schema.Tree

namespace Conformance

/-!
# Leaves in authoring text

A leaf is written as a word with its bounds or its text in brackets.  Bounds that do not bind
are left out, and then they are the usual ones, if they lie between the sentinels at all: what
is beyond a sentinel is written like the sentinel itself.  Between the sentinels the text of a
leaf tells the leaf.
-/

/-! ## Bounds between the sentinels -/

namespace LengthBounds

/-- No length is bounded by more than what stands for no bound. -/
def WithinSentinels (bounds : LengthBounds) : Prop := bounds.max ≤ maxSafeLength

/-- What binds tells the bounds. -/
theorem ofOptions_binding {bounds : LengthBounds} (within : bounds.WithinSentinels) :
    ofOptions bounds.lower? bounds.upper? = bounds := by
  have lower : bounds.lower?.getD unbounded.min = bounds.min := by
    rw [lower?]
    split
    case isTrue => rfl
    case isFalse zero => exact (Nat.eq_zero_of_not_pos zero).symm
  have upper : bounds.upper?.getD unbounded.max = bounds.max := by
    rw [upper?]
    split
    case isTrue => rfl
    case isFalse large => exact Nat.le_antisymm (Nat.le_of_not_lt large) within
  rw [ofOptions, lower, upper]

end LengthBounds

namespace IntegerRange

/-- No integer is bounded by more than what stands for no bound. -/
def WithinSentinels (range : IntegerRange) : Prop :=
  minSafeInteger ≤ range.min ∧ range.max ≤ maxSafeInteger

/-- What binds tells the range. -/
theorem ofOptions_binding {range : IntegerRange} (within : range.WithinSentinels) :
    ofOptions range.lower? range.upper? = range := by
  have lower : range.lower?.getD unbounded.min = range.min := by
    rw [lower?]
    split
    case isTrue => rfl
    case isFalse small => exact Int.le_antisymm within.1 (Int.not_lt.mp small)
  have upper : range.upper?.getD unbounded.max = range.max := by
    rw [upper?]
    split
    case isTrue => rfl
    case isFalse large => exact Int.le_antisymm (Int.not_lt.mp large) within.2
  rw [ofOptions, lower, upper]

end IntegerRange

namespace Binary64

variable {number low high min max : Binary64}

/-- A number that is neither below nor above one that is not zero is that number. -/
theorem eq_of_le_of_le {negative : Bool} {units : Nat} (positive : units ≠ 0)
    (above : (finite negative units).le number = true)
    (below : number.le (finite negative units) = true) : number = finite negative units := by
  cases number with
  | nan => cases below
  | infinite otherNegative =>
      cases otherNegative with
      | false => cases below
      | true => cases above
  | finite otherNegative otherUnits =>
      have equal : signedUnits negative units = signedUnits otherNegative otherUnits :=
        Int.le_antisymm (of_decide_eq_true above) (of_decide_eq_true below)
      cases negative <;> cases otherNegative <;> simp only [signedUnits] at equal <;> grind

/-- What does not exceed a number without being less than it is not less. -/
theorem le_of_not_lt (above : low.le number = true) (least : ¬ low.lt number = true) :
    number.le low = true := by
  rw [lt, above, Bool.true_and, Bool.not_eq_true, Bool.not_eq_false'] at least
  exact least

/-- Two ends in order between two finite numbers are finite. -/
theorem isFinite_of_between (lowFinite : low.isFinite = true) (highFinite : high.isFinite = true)
    (above : low.le min = true) (below : max.le high = true) (ordered : max.lt min = false) :
    min.isFinite = true ∧ max.isFinite = true := by
  cases low with
  | nan | infinite negative => cases lowFinite
  | finite lowNegative lowUnits =>
      cases high with
      | nan | infinite negative => cases highFinite
      | finite highNegative highUnits =>
          cases min with
          | nan => cases above
          | infinite negative =>
              cases negative with
              | true => cases above
              | false =>
                  cases max with
                  | nan => cases below
                  | infinite negative =>
                      cases negative with
                      | true => cases ordered
                      | false => cases below
                  | finite => cases ordered
          | finite =>
              cases max with
              | nan => cases below
              | infinite negative =>
                  cases negative with
                  | true => cases ordered
                  | false => cases below
              | finite => exact ⟨rfl, rfl⟩

end Binary64

namespace RealRange

/-- No real is bounded by more than what stands for no bound. -/
def WithinSentinels (range : RealRange) : Prop :=
  unbounded.min.le range.min = true ∧ range.max.le unbounded.max = true

/-- The ends are numbers of the format. -/
def IsRepresentable (range : RealRange) : Prop :=
  range.min.IsRepresentable ∧ range.max.IsRepresentable

theorem unbounded_eq : unbounded = ⟨.finite true (9007199254740991 * Binary64.unitsPerOne),
    .finite false (9007199254740991 * Binary64.unitsPerOne)⟩ := by
  decide +kernel

theorem safe_ne_zero : 9007199254740991 * Binary64.unitsPerOne ≠ 0 :=
  Nat.mul_ne_zero (by decide) Binary64.unitsPerOne_pos.ne'

/-- Between the sentinels, ends in order are finite. -/
theorem ends_finite {range : RealRange} (within : range.WithinSentinels)
    (ordered : range.max.lt range.min = false) :
    range.min.isFinite = true ∧ range.max.isFinite = true := by
  rw [WithinSentinels, unbounded_eq] at within
  exact Binary64.isFinite_of_between rfl rfl within.1 within.2 ordered

/-- What binds tells the range. -/
theorem ofOptions_binding {range : RealRange} (within : range.WithinSentinels) :
    ofOptions range.lower? range.upper? = range := by
  have lower : range.lower?.getD unbounded.min = range.min := by
    rw [lower?]
    split
    case isTrue => rfl
    case isFalse small =>
      have converse := Binary64.le_of_not_lt within.1 small
      have order := within.1
      rw [unbounded_eq] at converse order
      rw [unbounded_eq]
      exact (Binary64.eq_of_le_of_le safe_ne_zero order converse).symm
  have upper : range.upper?.getD unbounded.max = range.max := by
    rw [upper?]
    split
    case isTrue => rfl
    case isFalse large =>
      have converse := Binary64.le_of_not_lt within.2 large
      have order := within.2
      rw [unbounded_eq] at converse order
      rw [unbounded_eq]
      exact (Binary64.eq_of_le_of_le safe_ne_zero converse order).symm
  rw [ofOptions, lower, upper]

end RealRange
/-! ## Leaves that are written without loss -/

/-- A range whose text tells it: its ends are numbers of the format, in their order and
between the sentinels. -/
structure RealRange.Faithful (range : RealRange) : Prop where
  ordered : range.max.lt range.min = false
  within : range.WithinSentinels
  representable : range.IsRepresentable

/-- The bounds of a faithful range are finite numbers of the format. -/
theorem RealRange.Faithful.bound {range : RealRange} (faithful : range.Faithful)
    {bound : Binary64} (binds : bound ∈ range.lower? ∨ bound ∈ range.upper?) :
    bound.isFinite = true ∧ bound.IsRepresentable := by
  have finite := RealRange.ends_finite faithful.within faithful.ordered
  rcases binds with lower | upper
  · rw [RealRange.lower?, Option.mem_def, Option.ite_none_right_eq_some] at lower
    cases lower.2
    exact ⟨finite.1, faithful.representable.1⟩
  · rw [RealRange.upper?, Option.mem_def, Option.ite_none_right_eq_some] at upper
    cases upper.2
    exact ⟨finite.2, faithful.representable.2⟩

namespace Leaf

/-- Whether the bounds of a leaf lie between the sentinels. -/
def WithinSentinels : Leaf → Prop
  | .string length | .buffer length => length.WithinSentinels
  | .integer range => range.WithinSentinels
  | .real range => range.WithinSentinels
  | _ => True

/-- Whether the real bounds of a leaf are numbers of the format. -/
def IsRepresentable : Leaf → Prop
  | .real range => range.IsRepresentable
  | _ => True

/-- Whether the bounds of a leaf can be told from its text. -/
def Faithful : Leaf → Prop
  | .real range => range.Faithful
  | leaf => leaf.WithinSentinels

end Leaf

namespace Authoring

open Text

variable {rest others : List Char}

/-- The word of a leaf. -/
def leafWord : Leaf → String
  | .string _ => "string"
  | .integer _ => "integer"
  | .real _ => "float"
  | .boolean => "boolean"
  | .null => "null"
  | .undefined => "undefined"
  | .date => "date"
  | .timestamp .rfc3339 => "datetime"
  | .timestamp .lenient => "timestamp"
  | .exact _ => "exact"
  | .pattern _ => "regex"
  | .unknown => "unknown"
  | .buffer _ => "buffer"

/-- What stands in the brackets behind the word of a leaf. -/
inductive Inside where
  | options (settings : Settings)
  | text (quotedText : String)

/-- The options for bounds of a count. -/
def countSettings (min max : String) (bounds : LengthBounds) : Settings :=
  boundSettings min max (bounds.lower?.map toString) (bounds.upper?.map toString)

/-- What stands in the brackets of a leaf. -/
def leafInside : Leaf → Inside
  | .string length | .buffer length => .options (countSettings "min_length" "max_length" length)
  | .integer range =>
      .options (boundSettings "min" "max" (range.lower?.map toString) (range.upper?.map toString))
  | .real range =>
      .options (boundSettings "min" "max" (range.lower?.map Binary64.plain)
        (range.upper?.map Binary64.plain))
  | .exact expected => .text expected
  | .pattern pattern => .text pattern.source
  | _ => .options []

namespace Inside

/-- The characters in the brackets. -/
def characters : Inside → List Char
  | .options settings => settings.braced
  | .text quotedText => (quoted quotedText).toList

/-- The bounds in the brackets, if there are any, are numbers. -/
def Numeric : Inside → Prop
  | .options settings => settings.Numeric
  | .text _ => True

/-- What stands in brackets shows where it ends. -/
theorem characters_delimit {left right : Inside} (leftNumeric : left.Numeric)
    (rightNumeric : right.Numeric)
    (same : left.characters ++ ')' :: rest = right.characters ++ ')' :: others) :
    left = right ∧ rest = others := by
  have braced_ne_quoted {settings : Settings} {quotedText : String} {rest others : List Char} :
      settings.braced ++ ')' :: rest ≠ (quoted quotedText).toList ++ ')' :: others := by
    intro same
    rw [toList_quoted] at same
    cases settings with
    | nil => exact absurd (List.cons.inj same).1 (by decide)
    | cons => exact absurd (List.cons.inj same).1 (by decide)
  cases left with
  | options settings =>
      cases right with
      | options others =>
          rcases Settings.braced_delimits leftNumeric rightNumeric same with ⟨rfl, rests⟩
          exact ⟨rfl, rests⟩
      | text => exact absurd same braced_ne_quoted
  | text quotedText =>
      cases right with
      | options => exact absurd same.symm braced_ne_quoted
      | text otherText =>
          rcases quoted_delimits trivial trivial same with ⟨rfl, rests⟩
          exact ⟨rfl, (List.cons.inj rests).2⟩

end Inside

/-- A leaf is its word with what stands in the brackets. -/
theorem toList_leafCall (leaf : Leaf) :
    (leafCall leaf).toList =
      (leafWord leaf).toList ++ '(' :: ((leafInside leaf).characters ++ [')']) := by
  have bracketed (word quotedText : String) : (word ++ "(" ++ quoted quotedText ++ ")").toList =
      word.toList ++ '(' :: ((quoted quotedText).toList ++ [')']) := by
    simp only [String.toList_append, List.append_assoc]
    rfl
  cases leaf with
  | string length | buffer length =>
      rw [leafCall, countOptions, options_eq_texts, Settings.toList_call]
      rfl
  | integer range | real range =>
      rw [leafCall, options_eq_texts, Settings.toList_call]
      rfl
  | timestamp format => cases format <;> rfl
  | exact expected => exact bracketed "exact" expected
  | pattern pattern => exact bracketed "regex" pattern.source
  | _ => rfl

/-! ## The text of a leaf tells the leaf -/

/-- Options for bounds between the sentinels tell the bounds. -/
theorem countSettings_injective {min max : String} {left right : LengthBounds} (apart : min ≠ max)
    (leftWithin : left.WithinSentinels) (rightWithin : right.WithinSentinels)
    (same : countSettings min max left = countSettings min max right) : left = right := by
  rcases boundSettings_injective apart same with ⟨lower, upper⟩
  rw [← LengthBounds.ofOptions_binding leftWithin, ← LengthBounds.ofOptions_binding rightWithin,
    Option.map_injective (fun _ _ => natural_injective) lower,
    Option.map_injective (fun _ _ => natural_injective) upper]

theorem integerSettings_injective {min max : String} {left right : IntegerRange} (apart : min ≠ max)
    (leftWithin : left.WithinSentinels) (rightWithin : right.WithinSentinels)
    (same : boundSettings min max (left.lower?.map toString) (left.upper?.map toString) =
      boundSettings min max (right.lower?.map toString) (right.upper?.map toString)) :
    left = right := by
  rcases boundSettings_injective apart same with ⟨lower, upper⟩
  rw [← IntegerRange.ofOptions_binding leftWithin, ← IntegerRange.ofOptions_binding rightWithin,
    Option.map_injective (fun _ _ => integer_injective) lower,
    Option.map_injective (fun _ _ => integer_injective) upper]

theorem map_plain_injective {left? right? : Option Binary64}
    (leftKnown : ∀ value ∈ left?, value.isFinite = true ∧ value.IsRepresentable)
    (rightKnown : ∀ value ∈ right?, value.isFinite = true ∧ value.IsRepresentable)
    (same : left?.map Binary64.plain = right?.map Binary64.plain) : left? = right? := by
  cases left? with
  | none => exact (Option.map_eq_none_iff.mp same.symm).symm
  | some left =>
      cases right? with
      | none => cases same
      | some right =>
          have here := leftKnown left rfl
          have there := rightKnown right rfl
          rw [Binary64.plain_injective here.1 there.1 here.2 there.2 (Option.some.inj same)]

theorem realSettings_injective {min max : String} {left right : RealRange} (apart : min ≠ max)
    (leftFaithful : left.Faithful) (rightFaithful : right.Faithful)
    (same : boundSettings min max (left.lower?.map Binary64.plain) (left.upper?.map Binary64.plain) =
      boundSettings min max (right.lower?.map Binary64.plain) (right.upper?.map Binary64.plain)) :
    left = right := by
  rcases boundSettings_injective apart same with ⟨lower, upper⟩
  have lowerEq := map_plain_injective (fun _ binds => leftFaithful.bound (.inl binds))
    (fun _ binds => rightFaithful.bound (.inl binds)) lower
  have upperEq := map_plain_injective (fun _ binds => leftFaithful.bound (.inr binds))
    (fun _ binds => rightFaithful.bound (.inr binds)) upper
  rw [← RealRange.ofOptions_binding leftFaithful.within,
    ← RealRange.ofOptions_binding rightFaithful.within, lowerEq, upperEq]

theorem mapped_isFigure {Value : Type} {write : Value → String} {value? : Option Value}
    (figures : ∀ value ∈ value?, ∀ c ∈ (write value).toList, isFigure c = true) :
    ∀ text ∈ value?.map write, ∀ c ∈ text.toList, isFigure c = true := by
  intro text bound
  rcases Option.mem_map.mp bound with ⟨value, binds, rfl⟩
  exact figures value binds

theorem plain_isFigure {number : Binary64} (isFinite : number.isFinite = true) :
    ∀ c ∈ number.plain.toList, isFigure c = true := by
  intro c listed
  rcases Binary64.plain_characters isFinite c listed with digit | rfl | rfl
  · exact isFigure_of_isDigit digit
  · decide
  · decide

theorem countSettings_numeric {min max : String} (minName : min.toList.all (· != ':') = true)
    (maxName : max.toList.all (· != ':') = true) (bounds : LengthBounds) :
    (countSettings min max bounds).Numeric :=
  boundSettings_numeric minName maxName (mapped_isFigure fun value _ => natural_isFigure value)
    (mapped_isFigure fun value _ => natural_isFigure value)

theorem leafInside_numeric {leaf : Leaf} (faithful : leaf.Faithful) : (leafInside leaf).Numeric := by
  cases leaf with
  | string length | buffer length => exact countSettings_numeric (by decide) (by decide) length
  | integer range =>
      exact boundSettings_numeric (by decide) (by decide)
        (mapped_isFigure fun value _ => integer_isFigure value)
        (mapped_isFigure fun value _ => integer_isFigure value)
  | real range =>
      have known : range.Faithful := faithful
      exact boundSettings_numeric (by decide) (by decide)
        (mapped_isFigure fun value binds => plain_isFigure (known.bound (.inl binds)).1)
        (mapped_isFigure fun value binds => plain_isFigure (known.bound (.inr binds)).1)
  | exact | pattern => trivial
  | _ => exact fun setting listed => nomatch listed

/-- The word of a leaf tells its kind. -/
theorem kindName_eq (leaf : Leaf) :
    leaf.kindName =
      if leafWord leaf = "timestamp" then "datetime"
      else if leafWord leaf = "exact" then "exact string"
      else leafWord leaf := by
  cases leaf with
  | timestamp format => cases format <;> rfl
  | _ => rfl

/-- The word of a leaf and what stands in its brackets tell the leaf. -/
theorem leaf_injective {left right : Leaf} (leftFaithful : left.Faithful)
    (rightFaithful : right.Faithful) (sameWord : leafWord left = leafWord right)
    (sameInside : leafInside left = leafInside right) : left = right := by
  have sameKind : left.kindName = right.kindName := by
    rw [kindName_eq, kindName_eq, sameWord]
  cases left <;> cases right
  case string.string length otherLength =>
    rw [countSettings_injective (by decide) leftFaithful rightFaithful (Inside.options.inj sameInside)]
  case integer.integer range otherRange =>
    rw [integerSettings_injective (by decide) leftFaithful rightFaithful
      (Inside.options.inj sameInside)]
  case real.real range otherRange =>
    rw [realSettings_injective (by decide) leftFaithful rightFaithful (Inside.options.inj sameInside)]
  case exact.exact expected otherExpected => rw [Inside.text.inj sameInside]
  case pattern.pattern pattern otherPattern => rw [Pattern.ext (Inside.text.inj sameInside)]
  case buffer.buffer length otherLength =>
    rw [countSettings_injective (by decide) leftFaithful rightFaithful (Inside.options.inj sameInside)]
  case timestamp.timestamp format otherFormat =>
    cases format <;> cases otherFormat
    case rfc3339.rfc3339 | lenient.lenient => rfl
    all_goals exact absurd sameWord (by decide)
  case boolean.boolean | null.null | undefined.undefined | date.date | unknown.unknown => rfl
  all_goals simp only [Leaf.kindName, String.reduceEq] at sameKind

-- Beyond a sentinel the text does not tell the bound.
example : leafCall (.string ⟨0, maxSafeLength + 1⟩) = leafCall (.string .unbounded) := by decide

end Authoring
end Conformance
