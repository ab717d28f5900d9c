import Conformance.Emission.Authoring
import Conformance.Proofs.Text.Delimited

namespace Conformance
namespace Authoring

/-!
# The parts of authoring text

Authoring text is made of words before brackets, numbers, quoted texts and keys.  Every one
of these shows where it ends, given what can follow it, and so do options with bounds and
the names behind a call.
-/

open Text

variable {rest others : List Char}

/-! ## Bounds -/

/-- The characters of numbers. -/
def isFigure (c : Char) : Bool := c.isDigit || c = '-' || c = '.'

theorem isFigure_of_isDigit {c : Char} (digit : c.isDigit = true) : isFigure c = true := by
  rw [isFigure, digit]
  rfl

theorem natural_isFigure (number : Nat) : ∀ c ∈ (toString number).toList, isFigure c = true :=
  fun c listed => isFigure_of_isDigit (natural_isDigit number c listed)

theorem toList_negative (number : Nat) :
    (toString (Int.negSucc number)).toList = '-' :: (toString (number + 1)).toList := by
  change ("-" ++ toString (number + 1)).toList = _
  rw [String.toList_append]
  rfl

theorem integer_isFigure (value : Int) : ∀ c ∈ (toString value).toList, isFigure c = true := by
  cases value with
  | ofNat number => exact natural_isFigure number
  | negSucc number =>
      rw [toList_negative]
      exact List.forall_mem_cons.mpr ⟨by decide, natural_isFigure (number + 1)⟩

theorem natural_ne_negative (natural number : Nat) :
    toString (Int.ofNat natural) ≠ toString (Int.negSucc number) := by
  intro same
  have digits : '-' ∈ Nat.toDigits 10 natural := by
    rw [← String.toList_ofList (l := Nat.toDigits 10 natural), ← Nat.toString_eq_ofList_toDigits]
    have texts := congrArg String.toList same
    rw [toList_negative] at texts
    change '-' ∈ (toString (Int.ofNat natural)).toList
    rw [texts]
    exact List.mem_cons_self
  exact absurd (Nat.isDigit_of_mem_toDigits (by decide) (by decide) digits) (by decide)

theorem integer_injective {left right : Int} (same : toString left = toString right) :
    left = right := by
  cases left with
  | ofNat number =>
      cases right with
      | ofNat other => exact congrArg Int.ofNat (natural_injective same)
      | negSucc other => exact absurd same (natural_ne_negative number other)
  | negSucc number =>
      cases right with
      | ofNat other => exact absurd same.symm (natural_ne_negative other number)
      | negSucc other =>
          have texts := congrArg String.toList same
          rw [toList_negative, toList_negative] at texts
          have numbers := natural_injective (String.toList_injective (List.cons.inj texts).2)
          exact congrArg Int.negSucc (Nat.succ.inj numbers)

/-- Options as names with values. -/
abbrev Settings : Type := List (String × String)

/-- The options for two bounds of which each may be missing. -/
def boundSettings (min max : String) (lower? upper? : Option String) : Settings :=
  (lower?.map (min, ·)).toList ++ (upper?.map (max, ·)).toList

namespace Settings

/-- The texts of options. -/
def texts (settings : Settings) : List String :=
  settings.map fun (name, value) => name ++ ": " ++ value

/-- Options behind others, up to the closing brace. -/
def further : Settings → List Char
  | [] => [' ', '}']
  | (name, value) :: rest =>
      ',' :: ' ' :: (name.toList ++ ':' :: ' ' :: (value.toList ++ further rest))

/-- Options in braces, or nothing if there are none. -/
def braced : Settings → List Char
  | [] => []
  | (name, value) :: rest =>
      '{' :: ' ' :: (name.toList ++ ':' :: ' ' :: (value.toList ++ further rest))

/-- Options in braces behind an argument, or nothing if there are none. -/
def behind : Settings → List Char
  | [] => []
  | setting :: rest => ',' :: ' ' :: braced (setting :: rest)

/-- Options whose names end before the colon and whose values are numbers. -/
def Numeric (settings : Settings) : Prop :=
  ∀ setting ∈ settings, (∀ c ∈ setting.1.toList, (c != ':') = true) ∧
    ∀ c ∈ setting.2.toList, isFigure c = true

variable {left right : Settings}

theorem stops_further (settings : Settings) (rest : List Char) :
    Stops isFigure (further settings ++ rest) := by
  cases settings <;> exact stops_cons (by decide) _

/-- A name with its value in front of further options. -/
theorem setting_delimits {first second : String × String} {tail otherTail : List Char}
    (firstNumeric : Numeric [first]) (secondNumeric : Numeric [second])
    (stops : Stops isFigure tail) (otherStops : Stops isFigure otherTail)
    (same : first.1.toList ++ ':' :: ' ' :: (first.2.toList ++ tail) =
      second.1.toList ++ ':' :: ' ' :: (second.2.toList ++ otherTail)) :
    first = second ∧ tail = otherTail := by
  have here := firstNumeric first List.mem_cons_self
  have there := secondNumeric second List.mem_cons_self
  rcases run_delimits here.1 there.1 (stops_cons (by decide) _) (stops_cons (by decide) _) same with
    ⟨names, tails⟩
  rcases run_delimits here.2 there.2 stops otherStops (List.cons.inj (List.cons.inj tails).2).2 with
    ⟨values, ends⟩
  exact ⟨Prod.ext (String.toList_injective names) (String.toList_injective values), ends⟩

theorem further_delimits (leftNumeric : Numeric left) (rightNumeric : Numeric right)
    (same : further left ++ rest = further right ++ others) : left = right ∧ rest = others := by
  induction left generalizing right with
  | nil =>
      cases right with
      | nil => exact ⟨rfl, (List.cons.inj (List.cons.inj same).2).2⟩
      | cons => exact absurd (List.cons.inj same).1 (by decide)
  | cons setting left inductionHypothesis =>
      cases right with
      | nil => exact absurd (List.cons.inj same).1 (by decide)
      | cons other right =>
          rw [Numeric, List.forall_mem_cons] at leftNumeric rightNumeric
          simp only [further, List.cons_append, List.append_assoc] at same
          rcases setting_delimits (List.forall_mem_singleton.mpr leftNumeric.1)
            (List.forall_mem_singleton.mpr rightNumeric.1) (stops_further left rest)
            (stops_further right others) (List.cons.inj (List.cons.inj same).2).2 with ⟨rfl, tails⟩
          rcases inductionHypothesis leftNumeric.2 rightNumeric.2 tails with ⟨rfl, ends⟩
          exact ⟨rfl, ends⟩

theorem braced_delimits (leftNumeric : Numeric left) (rightNumeric : Numeric right)
    (same : braced left ++ ')' :: rest = braced right ++ ')' :: others) :
    left = right ∧ rest = others := by
  cases left with
  | nil =>
      cases right with
      | nil => exact ⟨rfl, (List.cons.inj same).2⟩
      | cons => exact absurd (List.cons.inj same).1 (by decide)
  | cons setting left =>
      cases right with
      | nil => exact absurd (List.cons.inj same).1 (by decide)
      | cons other right =>
          -- Behind the brace stands what stands behind the comma in front of further options.
          have tails : further (setting :: left) ++ ')' :: rest =
              further (other :: right) ++ ')' :: others :=
            congrArg (',' :: ·) (List.cons.inj same).2
          rcases further_delimits leftNumeric rightNumeric tails with ⟨settings, ends⟩
          exact ⟨settings, (List.cons.inj ends).2⟩

theorem behind_delimits (leftNumeric : Numeric left) (rightNumeric : Numeric right)
    (same : behind left ++ ')' :: rest = behind right ++ ')' :: others) :
    left = right ∧ rest = others := by
  cases left with
  | nil =>
      cases right with
      | nil => exact ⟨rfl, (List.cons.inj same).2⟩
      | cons => exact absurd (List.cons.inj same).1 (by decide)
  | cons setting left =>
      cases right with
      | nil => exact absurd (List.cons.inj same).1 (by decide)
      | cons other right =>
          exact braced_delimits leftNumeric rightNumeric (List.cons.inj (List.cons.inj same).2).2

theorem toList_texts (setting : String × String) (settings : Settings) :
    (", ".intercalate (texts (setting :: settings)) ++ " \x7d").toList =
      setting.1.toList ++ ':' :: ' ' :: (setting.2.toList ++ further settings) := by
  have colon (name value : String) :
      (name ++ ": " ++ value).toList = name.toList ++ ':' :: ' ' :: value.toList := by
    simp only [String.toList_append, List.append_assoc]
    rfl
  induction settings generalizing setting with
  | nil =>
      simp only [texts, List.map_cons, List.map_nil, String.intercalate_singleton,
        String.toList_append, colon, List.append_assoc, List.cons_append]
      rfl
  | cons next settings inductionHypothesis =>
      have later := inductionHypothesis next
      rw [texts, List.map_cons, String.toList_append] at later
      simp only [texts, List.map_cons, String.intercalate_cons_cons, String.toList_append, colon,
        List.append_assoc, List.cons_append, later, further]
      rfl

theorem toList_braces (setting : String × String) (settings : Settings) :
    ("\x7b " ++ ", ".intercalate (texts (setting :: settings)) ++ " \x7d").toList =
      braced (setting :: settings) := by
  rw [String.append_assoc, String.toList_append, toList_texts]
  rfl

/-- A call without an argument. -/
theorem toList_call (name : String) (settings : Settings) :
    (call name [] settings.texts).toList = name.toList ++ '(' :: (braced settings ++ [')']) := by
  cases settings with
  | nil =>
      simp only [call, texts, List.map_nil, List.isEmpty_nil, String.toList_append, List.append_assoc]
      rfl
  | cons setting settings =>
      have called : call name [] (texts (setting :: settings)) = name ++ "(" ++
          ("\x7b " ++ ", ".intercalate (texts (setting :: settings)) ++ " \x7d") ++ ")" := rfl
      rw [called, String.toList_append, String.toList_append, String.toList_append, toList_braces,
        List.append_assoc, List.append_assoc]
      rfl

/-- A call with an argument. -/
theorem toList_call_argument (name text : String) (settings : Settings) :
    (call name [text] settings.texts).toList =
      name.toList ++ '(' :: (text.toList ++ (behind settings ++ [')'])) := by
  cases settings with
  | nil =>
      have called : call name [text] (texts []) = name ++ "(" ++ text ++ ")" := rfl
      rw [called, String.toList_append, String.toList_append, String.toList_append,
        List.append_assoc, List.append_assoc]
      rfl
  | cons setting settings =>
      have called : call name [text] (texts (setting :: settings)) = name ++ "(" ++ (text ++ ", " ++
          ("\x7b " ++ ", ".intercalate (texts (setting :: settings)) ++ " \x7d")) ++ ")" := rfl
      rw [called, String.toList_append, String.toList_append, String.toList_append,
        String.toList_append, String.toList_append, toList_braces]
      simp only [List.append_assoc]
      rfl

end Settings

section

variable {min max : String} {lower? upper? : Option String}

theorem option_eq_texts (name : String) (value? : Option String) :
    option name value? = Settings.texts (value?.map (name, ·)).toList := by
  cases value? <;> rfl

theorem options_eq_texts (min max : String) (lower? upper? : Option String) :
    option min lower? ++ option max upper? = (boundSettings min max lower? upper?).texts := by
  rw [option_eq_texts, option_eq_texts, boundSettings, Settings.texts, Settings.texts,
    Settings.texts, List.map_append]

theorem boundSettings_numeric (minName : min.toList.all (· != ':') = true)
    (maxName : max.toList.all (· != ':') = true)
    (lower : ∀ text ∈ lower?, ∀ c ∈ text.toList, isFigure c = true)
    (upper : ∀ text ∈ upper?, ∀ c ∈ text.toList, isFigure c = true) :
    (boundSettings min max lower? upper?).Numeric := by
  rintro ⟨name, value⟩ listed
  rcases List.mem_append.mp listed with isLower | isUpper
  · cases lower? with
    | none => cases isLower
    | some text =>
        cases List.mem_singleton.mp isLower
        exact ⟨List.all_eq_true.mp minName, lower value rfl⟩
  · cases upper? with
    | none => cases isUpper
    | some text =>
        cases List.mem_singleton.mp isUpper
        exact ⟨List.all_eq_true.mp maxName, upper value rfl⟩

/-- Options with different names tell which bound they are for. -/
theorem boundSettings_injective {otherLower? otherUpper? : Option String} (apart : min ≠ max)
    (same : boundSettings min max lower? upper? = boundSettings min max otherLower? otherUpper?) :
    lower? = otherLower? ∧ upper? = otherUpper? := by
  cases lower? <;> cases upper? <;> cases otherLower? <;> cases otherUpper? <;>
    simp_all [boundSettings]

end

/-! ## Keys -/

theorem plain_ne_colon {name : String} (plain : Naming.isPlainIdentifier name = true) :
    ∀ c ∈ name.toList, (c != ':') = true := by
  intro c listed
  refine bne_iff_ne.mpr ?_
  rintro rfl
  rw [Naming.isPlainIdentifier] at plain
  cases letters : name.toList with
  | nil =>
      rw [letters] at listed
      cases listed
  | cons first rest =>
      rw [letters, Bool.and_eq_true, List.all_eq_true] at plain
      rw [letters] at listed
      rcases List.mem_cons.mp listed with isFirst | later
      · rw [← isFirst] at plain
        exact absurd plain.1 (by decide)
      · exact absurd (plain.2 ':' later) (by decide)

/-- A plain identifier does not begin with a quote. -/
theorem plain_ne_quoted {name : String} (plain : Naming.isPlainIdentifier name = true)
    (other : String) (rest others : List Char) :
    name.toList ++ rest ≠ (quoted other).toList ++ others := by
  intro same
  rw [Naming.isPlainIdentifier] at plain
  cases letters : name.toList with
  | nil =>
      rw [letters] at plain
      cases plain
  | cons first tail =>
      rw [letters, Bool.and_eq_true] at plain
      rw [letters, toList_quoted] at same
      rw [(List.cons.inj same).1] at plain
      exact absurd plain.1 (by decide)

/-- The keys of an object show where they end, in front of a colon. -/
theorem key_delimits : Delimits (fun name => (key name).toList) (Stops (· != ':')) := by
  intro left right rest others ends otherEnds same
  simp only [key] at same
  split at same <;> split at same
  case isTrue.isTrue leftPlain rightPlain =>
    rcases run_delimits (plain_ne_colon leftPlain) (plain_ne_colon rightPlain) ends otherEnds same with
      ⟨names, rests⟩
    exact ⟨String.toList_injective names, rests⟩
  case isTrue.isFalse leftPlain _ => exact absurd same (plain_ne_quoted leftPlain _ _ _)
  case isFalse.isTrue _ rightPlain => exact absurd same.symm (plain_ne_quoted rightPlain _ _ _)
  case isFalse.isFalse => exact quoted_delimits trivial trivial same

/-! ## Names -/

/-- A name behind a call, if there is one. -/
def suffix (method : String) : Option String → List Char
  | none => []
  | some name => method.toList ++ ((quoted name).toList ++ [')'])

/-- A name behind a call shows where it ends, in front of anything that does not begin like
one. -/
theorem suffix_delimits (method : String) :
    Delimits (suffix method) fun rest => ¬ method.toList <+: rest := by
  intro left right rest others ends otherEnds same
  cases left with
  | none =>
      cases right with
      | none => exact ⟨rfl, same⟩
      | some name =>
          refine absurd ?_ ends
          rw [show rest = suffix method (some name) ++ others from same, suffix, List.append_assoc]
          exact List.prefix_append _ _
  | some name =>
      cases right with
      | none =>
          refine absurd ?_ otherEnds
          rw [show others = suffix method (some name) ++ rest from same.symm, suffix, List.append_assoc]
          exact List.prefix_append _ _
      | some other =>
          simp only [suffix, List.append_assoc] at same
          rcases quoted_delimits trivial trivial (List.append_cancel_left same) with ⟨names, tails⟩
          exact ⟨congrArg some names, (List.cons.inj tails).2⟩

/-- Both names behind a call. -/
def suffixes (header : Header) : List Char :=
  suffix ".named(" header.name ++ suffix ".rename(" header.rename

/-- The names behind a call show where they end, in front of anything but a full stop. -/
theorem suffixes_delimit {left right : Header} (ends : Stops (· == '.') rest)
    (otherEnds : Stops (· == '.') others) (same : suffixes left ++ rest = suffixes right ++ others) :
    left.name = right.name ∧ left.rename = right.rename ∧ rest = others := by
  have noRename {rest : List Char} (ends : Stops (· == '.') rest) :
      ¬ ".rename(".toList <+: rest := by
    rintro ⟨tail, equal⟩
    have stop := ends '.' (by rw [← equal]; rfl)
    exact absurd stop (by decide)
  have noName {rest : List Char} (ends : Stops (· == '.') rest) (rename : Option String) :
      ¬ ".named(".toList <+: suffix ".rename(" rename ++ rest := by
    rintro ⟨tail, equal⟩
    cases rename with
    | none =>
        have stop := ends '.' (by rw [show rest = _ from equal.symm]; rfl)
        exact absurd stop (by decide)
    | some name => exact absurd (List.cons.inj (List.cons.inj equal).2).1 (by decide)
  rw [suffixes, suffixes, List.append_assoc, List.append_assoc] at same
  rcases suffix_delimits ".named(" (noName ends _) (noName otherEnds _) same with ⟨names, tails⟩
  rcases suffix_delimits ".rename(" (noRename ends) (noRename otherEnds) tails with ⟨renames, rests⟩
  exact ⟨names, renames, rests⟩

end Authoring
end Conformance
