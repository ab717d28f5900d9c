import Conformance.Failure.Path
import Conformance.Proofs.Text.Delimited
import Mathlib.Data.Set.Function

namespace Conformance
namespace Segment

/-!
# Paths are unambiguous

A key is any text, so inside of a path there can stand what looks like the end of a key or like
further segments.  Still a path tells its segments.  Below a context that is not empty every segment
is bracketed, and a bracketed segment shows where it ends: inside of a key every quote is behind a
backslash, and the digits of an index end at the bracket.

A key directly below an empty context is different, because it stands without any marks.  It ends
at the first opening bracket, so it must have none, and an empty one would leave no trace.
-/

open Text

/-- The text of a segment below a path that is not empty. -/
def bracketed : Segment → List Char
  | .key name => quotedKey name
  | .index position => '[' :: ((toString position).toList ++ [']'])

/-! ## Bracketed segments show where they end -/

/-- Inside of a key a backslash always belongs to the character behind it. -/
theorem escapeChar_delimits : Delimits escapeChar fun _ => True := by
  intro left right rest others _ _ same
  unfold escapeChar at same
  split at same <;> split at same
  case isTrue.isTrue => exact List.cons.inj (List.cons.inj same).2
  case isTrue.isFalse plain => simp [← (List.cons.inj same).1] at plain
  case isFalse.isTrue plain _ => simp [(List.cons.inj same).1] at plain
  case isFalse.isFalse => exact List.cons.inj same

/-- No character inside of a key is written like the quote that ends the key. -/
theorem escapeChar_ne_quote (c : Char) (rest others : List Char) :
    escapeChar c ++ rest ≠ '\'' :: others := by
  intro same
  unfold escapeChar at same
  split at same
  case isTrue => exact absurd (List.cons.inj same).1 (by decide)
  case isFalse plain => simp [(List.cons.inj same).1] at plain

/-- The bracket of a key is followed by a quote, the one of an index by a digit. -/
theorem bracketed_key_ne_index (name : String) (position : Nat) (rest others : List Char) :
    bracketed (.key name) ++ rest ≠ bracketed (.index position) ++ others := by
  intro same
  have behind := (List.cons.inj same).2
  cases digits : (toString position).toList with
  | nil =>
      rw [digits] at behind
      exact absurd (List.cons.inj behind).1 (by decide)
  | cons digit more =>
      rw [digits] at behind
      have isDigit := natural_isDigit position digit (by rw [digits]; exact List.mem_cons_self)
      rw [← (List.cons.inj behind).1] at isDigit
      exact absurd isDigit (by decide)

/-- A bracketed segment shows where it ends, whatever its key is made of. -/
theorem bracketed_delimits : Delimits bracketed fun _ => True := by
  intro left right rest others _ _ same
  cases left with
  | key name =>
      cases right with
      | key other =>
          have inside : (name.toList.flatMap escapeChar ++ ['\'']) ++ ']' :: rest =
              (other.toList.flatMap escapeChar ++ ['\'']) ++ ']' :: others := by
            simpa [bracketed, quotedKey] using same
          rcases flatMap_delimits escapeChar_delimits escapeChar_ne_quote trivial trivial inside with
            ⟨characters, rests⟩
          exact ⟨congrArg key (String.toList_injective characters), (List.cons.inj rests).2⟩
      | index position => exact absurd same (bracketed_key_ne_index name position rest others)
  | index position =>
      cases right with
      | key name => exact absurd same.symm (bracketed_key_ne_index name position others rest)
      | index other =>
          have inside : (toString position).toList ++ ']' :: rest =
              (toString other).toList ++ ']' :: others := by
            simpa [bracketed] using same
          rcases natural_delimits (stops_cons rfl rest) (stops_cons rfl others) inside with
            ⟨rfl, rests⟩
          exact ⟨rfl, (List.cons.inj rests).2⟩

/-- So do several of them together, up to the end of the text. -/
theorem flatMap_bracketed_injective :
    Function.Injective fun segments : List Segment => segments.flatMap bracketed := by
  intro left right same
  have apart (segment : Segment) (rest others : List Char) :
      bracketed segment ++ rest ≠ ']' :: others := by
    intro equal
    cases segment <;> exact absurd (List.cons.inj equal).1 (by decide)
  have closed : left.flatMap bracketed ++ [']'] ++ [] = right.flatMap bracketed ++ [']'] ++ [] :=
    congrArg (fun text => text ++ [']'] ++ []) same
  exact (flatMap_delimits bracketed_delimits apart trivial trivial closed).1

/-! ## Paths below a context -/

theorem toList_below {parent : String} (nonempty : parent ≠ "") (segment : Segment) :
    (below parent segment).toList = parent.toList ++ bracketed segment := by
  have notEmpty : parent.isEmpty = false := by simpa using nonempty
  cases segment with
  | key name => simp [below, notEmpty, bracketed]
  | index position => simp [below, bracketed]

/-- Below a context that is not empty all segments are bracketed. -/
theorem toList_render {context : String} (nonempty : context ≠ "") (segments : List Segment) :
    (render context segments).toList = context.toList ++ segments.flatMap bracketed := by
  induction segments generalizing context with
  | nil => simp [render]
  | cons segment rest inductionHypothesis =>
      have longer : below context segment ≠ "" := by
        intro empty
        have text := toList_below nonempty segment
        simp [empty, nonempty] at text
      have unfolded : render context (segment :: rest) = render (below context segment) rest := rfl
      rw [unfolded, inductionHypothesis longer, toList_below nonempty, List.append_assoc,
        List.flatMap_cons]

/-- Segments of which the first, if it is a key, is not empty and has no opening bracket. -/
def StandAlone : List Segment → Prop
  | .key name :: _ => name ≠ "" ∧ '[' ∉ name.toList
  | _ => True

/-- The segments of a path below an empty context: a bare key, if there is one in front, and
bracketed segments. -/
def behindKey (front : List Char) (rest : List Segment) : List Segment :=
  if front = [] then rest else .key (String.ofList front) :: rest

/-- Below an empty context a path begins with a key without marks, or with nothing of that sort. -/
theorem toList_render_empty {segments : List Segment} (stand : StandAlone segments) :
    ∃ front rest, (render "" segments).toList = front ++ rest.flatMap bracketed ∧
      (∀ c ∈ front, (c != '[') = true) ∧ segments = behindKey front rest := by
  cases segments with
  | nil => exact ⟨[], [], rfl, by simp, rfl⟩
  | cons segment rest =>
      have unfolded : render "" (segment :: rest) = render (below "" segment) rest := rfl
      cases segment with
      | key name =>
          have bare : below "" (.key name) = name := rfl
          have named : name.toList ≠ [] := by simpa using stand.1
          refine ⟨name.toList, rest, by rw [unfolded, bare, toList_render stand.1], ?_, ?_⟩
          · intro c listed
            exact bne_iff_ne.mpr (ne_of_mem_of_not_mem listed stand.2)
          · rw [behindKey, if_neg named, String.ofList_toList]
      | index position =>
          have text : (below "" (.index position)).toList = bracketed (.index position) := by
            simp [below, bracketed]
          have named : below "" (.index position) ≠ "" := by
            intro empty
            simp [empty, bracketed] at text
          refine ⟨[], .index position :: rest, ?_, by simp, rfl⟩
          rw [unfolded, toList_render named, text, List.nil_append, List.flatMap_cons]

/-- Whatever stands behind a first key is empty or begins with a bracket. -/
theorem stops_flatMap_bracketed (segments : List Segment) :
    Stops (· != '[') (segments.flatMap bracketed) := by
  cases segments with
  | nil => rintro _ ⟨⟩
  | cons segment rest => cases segment <;> exact stops_cons (by decide) _

/-- Paths are unambiguous.  Below a context that is not empty, different segments have different
paths.  Below an empty context the same holds of segments that do not begin with a key which is
empty or has an opening bracket. -/
theorem path_injective :
    (∀ context : String, context ≠ "" → Function.Injective (render context)) ∧
      Set.InjOn (render "") {segments | StandAlone segments} := by
  constructor
  · intro context nonempty left right same
    have texts := congrArg String.toList same
    rw [toList_render nonempty, toList_render nonempty] at texts
    exact flatMap_bracketed_injective (List.append_cancel_left texts)
  · intro left leftStands right rightStands same
    rcases toList_render_empty leftStands with ⟨front, rest, text, frontSort, rfl⟩
    rcases toList_render_empty rightStands with ⟨otherFront, others, otherText, otherSort, rfl⟩
    have texts : front ++ rest.flatMap bracketed = otherFront ++ others.flatMap bracketed := by
      rw [← text, ← otherText, same]
    rcases run_delimits frontSort otherSort (stops_flatMap_bracketed rest)
      (stops_flatMap_bracketed others) texts with ⟨rfl, rests⟩
    rw [flatMap_bracketed_injective rests]

/-- A key that looks like the end of a key and a further one is not taken for two keys, whether it
stands below a context or below a first key. -/
theorem path_injective_bracketLike :
    "reading" ≠ "" ∧
      render "reading" [.key "a']['b"] ≠ render "reading" [.key "a", .key "b"] ∧
      StandAlone [.key "reading", .key "0]"] ∧ StandAlone [.key "reading", .index 0] ∧
      render "" [.key "reading", .key "0]"] ≠ render "" [.key "reading", .index 0] := by
  have named : "reading" ≠ "" := by decide
  have keyStands : StandAlone [.key "reading", .key "0]"] := ⟨by decide, by decide⟩
  have indexStands : StandAlone [.key "reading", .index 0] := ⟨by decide, by decide⟩
  refine ⟨named, ?_, keyStands, indexStands, ?_⟩
  · exact (path_injective.1 "reading" named).ne (by decide)
  · exact fun same => absurd (path_injective.2 keyStands indexStands same) (by decide)

/-- A first key with an opening bracket can be taken for a key and an index. -/
example : render "" [.key "a[0]"] = render "" [.key "a", .index 0] := by decide +kernel

end Segment
end Conformance
