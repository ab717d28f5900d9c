import Conformance.Regex.Property

namespace Conformance
namespace Regex

/-!
# Expressions and what they match

An expression is read as a map on sets of positions: from the positions where a
match may begin to those where it may end.  Choice is union, sequence is
composition, and repetition without an upper limit is a closure, which is
reached after at most as many rounds as there are positions.  A set of positions
is a number whose bits are its members, so advancing by one character is one
shift.

A text matches when some match begins anywhere and ends anywhere.
-/

/-- A condition on a position that consumes nothing. -/
inductive Assertion where
  | textStart
  | textEnd
  | lineStart (crlf : Bool)
  | lineEnd (crlf : Bool)
  | wordBoundary (unicode : Bool)
  | notWordBoundary (unicode : Bool)
  | wordStart (unicode : Bool)
  | wordEnd (unicode : Bool)
  | wordStartHalf (unicode : Bool)
  | wordEndHalf (unicode : Bool)
deriving DecidableEq, Repr

/-- A regular expression. -/
inductive Expr where
  | empty
  | chars (set : CharSet)
  | assert (assertion : Assertion)
  | sequence (first second : Expr)
  | choice (first second : Expr)
  | repetition (body : Expr) (least : Nat) (most : Option Nat)

/-- The text of a match, with random access. -/
abbrev Subject := Array Char

namespace Subject

/-- Whether the character at a position belongs to a word. -/
def isWordAt (subject : Subject) (unicode : Bool) (position : Nat) : Bool :=
  match subject[position]? with
  | none => false
  | some c => ((letterClass? unicode 'w').map fun set => set.contains c.toNat).getD false

/-- Whether the character before a position belongs to a word. -/
def isWordBefore (subject : Subject) (unicode : Bool) (position : Nat) : Bool :=
  0 < position && subject.isWordAt unicode (position - 1)

/-- The character before a position. -/
def before? (subject : Subject) (position : Nat) : Option Char :=
  if position = 0 then none else subject[position - 1]?

/-- Whether an assertion holds at a position. -/
def holds (subject : Subject) (position : Nat) : Assertion → Bool
  | .textStart => position = 0
  | .textEnd => position = subject.size
  | .lineStart false => position = 0 || subject.before? position = some '\n'
  | .lineStart true =>
      position = 0 || subject.before? position = some '\n' ||
        (subject.before? position = some '\r' && subject[position]? ≠ some '\n')
  | .lineEnd false => position = subject.size || subject[position]? = some '\n'
  | .lineEnd true =>
      position = subject.size || subject[position]? = some '\r' ||
        (subject[position]? = some '\n' && subject.before? position ≠ some '\r')
  | .wordBoundary unicode =>
      subject.isWordBefore unicode position != subject.isWordAt unicode position
  | .notWordBoundary unicode =>
      subject.isWordBefore unicode position == subject.isWordAt unicode position
  | .wordStart unicode =>
      !subject.isWordBefore unicode position && subject.isWordAt unicode position
  | .wordEnd unicode =>
      subject.isWordBefore unicode position && !subject.isWordAt unicode position
  | .wordStartHalf unicode => !subject.isWordBefore unicode position
  | .wordEndHalf unicode => !subject.isWordAt unicode position

/-- The positions up to the end of the text where a condition holds. -/
def positions (subject : Subject) (condition : Nat → Bool) : Nat :=
  (List.range (subject.size + 1)).foldl
    (fun bits position => if condition position then bits ||| 1 <<< position else bits) 0

end Subject

/-- Applies a map to a set that many times; it ends early when the set stays as
it is. -/
def iterate (step : Nat → Nat) : Nat → Nat → Nat
  | 0, set => set
  | rounds + 1, set =>
      let next := step set
      if next = set then set else iterate step rounds next

/-- The union of what at most that many applications of a map reach; it ends
early when an application adds nothing. -/
def closure (step : Nat → Nat) : Nat → Nat → Nat
  | 0, reached => reached
  | rounds + 1, reached =>
      let next := reached ||| step reached
      if next = reached then reached else closure step rounds next

/-- The positions where a match ends that begins at one of the given ones. -/
def Expr.reach (subject : Subject) : Expr → Nat → Nat
  | .empty, starts => starts
  | .chars set, starts =>
      let allowed := subject.positions fun position =>
        match subject[position]? with
        | none => false
        | some c => starts.testBit position && set.contains c.toNat
      (starts &&& allowed) <<< 1
  | .assert assertion, starts =>
      starts &&& subject.positions fun position =>
        starts.testBit position && subject.holds position assertion
  | .sequence first second, starts => second.reach subject (first.reach subject starts)
  | .choice first second, starts => first.reach subject starts ||| second.reach subject starts
  | .repetition body least most, starts =>
      let required := iterate (body.reach subject) least starts
      let extra :=
        match most with
        | none => subject.size + 1
        | some most => most - least
      closure (body.reach subject) extra required

/-- Whether an expression matches somewhere in a text. -/
def Expr.isMatch (expr : Expr) (text : String) : Bool :=
  let subject : Subject := text.toList.toArray
  expr.reach subject (Nat.pow 2 (subject.size + 1) - 1) ≠ 0

/-- The bytes that an automaton spends on a set of characters. -/
def setCost (set : CharSet) : Nat :=
  match CharSet.ranges set with
  | [(first, last)] => if first = last || last < 128 then 32 * (Char.ofNat first).utf8Size else 128
  | ranges => if CharSet.isAscii set then 32 + 8 * ranges.length else 32 + 64 * ranges.length

/-- The bytes that an automaton for an expression spends.  Repetitions are
spelled out. -/
def Expr.cost : Expr → Nat
  | .empty => 32
  | .chars set => setCost set
  | .assert _ => 32
  | .sequence first second => first.cost + second.cost
  | .choice first second => 40 + first.cost + second.cost
  | .repetition body least none => 40 + body.cost * max 1 least
  | .repetition body least (some most) => body.cost * least + (most - least) * (40 + body.cost)

/-- The bytes that an automaton may spend. -/
def costLimit : Nat := 10 * Nat.pow 2 20

end Regex
end Conformance
