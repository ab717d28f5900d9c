import Conformance.Regex.Reader

namespace Conformance

/-!
# Patterns

A pattern is a source text together with the expression that it reads as.  The
source determines the expression, so patterns with one source are equal.
-/

/-- A pattern that was read successfully. -/
structure Pattern where
  source : String
  expr : Regex.Expr
  reads : Regex.read? source = some expr

namespace Pattern

/-- Reads a source text. -/
def ofSource? (source : String) : Option Pattern :=
  match reads : Regex.read? source with
  | none => none
  | some expr => some ⟨source, expr, reads⟩

/-- Patterns with one source are equal. -/
theorem ext {left right : Pattern} (same : left.source = right.source) : left = right := by
  cases left with
  | mk source expr reads =>
      cases right with
      | mk source' expr' reads' =>
          cases same
          have equal : expr = expr' := Option.some.inj (reads.symm.trans reads')
          cases equal
          rfl

instance : DecidableEq Pattern := fun left right =>
  if same : left.source = right.source then isTrue (ext same)
  else isFalse fun equal => same (congrArg source equal)

/-- Whether the pattern matches somewhere in a text. -/
def isMatch (pattern : Pattern) (text : String) : Bool :=
  pattern.expr.isMatch text

/-- The pattern between slashes. -/
def display (pattern : Pattern) : String :=
  "Pattern(/" ++ pattern.source ++ "/)"

end Pattern
end Conformance
