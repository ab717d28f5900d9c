namespace Conformance

/-!
# Paths

A path tells where in a value a failure is.  It begins with a context that the
caller names, which may be empty, and every step down adds a segment.  A key
directly under an empty context stands alone, any other key is bracketed and
quoted, and an index is bracketed.
-/

/-- A step down into a value. -/
inductive Segment where
  | key (name : String)
  | index (position : Nat)
deriving DecidableEq, Repr

namespace Segment

/-- A character inside a quoted key. -/
def escapeChar (c : Char) : List Char :=
  if c = '\'' || c = '\\' then ['\\', c] else [c]

/-- A key in brackets and quotes. -/
def quotedKey (name : String) : List Char :=
  '[' :: '\'' :: name.toList.flatMap escapeChar ++ ['\'', ']']

/-- The path one step below a path. -/
def below (parent : String) : Segment → String
  | .key name =>
      if parent.isEmpty then name else parent ++ String.ofList (quotedKey name)
  | .index position => parent ++ "[" ++ toString position ++ "]"

/-- The path below a context, segments outermost first. -/
def render (context : String) (segments : List Segment) : String :=
  segments.foldl below context

end Segment
end Conformance
