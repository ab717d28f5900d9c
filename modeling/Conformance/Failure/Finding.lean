import Conformance.Failure.Path
import Conformance.Failure.Template

namespace Conformance

/-!
# Findings

A check does not write paths.  What it finds remembers the steps from the value
that is checked down to the place of the failure, and only a report puts a
context in front and renders the path.  So what a check finds does not depend on
the context in which it is reported.
-/

/-- A failure at a place below the value that is checked, outermost step first. -/
structure Finding where
  kind : FailureKind
  message : String
  value : Option Value
  place : List Segment

/-- The failure of a finding in a context. -/
def Finding.failure (context : String) (finding : Finding) : Failure :=
  ⟨finding.kind, finding.message, finding.value, Segment.render context finding.place⟩

/-- The finding of a template at a place. -/
def Template.finding (template : Template) (value : Option Value) (found : Option Nat)
    (place : List Segment) : Finding :=
  ⟨template.kind, template.render found, value, place⟩

namespace Value

/-- The items of a list with the steps that lead to them, the first at the given
position. -/
def indexedFrom (position : Nat) : List Value → List (Segment × Value)
  | [] => []
  | item :: rest => (.index position, item) :: indexedFrom (position + 1) rest

/-- The items of a list with the steps that lead to them. -/
def indexed (items : List Value) : List (Segment × Value) := indexedFrom 0 items

/-- The entries of a record with the steps that lead to them. -/
def keyed (entries : List (String × Value)) : List (Segment × Value) :=
  entries.map fun (key, value) => (.key key, value)

end Value
end Conformance
