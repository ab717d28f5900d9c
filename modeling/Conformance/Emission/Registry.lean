import Conformance.Emission.Error

namespace Conformance

/-!
# Registries of declarations

A registry collects the declarations of types under their names, in the order of
their registration.  The first declaration of a name stays.  A lenient registry
ignores any later one and lets emission stop at a name that it has; a strict one
has everything declared again and refuses a name that stands for two texts.
-/

/-- What happens to a second declaration of a name. -/
inductive RegistryMode where
  | firstWins
  | strict
deriving DecidableEq, Repr

/-- Declarations under their names. -/
structure Registry where
  mode : RegistryMode
  definitions : List (String × String)
deriving DecidableEq, Repr

namespace Registry

/-- A registry without declarations. -/
def empty (mode : RegistryMode) : Registry := ⟨mode, []⟩

/-- The declaration of a name. -/
def get? (registry : Registry) (name : String) : Option String :=
  registry.definitions.lookup name

/-- Whether a name is declared. -/
def contains (registry : Registry) (name : String) : Bool := (registry.get? name).isSome

/-- Whether emission can stop at a name. -/
def resolves (registry : Registry) (name : String) : Bool :=
  registry.mode == .firstWins && registry.contains name

/-- The count of declarations. -/
def size (registry : Registry) : Nat := registry.definitions.length

/-- The declared names in the order of registration. -/
def names (registry : Registry) : List String := registry.definitions.map Prod.fst

/-- Whether a name can be declared with a text, and whether it is new. -/
def insert (registry : Registry) (name text : String) :
    Except EmissionError (Bool × Registry) :=
  match registry.get? name with
  | none => .ok (true, { registry with definitions := registry.definitions ++ [(name, text)] })
  | some existing =>
      if registry.mode == .strict && existing != text then .error (.conflictingDefinition name)
      else .ok (false, registry)

/-- All declarations, with an empty line between two of them. -/
def render (registry : Registry) : String :=
  "\n".intercalate (registry.definitions.map Prod.snd)

end Registry

/-- An emission, which may fail after it registered declarations.  What it
registered stays. -/
abbrev Emitting : Type → Type := ExceptT EmissionError (StateM Registry)

namespace Emitting

/-- Registers a declaration, unless its name is taken. -/
def declare (name text : String) : Emitting Unit := do
  match (← get).insert name text with
  | .ok (_, registry) => set registry
  | .error error => throw error

/-- Whether emission can stop at a name. -/
def resolves (name : String) : Emitting Bool := return (← get).resolves name

end Emitting
end Conformance
