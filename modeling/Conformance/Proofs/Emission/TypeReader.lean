import Conformance.Proofs.Emission.TypeToken
import Mathlib.Data.List.Basic

namespace Conformance
namespace Structural

/-!
# Reading type expressions

The tokens of a type expression are read by a machine that keeps the forms still open, the
innermost first, and what may come next.  With every open form it keeps the constituents
that stand in front of the form in their union.  Every token changes the machine in one
step, so reading is one pass over the tokens.

What is written for a type is read as the type again, unless a carriage return is written:
such a text is no type at all.  So no two types have one text without a carriage return.
-/

/-- A form still open. -/
inductive Frame where
  | property (before : List (String × TypeExpr)) (name : String)
  | array
  | record
  | position (before : List TypeExpr)
  | rest (before : List TypeExpr)
deriving Repr

/-- What may come next: another constituent of a union, the end of a union or its next
constituent, a property or the end of an object, or tokens that must come. -/
inductive Expected where
  | constituent (before : TypeExpr)
  | separator (before : TypeExpr)
  | key (outer : TypeExpr) (before : List (String × TypeExpr))
  | tokens (first : Token) (others : List Token) (next : Expected)
deriving Repr

/-- The machine. -/
structure Machine where
  frames : List (TypeExpr × Frame)
  expected : Expected
deriving Repr

namespace Machine

/-- Expects some tokens before anything else. -/
def after (tokens : List Token) (next : Expected) : Expected :=
  match tokens with
  | [] => next
  | first :: others => .tokens first others next

/-- The machine after another constituent. -/
def extend (frames : List (TypeExpr × Frame)) (before : TypeExpr) (constituent : Constituent) :
    Machine :=
  ⟨frames, .separator (before ++ [constituent])⟩

/-- Reads a word that begins a constituent. -/
def word? (frames : List (TypeExpr × Frame)) (before : TypeExpr) (word : String) : Option Machine :=
  if word = "Array" then
    some ⟨(before, .array) :: frames, after [.mark '<'] (.constituent [])⟩
  else if word = "Record" then
    some ⟨(before, .record) :: frames,
      after [.mark '<', .word "string", .mark ','] (.constituent [])⟩
  else (Keyword.ofName? word).map fun keyword => extend frames before (.keyword keyword)

/-- Reads the token that begins a constituent.  A tuple may end before its first position,
and any other position may be the open end of the tuple. -/
def constituent? (frames : List (TypeExpr × Frame)) (before : TypeExpr) : Token → Option Machine
  | .word word => word? frames before word
  | .literal text => some (extend frames before (.literal text))
  | .mark '{' => some ⟨frames, .key before []⟩
  | .mark '[' => some ⟨(before, .position []) :: frames, .constituent []⟩
  | .mark ']' =>
      match before, frames with
      | [], (outer, .position []) :: frames => some (extend frames outer (.tuple []))
      | _, _ => none
  | .mark '.' =>
      match before, frames with
      | [], (outer, .position (first :: others)) :: frames =>
          some ⟨(outer, .rest (first :: others)) :: frames,
            after [.mark '.', .mark '.', .word "Array", .mark '<'] (.constituent [])⟩
      | _, _ => none
  | _ => none

/-- Reads the token behind a constituent, which goes on with the union or ends it. -/
def separator? (frames : List (TypeExpr × Frame)) (type : TypeExpr) (token : Token) :
    Option Machine :=
  match token, frames with
  | .mark '|', frames => some ⟨frames, .constituent type⟩
  | .mark '>', (outer, .array) :: frames => some (extend frames outer (.array type))
  | .mark '>', (outer, .record) :: frames => some (extend frames outer (.record type))
  | .mark '>', (outer, .rest before) :: frames =>
      some ⟨frames, after [.mark ']'] (.separator (outer ++ [.openTuple before type]))⟩
  | .mark ',', (outer, .position before) :: frames =>
      some ⟨(outer, .position (before ++ [type])) :: frames, .constituent []⟩
  | .mark ']', (outer, .position before) :: frames =>
      some (extend frames outer (.tuple (before ++ [type])))
  | .mark ';', (outer, .property before name) :: frames =>
      some ⟨frames, .key outer (before ++ [(name, type)])⟩
  | _, _ => none

/-- Reads the key of a property, or the end of an object. -/
def key? (frames : List (TypeExpr × Frame)) (outer : TypeExpr)
    (before : List (String × TypeExpr)) : Token → Option Machine
  | .word name | .literal name =>
      some ⟨(outer, .property before name) :: frames, after [.mark ':'] (.constituent [])⟩
  | .mark '}' => some (extend frames outer (.object before))
  | _ => none

/-- Reads one token. -/
def step? (machine : Machine) (token : Token) : Option Machine :=
  match machine.expected with
  | .constituent before => constituent? machine.frames before token
  | .separator before => separator? machine.frames before token
  | .key outer before => key? machine.frames outer before token
  | .tokens first others next =>
      if token = first then some ⟨machine.frames, after others next⟩ else none

/-- Reads some tokens. -/
def run? (machine : Machine) (tokens : List Token) : Option Machine := tokens.foldlM step? machine

theorem run?_cons (machine : Machine) (token : Token) (rest : List Token) :
    machine.run? (token :: rest) = (machine.step? token).bind (run? · rest) :=
  rfl

/-- Tokens in front are read first. -/
theorem run?_append {machine between : Machine} {first : List Token}
    (reads : machine.run? first = some between) (second : List Token) :
    machine.run? (first ++ second) = between.run? second := by
  have parts : machine.run? (first ++ second) = (machine.run? first).bind (run? · second) :=
    List.foldlM_append
  rw [parts, reads, Option.bind_some]

end Machine

/-- The type that some tokens spell. -/
def ofTokens? (tokens : List Token) : Option TypeExpr :=
  match Machine.run? ⟨[], .constituent []⟩ tokens with
  | some ⟨[], .separator type⟩ => some type
  | _ => none

/-- Reads a type expression. -/
def read? (text : String) : Option TypeExpr :=
  (tokens? text).bind ofTokens?

/-! ## What is written is read again -/

/-- The tokens of a constituent are read as the constituent, wherever one may stand. -/
def Constituent.Read (constituent : Constituent) : Prop :=
  ∀ (frames : List (TypeExpr × Frame)) (before : TypeExpr),
    Machine.run? ⟨frames, .constituent before⟩ constituent.tokens =
      some (.extend frames before constituent)

/-- The tokens of a type are read as the type. -/
theorem TypeExpr.run?_tokens (frames : List (TypeExpr × Frame)) {type : TypeExpr}
    (nonempty : type ≠ []) (each : ∀ constituent ∈ type, constituent.Read) :
    ∀ before : TypeExpr,
    Machine.run? ⟨frames, .constituent before⟩ (TypeExpr.tokens type) =
      some ⟨frames, .separator (before ++ type)⟩ := by
  induction type with
  | nil => exact absurd rfl nonempty
  | cons constituent rest inductionHypothesis =>
      intro before
      have here := each constituent List.mem_cons_self frames before
      cases rest with
      | nil =>
          rw [TypeExpr.tokens, tokensEach, tokensEach, List.intercalate_singleton, here]
          rfl
      | cons next others =>
          have later := inductionHypothesis (List.cons_ne_nil _ _)
            (fun other member => each other (List.mem_cons_of_mem _ member))
            (before ++ [constituent])
          rw [List.append_assoc, List.singleton_append] at later
          rw [TypeExpr.tokens, tokensEach, tokensEach, List.intercalate_cons_cons,
            List.append_assoc, Machine.run?_append here]
          exact later

/-- The types of positions are read up to the end of the last one. -/
theorem run?_positions (frames : List (TypeExpr × Frame)) (outer : TypeExpr)
    {first : List TypeExpr} {last : TypeExpr}
    (nonempty : ∀ type ∈ first ++ [last], type ≠ [])
    (each : ∀ type ∈ first ++ [last], ∀ constituent ∈ type, constituent.Read) :
    ∀ before : List TypeExpr,
    Machine.run? ⟨(outer, .position before) :: frames, .constituent []⟩
        ([.mark ','].intercalate ((first ++ [last]).map TypeExpr.tokens)) =
      some ⟨(outer, .position (before ++ first)) :: frames, .separator last⟩ := by
  induction first with
  | nil =>
      intro before
      rw [List.nil_append, List.map_singleton, List.intercalate_singleton, List.append_nil]
      exact TypeExpr.run?_tokens _ (nonempty last List.mem_cons_self)
        (each last List.mem_cons_self) []
  | cons type rest inductionHypothesis =>
      intro before
      rw [List.cons_append, List.forall_mem_cons] at nonempty each
      have here := TypeExpr.run?_tokens ((outer, .position before) :: frames) nonempty.1 each.1 []
      have later := inductionHypothesis nonempty.2 each.2 (before ++ [type])
      have remaining : (rest ++ [last]).map TypeExpr.tokens ≠ [] := by simp
      rw [List.append_assoc, List.singleton_append] at later
      rw [List.cons_append, List.map_cons, List.intercalate_cons_of_ne_nil remaining,
        List.append_assoc, Machine.run?_append here]
      exact later

/-- The key of a property is read whether it is quoted or not. -/
theorem step?_keyToken (frames : List (TypeExpr × Frame)) (outer : TypeExpr)
    (before : List (String × TypeExpr)) (name : String) :
    Machine.step? ⟨frames, .key outer before⟩ (keyToken name) =
      some ⟨(outer, .property before name) :: frames, .tokens (.mark ':') [] (.constituent [])⟩ := by
  rw [keyToken]
  split <;> rfl

/-- The lines of the properties of an object are read as the properties. -/
theorem run?_properties (frames : List (TypeExpr × Frame)) (outer : TypeExpr)
    {properties : List (String × TypeExpr)}
    (nonempty : ∀ type ∈ properties.map Prod.snd, type ≠ [])
    (each : ∀ type ∈ properties.map Prod.snd, ∀ constituent ∈ type, constituent.Read) :
    ∀ before : List (String × TypeExpr),
    Machine.run? ⟨frames, .key outer before⟩ (propertyTokens properties) =
      some ⟨frames, .key outer (before ++ properties)⟩ := by
  induction properties with
  | nil =>
      intro before
      rw [List.append_nil]
      rfl
  | cons property rest inductionHypothesis =>
      intro before
      rcases property with ⟨name, type⟩
      rw [List.map_cons, List.forall_mem_cons] at nonempty each
      have here := TypeExpr.run?_tokens ((outer, .property before name) :: frames)
        nonempty.1 each.1 []
      have later := inductionHypothesis nonempty.2 each.2 (before ++ [(name, type)])
      rw [List.append_assoc, List.singleton_append] at later
      have named : Machine.run? ⟨frames, .key outer before⟩ [keyToken name, .mark ':'] =
          some ⟨(outer, .property before name) :: frames, .constituent []⟩ := by
        rw [Machine.run?_cons, step?_keyToken]
        rfl
      rw [propertyTokens_cons, List.append_assoc, List.append_assoc, Machine.run?_append named,
        Machine.run?_append here]
      exact later

/-- Where a position of a tuple may come, the tuple may have its open end instead, unless
nothing stands in front. -/
theorem run?_open (frames : List (TypeExpr × Frame)) (outer : TypeExpr) {items : List TypeExpr}
    (nonempty : items ≠ []) :
    Machine.run? ⟨(outer, .position items) :: frames, .constituent []⟩
        [.mark '.', .mark '.', .mark '.', .word "Array", .mark '<'] =
      some ⟨(outer, .rest items) :: frames, .constituent []⟩ := by
  cases items with
  | nil => exact absurd rfl nonempty
  | cons first others => rfl

/-- A form with one part is read as the form, if its first tokens open a frame for the part
and its last ones close the frame again. -/
theorem Constituent.read_of_part (frame : Frame) {constituent : Constituent} {part : TypeExpr}
    {opening closing : List Token} (nonempty : part ≠ [])
    (each : ∀ inside ∈ part, inside.Read)
    (tokens : constituent.tokens = opening ++ TypeExpr.tokens part ++ closing)
    (opens : ∀ (frames : List (TypeExpr × Frame)) (before : TypeExpr),
      Machine.run? ⟨frames, .constituent before⟩ opening =
        some ⟨(before, frame) :: frames, .constituent []⟩)
    (closes : ∀ (frames : List (TypeExpr × Frame)) (before : TypeExpr),
      Machine.run? ⟨(before, frame) :: frames, .separator part⟩ closing =
        some (.extend frames before constituent)) : constituent.Read := by
  intro frames before
  rw [tokens, List.append_assoc, Machine.run?_append (opens frames before),
    Machine.run?_append (TypeExpr.run?_tokens _ nonempty each [])]
  exact closes frames before

/-- A tuple is read up to the end of its last position. -/
theorem run?_tuple (frames : List (TypeExpr × Frame)) (before : TypeExpr)
    {first : List TypeExpr} {last : TypeExpr}
    (nonempty : ∀ type ∈ first ++ [last], type ≠ [])
    (each : ∀ type ∈ first ++ [last], ∀ constituent ∈ type, constituent.Read) :
    Machine.run? ⟨frames, .constituent before⟩
        ([.mark '['] ++ [.mark ','].intercalate ((first ++ [last]).map TypeExpr.tokens)) =
      some ⟨(before, .position first) :: frames, .separator last⟩ := by
  have opened : Machine.run? ⟨frames, .constituent before⟩ [.mark '['] =
      some ⟨(before, .position []) :: frames, .constituent []⟩ := rfl
  rw [Machine.run?_append opened]
  exact run?_positions frames before nonempty each []

/-- A proper constituent is read as itself. -/
theorem Constituent.Proper.read {constituent : Constituent} (proper : constituent.Proper) :
    constituent.Read := by
  induction proper with
  | intro constituent started nonempty parts inductionHypothesis =>
      cases constituent with
      | keyword keyword => cases keyword <;> exact fun frames before => rfl
      | literal text => exact fun frames before => rfl
      | object properties =>
          intro frames before
          have opened : Machine.run? ⟨frames, .constituent before⟩ [.mark '{'] =
              some ⟨frames, .key before []⟩ := rfl
          have inside := run?_properties frames before nonempty inductionHypothesis []
          rw [Constituent.tokens, List.append_assoc, Machine.run?_append opened,
            Machine.run?_append inside]
          rfl
      | array item =>
          exact read_of_part .array (nonempty item List.mem_cons_self)
            (inductionHypothesis item List.mem_cons_self) (tokens_array item)
            (fun frames before => rfl) (fun frames before => rfl)
      | tuple items =>
          rcases items.eq_nil_or_concat' with rfl | ⟨first, last, rfl⟩
          · exact fun frames before => rfl
          · intro frames before
            rw [tokens_tuple, Machine.run?_append (run?_tuple frames before nonempty inductionHypothesis)]
            rfl
      | openTuple items rest =>
          rcases items.eq_nil_or_concat' with rfl | ⟨first, last, rfl⟩
          · exact absurd rfl (started rest)
          · intro frames before
            have listed : ∀ type ∈ first ++ [last],
                type ∈ (Constituent.openTuple (first ++ [last]) rest).parts :=
              fun type member => List.mem_append_left [rest] member
            have ending : rest ∈ (Constituent.openTuple (first ++ [last]) rest).parts :=
              List.mem_append_right _ List.mem_cons_self
            have inside := run?_tuple frames before
              (fun type member => nonempty type (listed type member))
              (fun type member => inductionHypothesis type (listed type member))
            have opened : Machine.run? ⟨(before, .position first) :: frames, .separator last⟩
                [.mark ',', .mark '.', .mark '.', .mark '.', .word "Array", .mark '<'] =
              some ⟨(before, .rest (first ++ [last])) :: frames, .constituent []⟩ :=
              run?_open frames before (by simp)
            have remaining := TypeExpr.run?_tokens ((before, .rest (first ++ [last])) :: frames)
              (nonempty rest ending) (inductionHypothesis rest ending) []
            rw [tokens_openTuple, List.append_assoc, List.append_assoc, Machine.run?_append inside,
              Machine.run?_append opened, Machine.run?_append remaining]
            rfl
      | record value =>
          exact read_of_part .record (nonempty value List.mem_cons_self)
            (inductionHypothesis value List.mem_cons_self) (tokens_record value)
            (fun frames before => rfl) (fun frames before => rfl)

/-- What is written for a type is read as the type, unless a carriage return is written. -/
theorem TypeExpr.Proper.read?_render {type : TypeExpr} (proper : TypeExpr.Proper type) (level : Nat) :
    read? (TypeExpr.render level type) =
      if '\r' ∈ (TypeExpr.render level type).toList then none else some type := by
  have whole := TypeExpr.run?_tokens [] proper.nonempty
    (fun constituent member => (proper.each constituent member).read) []
  have spelled : ofTokens? (TypeExpr.tokens type) = some type := by
    rw [ofTokens?, whole]
    rfl
  rw [read?, TypeExpr.tokens?_render]
  split
  · rfl
  · exact spelled

end Structural
end Conformance
