import Conformance.Proofs.Emission.FieldNames
import Conformance.Proofs.Emission.Identifiers
import Conformance.Proofs.Emission.Sites
import Conformance.Proofs.Emission.WrittenDeclaration

namespace Conformance
namespace Nominal

/-!
# The fields of a struct

In data a field of a struct goes by the name that its attribute spells out.  Without the attribute
it goes by its identifier, except that the mark of a keyword does not belong to the name.  The
emitter leaves the attribute out wherever the identifier alone is enough, and it decides that by
comparing texts, whatever scripts, marks or keywords a key is made of.  So a struct has to be read
again to see which keys it has, without a look at the keys that it was written for.

Different keys can become one identifier.  The emitter compares all of them before it takes up the
first field, and then nothing is registered.
-/

/-- A field that is written with a type on one line is legible. -/
theorem WrittenField.legible_ofField (name : String) (header : Header) {type : String}
    (whole : '\n' ∉ type.toList) : ∀ line ∈ (ofField name header type).lines, line.Legible := by
  have other {c : Char} (mark : Naming.isNamePart c = false) : c ∉ (Naming.field name).toList := by
    intro listed
    rw [Naming.isNamePart_field name c listed] at mark
    cases mark
  have newline : '\n' ∉ (Naming.field name).toList := other rfl
  have colon : ':' ∉ (Naming.field name).toList := other rfl
  apply legible_lines
  case renamed =>
    intro literal renamed
    by_cases enough : Naming.withoutMark (Naming.field name) = name
    · simp only [ofField, if_pos enough, Option.mem_def, reduceCtorEq] at renamed
    · simp only [ofField, if_neg enough, Option.mem_def, Option.some.injEq] at renamed
      rw [← renamed]
      exact Text.newline_not_mem_quoted name
  case identified =>
    rw [identifier_ofField]
    exact ⟨newline, colon⟩
  case typed =>
    rw [type_ofField]
    exact whole

section

variable (rootName tag : Option String) (fields : List (String × Shape))

end

namespace Site

variable {rootName : Option String} {header : Header} {role : Role}
variable {fields : List (String × Shape)} {name : String} {before after : Registry}

/-- What the emitter does where the walk comes to a node, apart from the answer. -/
def emission (rootName : Option String) (trail : Location) : Site → Emitting Unit
  | ⟨shape, .type⟩ => do
      let _ ← typeOf rootName shape trail
      return ()
  | ⟨shape, .field⟩ => do
      let _ ← fieldTypeOf rootName shape trail
      return ()
  | ⟨shape, .member name tag⟩ => member rootName name tag shape trail

end Site

end Nominal
end Conformance
