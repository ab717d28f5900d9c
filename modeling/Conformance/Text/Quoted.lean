import Conformance.Text.Visible

namespace Conformance
namespace Text

/-!
# Quoted text in messages and emitted code

A quoted text stands between double quotes.  Quotes, backslashes and the usual
blanks have short escapes; any other character that does not show on its own is
written as its code point in braces.
-/

/-- A character inside a quoted text. -/
def quotedChar (c : Char) : List Char :=
  match c with
  | '"' => ['\\', '"']
  | '\\' => ['\\', '\\']
  | '\n' => ['\\', 'n']
  | '\r' => ['\\', 'r']
  | '\t' => ['\\', 't']
  | _ =>
      if c.toNat = 0 then ['\\', '0']
      else if isVisible c then [c]
      else '\\' :: 'u' :: '{' :: Nat.toDigits 16 c.toNat ++ ['}']

/-- A text between double quotes. -/
def quoted (text : String) : String :=
  String.ofList ('"' :: text.toList.flatMap quotedChar ++ ['"'])

end Text
end Conformance
