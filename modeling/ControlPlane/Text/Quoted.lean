import ControlPlane.Text.Extending
import ControlPlane.Text.Invisible

/-!
# Quoted text

A text shown between double quotes. The quote, the backslash and four control characters have
escapes of their own; any other character that would not be seen, or that would merge with its
neighbour, is written as its code point in hexadecimal.
-/

namespace ControlPlane.Text

/-- The hexadecimal digits of a number, in lower case and without leading zeros. -/
def hexDigits (n : Nat) : List Char :=
  Nat.toDigits 16 n

/-- A character as it stands in a quoted text. -/
def escape (c : Char) : List Char :=
  match c with
  | '"' => ['\\', '"']
  | '\\' => ['\\', '\\']
  | '\n' => ['\\', 'n']
  | '\r' => ['\\', 'r']
  | '\t' => ['\\', 't']
  | '\x00' => ['\\', '0']
  | c =>
    if isInvisible c || isExtending c then
      ['\\', 'u', '\x7b'] ++ hexDigits c.val.toNat ++ ['\x7d']
    else [c]

/-- The text between double quotes, with its escapes. -/
def quoted (text : String) : String :=
  String.ofList (['"'] ++ text.toList.flatMap escape ++ ['"'])

end ControlPlane.Text
