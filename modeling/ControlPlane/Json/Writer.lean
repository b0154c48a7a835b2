import ControlPlane.Json.Value
import ControlPlane.Number.Shortest

/-!
# Writing JSON texts

Values are written without blanks, members in the order of their table. A floating point number
is always written with a point or an exponent, so that it reads back as one.
-/

namespace ControlPlane.Json

/-- A character inside a JSON string. -/
def escapeChar (c : Char) : List Char :=
  if c = '"' then ['\\', '"']
  else if c = '\\' then ['\\', '\\']
  else if c.val < 0x20 then
    let digits := Nat.toDigits 16 c.val.toNat
    ['\\', 'u'] ++ List.replicate (4 - digits.length) '0' ++ digits
  else [c]

/-- A JSON string. -/
def renderString (text : String) : String :=
  String.ofList (['"'] ++ text.toList.flatMap escapeChar ++ ['"'])

namespace Value

mutual

/-- Writes a value behind what is already written. -/
def write (written : String) : Value → String
  | null => written ++ "null"
  | boolean holds => written ++ (if holds then "true" else "false")
  | integer number => written ++ toString number
  | float number => written ++ number.render
  | string text => written ++ renderString text
  | array items => writeItems (written.push '[') items ++ "]"
  | object members => (writeMembers (written.push '\x7b') members).push '\x7d'

/-- Writes items with commas between them. -/
def writeItems (written : String) : List Value → String
  | [] => written
  | [item] => write written item
  | item :: next :: rest => writeItems ((write written item).push ',') (next :: rest)

/-- Writes members with commas between them. -/
def writeMembers (written : String) : List (String × Value) → String
  | [] => written
  | [(name, value)] => write (written ++ renderString name ++ ":") value
  | (name, value) :: next :: rest =>
    writeMembers ((write (written ++ renderString name ++ ":") value).push ',') (next :: rest)

end

/-- The JSON text of a value. -/
def render (value : Value) : String :=
  write "" value

end Value

end ControlPlane.Json
