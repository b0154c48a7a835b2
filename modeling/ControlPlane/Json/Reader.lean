import ControlPlane.Json.Value

/-!
# Reading JSON texts

A number without a fraction and without an exponent is an integer as long as 64 bits hold it;
every other number is the nearest floating point number. Of two members with one name the later
one counts.
-/

namespace ControlPlane.Json

open ControlPlane.Number

/-- The blanks that may stand between the tokens of a JSON text. -/
def isSpace (c : Char) : Bool :=
  c == ' ' || c == '\n' || c == '\t' || c == '\r'

/-- The text without the blanks at its start. -/
def skipSpace (text : List Char) : List Char :=
  text.dropWhile isSpace

/-- The number that four hexadecimal digits spell. -/
def hexUnit? (a b c d : Char) : Option Nat := do
  return (((← hexDigit? a) * 16 + (← hexDigit? b)) * 16 + (← hexDigit? c)) * 16 + (← hexDigit? d)

/-- The character of a single-letter escape. -/
def escaped? : Char → Option Char
  | '"' => some '"'
  | '\\' => some '\\'
  | '/' => some '/'
  | 'b' => some '\x08'
  | 'f' => some '\x0c'
  | 'n' => some '\n'
  | 'r' => some '\r'
  | 't' => some '\t'
  | _ => none

/-- Reads a string behind its opening quote, with the characters already read in reverse. -/
def readString (read : List Char) : List Char → Option (String × List Char)
  | '"' :: rest => some (String.ofList read.reverse, rest)
  | '\\' :: 'u' :: a :: b :: c :: d :: rest =>
    match hexUnit? a b c d with
    | none => none
    | some unit =>
      if 0xd800 ≤ unit ∧ unit < 0xdc00 then
        match rest with
        | '\\' :: 'u' :: a' :: b' :: c' :: d' :: rest' =>
          match hexUnit? a' b' c' d' with
          | none => none
          | some low =>
            if 0xdc00 ≤ low ∧ low < 0xe000 then
              readString (Char.ofNat (0x10000 + (unit - 0xd800) * 0x400 + (low - 0xdc00)) :: read)
                rest'
            else none
        | _ => none
      else if 0xdc00 ≤ unit ∧ unit < 0xe000 then none
      else readString (Char.ofNat unit :: read) rest
  | '\\' :: c :: rest =>
    match escaped? c with
    | some e => readString (e :: read) rest
    | none => none
  | c :: rest => if c.val < 0x20 then none else readString (c :: read) rest
  | [] => none

/-- The floating point number nearest to a decimal, as a value. -/
def floatValue? (negative : Bool) (d : Decimal) : Option Value :=
  (Binary64.ofDecimal? negative d).map .float

/-- The value of a number token without fraction and exponent. -/
def wholeValue? (negative : Bool) (magnitude : Nat) : Option Value :=
  let fits :=
    if negative then 0 < magnitude ∧ magnitude ≤ 0x8000000000000000
    else magnitude < UInt64.size
  if fits then some (.integer (if negative then -(magnitude : Int) else magnitude))
  else floatValue? negative { significand := magnitude, exponent := 0 }

/-- Reads a number: digits without needless zeros in front, perhaps a fraction, and perhaps an
exponent. -/
def readNumber (text : List Char) : Option (Value × List Char) := do
  let (negative, text) :=
    match text with
    | '-' :: rest => (true, rest)
    | _ => (false, text)
  let (whole, text) := spanDigits text
  guard (!whole.isEmpty && (whole.length == 1 || whole.head? != some 0))
  let (fraction, text) ←
    match text with
    | '.' :: rest =>
      match spanDigits rest with
      | ([], _) => none
      | (digits, rest) => some (digits, rest)
    | _ => some ([], text)
  let mark := text.head?
  if mark = some 'e' ∨ mark = some 'E' then
    let (negativePower, text) :=
      match text.tail with
      | '-' :: rest => (true, rest)
      | '+' :: rest => (false, rest)
      | rest => (false, rest)
    let (digits, text) := spanDigits text
    guard !digits.isEmpty
    let size : Int := ofDigits digits
    let exponent := (if negativePower then -size else size) - fraction.length
    return (← floatValue? negative { significand := ofDigits (whole ++ fraction), exponent }, text)
  else if fraction.isEmpty then
    return (← wholeValue? negative (ofDigits whole), text)
  else
    let exponent := -(fraction.length : Int)
    return (← floatValue? negative { significand := ofDigits (whole ++ fraction), exponent }, text)

mutual

/-- Reads one value, where `fuel` bounds the number of steps. -/
def readValue : Nat → List Char → Option (Value × List Char)
  | 0, _ => none
  | fuel + 1, text =>
    match skipSpace text with
    | 'n' :: 'u' :: 'l' :: 'l' :: rest => some (.null, rest)
    | 't' :: 'r' :: 'u' :: 'e' :: rest => some (.boolean true, rest)
    | 'f' :: 'a' :: 'l' :: 's' :: 'e' :: rest => some (.boolean false, rest)
    | '"' :: rest => (readString [] rest).map fun (s, rest) => (.string s, rest)
    | '[' :: rest =>
      match skipSpace rest with
      | ']' :: rest => some (.array [], rest)
      | _ => (readItems fuel [] rest).map fun (items, rest) => (.array items, rest)
    | '\x7b' :: rest =>
      match skipSpace rest with
      | '\x7d' :: rest => some (.object [], rest)
      | _ => (readMembers fuel [] rest).map fun (members, rest) => (.object members, rest)
    | rest => readNumber rest

/-- Reads items up to the closing bracket, with those already read in reverse. -/
def readItems : Nat → List Value → List Char → Option (List Value × List Char)
  | 0, _, _ => none
  | fuel + 1, read, text =>
    match readValue fuel text with
    | none => none
    | some (item, rest) =>
      match skipSpace rest with
      | ',' :: rest => readItems fuel (item :: read) rest
      | ']' :: rest => some ((item :: read).reverse, rest)
      | _ => none

/-- Reads members up to the closing brace into a table. -/
def readMembers :
    Nat → List (String × Value) → List Char → Option (List (String × Value) × List Char)
  | 0, _, _ => none
  | fuel + 1, read, text =>
    match skipSpace text with
    | '"' :: rest =>
      match readString [] rest with
      | none => none
      | some (name, rest) =>
        match skipSpace rest with
        | ':' :: rest =>
          match readValue fuel rest with
          | none => none
          | some (value, rest) =>
            let members := Table.insert name value read
            match skipSpace rest with
            | ',' :: rest => readMembers fuel members rest
            | '\x7d' :: rest => some (members, rest)
            | _ => none
        | _ => none
    | _ => none

end

/-- The value of a JSON text. -/
def Value.parse? (text : String) : Option Value :=
  let chars := text.toList
  match readValue (2 * chars.length + 2) chars with
  | some (value, rest) => if (skipSpace rest).isEmpty then some value else none
  | none => none

end ControlPlane.Json
