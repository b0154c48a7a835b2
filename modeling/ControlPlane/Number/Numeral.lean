/-!
# Numerals

Unsigned decimal numerals below a limit. Digits are read from left to right and the first
difficulty met is the one reported, so a numeral that is already too large is refused before a
later character is looked at.
-/

namespace ControlPlane.Number

/-- Why a text is not a numeral below the limit. -/
inductive NumeralError where
  | empty
  | invalidDigit
  | tooLarge
  deriving DecidableEq, Repr

/-- The wording of a refused numeral. -/
def NumeralError.message : NumeralError → String
  | .empty => "cannot parse integer from empty string"
  | .invalidDigit => "invalid digit found in string"
  | .tooLarge => "number too large to fit in target type"

/-- The value of an ASCII decimal digit. -/
def digit? (c : Char) : Option Nat :=
  if '0' ≤ c ∧ c ≤ '9' then some (c.val.toNat - 0x30) else none

/-- The value of an ASCII hexadecimal digit, in either case. -/
def hexDigit? (c : Char) : Option Nat :=
  if '0' ≤ c ∧ c ≤ '9' then some (c.val.toNat - 0x30)
  else if 'a' ≤ c ∧ c ≤ 'f' then some (c.val.toNat - 0x57)
  else if 'A' ≤ c ∧ c ≤ 'F' then some (c.val.toNat - 0x37)
  else none

/-- Reads digits behind a number that is already read, as long as the result is below `limit`. -/
def readDigits (limit : Nat) (read : Nat) : List Char → Except NumeralError Nat
  | [] => .ok read
  | c :: rest =>
    match digit? c with
    | none => .error .invalidDigit
    | some d =>
      let next := read * 10 + d
      if limit ≤ next then .error .tooLarge else readDigits limit next rest

/-- Reads a numeral below `limit`: digits, with at most a plus sign before them. -/
def parseBelow (limit : Nat) : List Char → Except NumeralError Nat
  | [] => .error .empty
  | ['+'] => .error .invalidDigit
  | '+' :: digits => readDigits limit 0 digits
  | digits => readDigits limit 0 digits

/-- Reads a numeral that fits into 64 bits. -/
def parseWord (text : List Char) : Except NumeralError UInt64 :=
  (parseBelow UInt64.size text).map UInt64.ofNat

end ControlPlane.Number
