import ControlPlane.Number.Decimal
import ControlPlane.Number.Binary64
import ControlPlane.Text.Split
import ControlPlane.Toml.Tree

/-!
# Numbers, truth values and dates

A scalar without quotes is one token. Its digits may have single underscores between them.
-/

namespace ControlPlane.Toml

open ControlPlane.Number

/-- The characters of a token. -/
def isTokenChar (c : Char) : Bool :=
  c.isAlphanum || c == '+' || c == '-' || c == '.' || c == '_' || c == ':'

/-- A run of digits with single underscores between them, without the underscores. -/
def digitRun? (isDigit : Char → Bool) (text : List Char) : Option (List Char) :=
  let parts := Text.splitOn (· == '_') text
  if parts.all fun part => !part.isEmpty && part.all isDigit then some parts.flatten else none

/-- Whether a run of digits begins with a needless zero. -/
def isPadded (digits : List Char) : Bool :=
  digits.head? == some '0' && digits.length != 1

/-- The sign at the start of a token and what follows it. -/
def splitSign : List Char → Bool × List Char
  | '-' :: rest => (true, rest)
  | '+' :: rest => (false, rest)
  | text => (false, text)

/-- The number of digits in some base. -/
def ofRadix (radix : Nat) (digits : List Char) : Nat :=
  digits.foldl (fun value c => value * radix + (hexDigit? c).getD 0) 0

/-- An integer that 64 bits hold with a sign. -/
def integer? (negative : Bool) (magnitude : Nat) : Option Value :=
  let limit := if negative then 0x8000000000000000 else 0x7fffffffffffffff
  if magnitude ≤ limit then some (.integer (if negative then -(magnitude : Int) else magnitude))
  else none

/-- Reads an integer in base sixteen, eight or two. -/
def basedInteger? (radix : Nat) (text : List Char) : Option Value := do
  let isDigit (c : Char) : Bool := (hexDigit? c).any (· < radix)
  integer? false (ofRadix radix (← digitRun? isDigit text))

/-- Reads a decimal integer. -/
def decimalInteger? (text : List Char) : Option Value := do
  let (negative, rest) := splitSign text
  let digits ← digitRun? Char.isDigit rest
  guard !isPadded digits
  integer? negative (ofRadix 10 digits)

/-- Reads a real number: an integer part, then a fraction, an exponent or both. Its magnitude has
to be finite unless it is negative. -/
def float? (text : List Char) : Option Value := do
  let (negative, rest) := splitSign text
  if rest = "inf".toList ∨ rest = "nan".toList then
    return .float
  let isMark (c : Char) : Bool := c == 'e' || c == 'E'
  let (mantissa, power) := rest.span fun c => !isMark c
  let (whole, fraction) := mantissa.span fun c => c != '.'
  guard !(fraction.isEmpty && power.isEmpty)
  let wholeDigits ← digitRun? Char.isDigit whole
  guard !isPadded wholeDigits
  let fractionDigits ←
    match fraction with
    | [] => some []
    | _ :: digits => digitRun? Char.isDigit digits
  let exponent ←
    match power with
    | [] => some 0
    | _ :: signed => do
      let (negativePower, digits) := splitSign signed
      let size : Int := ofRadix 10 (← digitRun? Char.isDigit digits)
      some (if negativePower then -size else size)
  let decimal : Decimal :=
    { significand := ofRadix 10 (wholeDigits ++ fractionDigits)
      exponent := exponent - fractionDigits.length }
  guard (negative || decimal.nearestUnits?.isSome)
  return .float

/-- A number of exactly so many digits. -/
def fixed? (count : Nat) (text : List Char) : Option Nat :=
  if text.length = count ∧ text.all Char.isDigit then some (ofRadix 10 text) else none

/-- How many days a month has. -/
def daysIn (year month : Nat) : Nat :=
  if month = 2 then
    if year % 4 = 0 ∧ (year % 100 ≠ 0 ∨ year % 400 = 0) then 29 else 28
  else if month = 4 ∨ month = 6 ∨ month = 9 ∨ month = 11 then 30
  else 31

/-- Whether a text is a day of the calendar. -/
def isDay (text : List Char) : Bool :=
  match Text.splitOn (· == '-') text with
  | [year, month, day] =>
    match fixed? 4 year, fixed? 2 month, fixed? 2 day with
    | some year, some month, some day =>
      1 ≤ month && month ≤ 12 && 1 ≤ day && day ≤ daysIn year month
    | _, _, _ => false
  | _ => false

/-- Whether a text is a number of so many digits that is at most `limit`. -/
def isAtMost (limit : Nat) (text : List Char) : Bool :=
  (fixed? 2 text).any (· ≤ limit)

/-- Whether a text is a time of day, where the seconds may have a fraction. -/
def isTime (text : List Char) : Bool :=
  match Text.splitOn (· == ':') text with
  | [hour, minute, second] =>
    let (whole, fraction) := second.span fun c => c != '.'
    isAtMost 23 hour && isAtMost 59 minute && isAtMost 60 whole &&
      (fraction.isEmpty || (fraction.length != 1 && fraction.tail.all Char.isDigit))
  | _ => false

/-- Whether a text is a distance from universal time. -/
def isOffset (text : List Char) : Bool :=
  match Text.splitOn (· == ':') text with
  | [hour, minute] => isAtMost 23 hour && isAtMost 59 minute
  | _ => false

/-- Whether a text is a time of day with or without its distance from universal time. -/
def isZonedTime (text : List Char) : Bool :=
  let (time, zone) := text.span fun c => c.isDigit || c == ':' || c == '.'
  isTime time &&
    match zone with
    | [] => true
    | ['z'] => true
    | ['Z'] => true
    | '+' :: offset => isOffset offset
    | '-' :: offset => isOffset offset
    | _ => false

/-- Reads a date, a time of day, or a date with a time of day. -/
def date? (text : List Char) : Option Value :=
  let (day, later) := text.splitAt 10
  let holds :=
    isTime text || (isDay day &&
      match later with
      | [] => true
      | mark :: time => (mark == 'T' || mark == 't' || mark == ' ') && isZonedTime time)
  if holds then some .date else none

/-- Reads the value of a token. -/
def scalar? (token : List Char) : Option Value :=
  if token = "true".toList then some (.boolean true)
  else if token = "false".toList then some (.boolean false)
  else
    match token with
    | '0' :: 'x' :: digits => basedInteger? 16 digits
    | '0' :: 'o' :: digits => basedInteger? 8 digits
    | '0' :: 'b' :: digits => basedInteger? 2 digits
    | _ => date? token <|> float? token <|> decimalInteger? token

/-- Reads the token at the start of a text. A day may have a blank between it and its time. -/
def readScalar (text : List Char) : Option (Value × List Char) :=
  let (token, rest) := text.span isTokenChar
  match isDay token, rest with
  | true, ' ' :: c :: later =>
    if c.isDigit then
      let (time, rest) := (c :: later).span isTokenChar
      (scalar? (token ++ ' ' :: time)).map (·, rest)
    else (scalar? token).map (·, rest)
  | _, _ => (scalar? token).map (·, rest)

end ControlPlane.Toml
