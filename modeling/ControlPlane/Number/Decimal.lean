import ControlPlane.Number.Numeral

/-!
# Decimal numbers

A decimal number is a whole number times a power of ten. Its text has digits before or after a
point, and perhaps an exponent; a real number may also be spelled as an infinity or as no number.
-/

namespace ControlPlane.Number

/-- The number `significand * 10 ^ exponent`. -/
structure Decimal where
  significand : Nat
  exponent : Int
  deriving DecidableEq, Repr

/-- What a text for a real number says. -/
inductive Spelling where
  | finite (negative : Bool) (magnitude : Decimal)
  | infinite (negative : Bool)
  | notANumber
  deriving DecidableEq, Repr

/-- The digits at the start of a text and what follows them. -/
def spanDigits : List Char → List Nat × List Char
  | [] => ([], [])
  | c :: rest =>
    match digit? c with
    | none => ([], c :: rest)
    | some d => let (digits, after) := spanDigits rest; (d :: digits, after)

/-- The number that a list of digits spells. -/
def ofDigits (digits : List Nat) : Nat :=
  digits.foldl (fun value d => value * 10 + d) 0

/-- Reads what may follow the digits: nothing, or a mark, perhaps a sign, and digits. -/
def exponent? : List Char → Option Int
  | [] => some 0
  | mark :: rest =>
    if mark = 'e' ∨ mark = 'E' then
      let (negative, text) :=
        match rest with
        | '-' :: text => (true, text)
        | '+' :: text => (false, text)
        | text => (false, text)
      match spanDigits text with
      | (d :: digits, []) =>
        let size := ofDigits (d :: digits)
        some (if negative then -(size : Int) else size)
      | _ => none
    else none

/-- Reads digits, a point, digits and an exponent, where one digit suffices. -/
def Decimal.parse? (text : List Char) : Option Decimal :=
  let (whole, afterWhole) := spanDigits text
  let (fraction, rest) :=
    match afterWhole with
    | '.' :: afterPoint => spanDigits afterPoint
    | _ => ([], afterWhole)
  if whole.isEmpty && fraction.isEmpty then none
  else
    (exponent? rest).map fun exponent =>
      { significand := ofDigits (whole ++ fraction), exponent := exponent - fraction.length }

/-- Reads a real number with an optional sign. -/
def Spelling.parse? (text : List Char) : Option Spelling :=
  let (negative, magnitude) :=
    match text with
    | '-' :: rest => (true, rest)
    | '+' :: rest => (false, rest)
    | _ => (false, text)
  let name := String.ofList (magnitude.map Char.toLower)
  if name = "inf" ∨ name = "infinity" then some (.infinite negative)
  else if name = "nan" then some .notANumber
  else (Decimal.parse? magnitude).map (.finite negative)

/-- The count of decimal digits of the significand, leading zeros apart. -/
def Decimal.digitCount (d : Decimal) : Nat :=
  if d.significand = 0 then 0 else (Nat.toDigits 10 d.significand).length

end ControlPlane.Number
