import ControlPlane.Number.Numeral

/-!
# The notations of network addresses

A dotted address is four octets without leading zeros. A colon address is eight groups of at most
four hexadecimal digits, of which one run of at least one group may be left out, and of which the
last two may be written as a dotted address. Every reader returns what follows the part it reads.
-/

namespace ControlPlane.AddressNotation

open ControlPlane.Number

/-- Reads an octet in decimal. -/
def readOctet (text : List Char) : Option (List Char) :=
  let digits := text.takeWhile fun c => (digit? c).isSome
  let value := digits.foldl (fun value c => value * 10 + (digit? c).getD 0) 0
  let padded := digits.head? = some '0' ∧ digits.length ≠ 1
  if digits.isEmpty ∨ 3 < digits.length ∨ padded ∨ 255 < value then none
  else some (text.drop digits.length)

/-- Reads so many octets, each behind a dot. -/
def readDottedOctets : Nat → List Char → Option (List Char)
  | 0, text => some text
  | count + 1, '.' :: text => (readOctet text).bind (readDottedOctets count)
  | _ + 1, _ => none

/-- Reads a dotted address. -/
def readDotted (text : List Char) : Option (List Char) :=
  (readOctet text).bind (readDottedOctets 3)

/-- Reads a group of hexadecimal digits. -/
def readGroup (text : List Char) : Option (List Char) :=
  let digits := text.takeWhile fun c => (hexDigit? c).isSome
  if digits.isEmpty ∨ 4 < digits.length then none else some (text.drop digits.length)

/-- The groups at the start of a text. -/
structure Groups where
  count : Nat
  endsDotted : Bool
  rest : List Char

/-- Reads at most so many groups with colons between them. A dotted address counts as two groups
and ends the run. -/
def readGroups (first : Bool) : Nat → List Char → Groups
  | 0, text => ⟨0, false, text⟩
  | room + 1, text =>
    let group? :=
      if first then some text
      else
        match text with
        | ':' :: rest => some rest
        | _ => none
    match group? with
    | none => ⟨0, false, text⟩
    | some group =>
      match if 0 < room then readDotted group else none with
      | some rest => ⟨2, true, rest⟩
      | none =>
        match readGroup group with
        | none => ⟨0, false, text⟩
        | some rest =>
          let later := readGroups false room rest
          { later with count := later.count + 1 }

/-- Reads a colon address. -/
def readColons (text : List Char) : Option (List Char) :=
  let head := readGroups true 8 text
  if head.count = 8 then some head.rest
  else if head.endsDotted then none
  else
    match head.rest with
    | ':' :: ':' :: rest => some (readGroups true (7 - head.count) rest).rest
    | _ => none

end ControlPlane.AddressNotation
