import ControlPlane.Number.Numeral
import ControlPlane.Text.Split

/-!
# Universally unique identifiers

An identifier is thirty-two hexadecimal digits. It is written in five groups; it is read with or
without the hyphens between the groups, and with them also in braces or behind `urn:uuid:`, in
small or capital letters. Of a text that is no identifier the first flaw is named.
-/

namespace ControlPlane

/-- A universally unique identifier. -/
structure Uuid where
  digits : List (Fin 16)
  length_digits : digits.length = 32
  deriving DecidableEq

namespace Uuid

/-- The sizes of the groups. -/
def groupSizes : List Nat := [8, 4, 4, 4, 12]

/-- What may stand before an identifier, up to the case of its letters. -/
def urnMark : List Char := "urn:uuid:".toList

/-- A hexadecimal digit. -/
def digit? (c : Char) : Option (Fin 16) :=
  match Number.hexDigit? c with
  | some value => if h : value < 16 then some ⟨value, h⟩ else none
  | none => none

/-- The identifier of a list of digits. -/
def ofDigits? (digits : List (Fin 16)) : Option Uuid :=
  if h : digits.length = 32 then some ⟨digits, h⟩ else none

/-- Cuts digits into groups. -/
def groups : List Nat → List (Fin 16) → List (List (Fin 16))
  | [], _ => []
  | size :: sizes, digits => digits.take size :: groups sizes (digits.drop size)

/-- A digit in lower case. -/
def digitChar (digit : Fin 16) : Char :=
  Nat.digitChar digit.val

/-- The text of an identifier: five groups with hyphens between them. -/
def render (id : Uuid) : String :=
  String.ofList
    (List.intercalate ['-'] ((groups groupSizes id.digits).map fun group => group.map digitChar))

/-- The version of an identifier, which is its thirteenth digit. -/
def version (id : Uuid) : Nat :=
  ((id.digits[12]?).getD 0).val

/-- Reads digits without hyphens. -/
def parseSimple? (text : List Char) : Option Uuid :=
  (text.mapM digit?).bind ofDigits?

/-- Reads five groups with hyphens between them. -/
def parseGrouped? (text : List Char) : Option Uuid :=
  let parts := Text.splitOn (· == '-') text
  if parts.map List.length = groupSizes then parseSimple? parts.flatten else none

/-- The text stands in braces. -/
def isBraced (text : List Char) : Bool :=
  text.head? = some '\x7b' ∧ text.getLast? = some '\x7d' ∧ 2 ≤ text.length

/-- The text begins with the mark, in letters of either case. -/
def isMarked (text : List Char) : Bool :=
  urnMark.isPrefixOf (text.map Char.toLower)

/-- What is inside the braces, behind the mark, or else the text itself. -/
def body (text : List Char) : List Char :=
  if isBraced text then text.tail.dropLast
  else if isMarked text then text.drop urnMark.length
  else text

/-- How many bytes stand before the body. -/
def bodyStart (text : List Char) : Nat :=
  if isBraced text then 1 else if isMarked text then urnMark.length else 0

/-- The size in bytes of five groups with hyphens between them: thirty-two digits, four hyphens. -/
def groupedSize : Nat := 36

/-- The body of a text that has exactly the size of five groups, or that size and the braces or the
mark besides. A text of the size of five groups is taken whole, whatever it begins with. -/
def groupedBody? (text : String) : Option (List Char) :=
  let chars := text.toList
  let size := text.utf8ByteSize
  if size = groupedSize then some chars
  else if size = groupedSize + 2 ∧ isBraced chars then some (body chars)
  else if size = groupedSize + urnMark.length ∧ isMarked chars then some (body chars)
  else none

/-- Reads an identifier. -/
def parse? (text : String) : Option Uuid :=
  match parseSimple? text.toList with
  | some id => some id
  | none => (groupedBody? text).bind parseGrouped?

/-- What is wrong with a text that is no identifier. -/
inductive Flaw where
  /-- The text has a size that no identifier has. -/
  | size (found : Nat)
  /-- A character is neither a digit nor a hyphen; the position is its place in bytes. -/
  | character (found : Char) (position : Nat)
  /-- There are not five groups. -/
  | groupCount (found : Nat)
  /-- A group has not its size. -/
  | groupSize (group expected found : Nat)
  deriving DecidableEq

/-- The text of a flaw. -/
def Flaw.message : Flaw → String
  | .size found => "invalid length: found " ++ toString found
  | .character found position =>
    "invalid character: found `" ++ String.singleton found ++ "` at " ++ toString position
  | .groupCount found => "invalid group count: expected 5, found " ++ toString found
  | .groupSize group expected found =>
    "invalid group length in group " ++ toString group ++ ": expected " ++ toString expected ++
      ", found " ++ toString found

/-- The size in bytes of the longest text of an identifier: five groups behind the mark. -/
def maxSize : Nat := groupedSize + urnMark.length

/-- The first character that is neither a digit nor a hyphen, with its byte position. -/
def strange? (position : Nat) : List Char → Option (Char × Nat)
  | [] => none
  | c :: rest =>
    if c = '-' ∨ (digit? c).isSome then strange? (position + c.utf8Size) rest
    else some (c, position)

/-- The first group, counted from `index`, that has not its size, with the size it has. -/
def wrongGroup? (index : Nat) : List Nat → List Nat → Option (Nat × Nat × Nat)
  | size :: sizes, found :: rest =>
    if found = size then wrongGroup? (index + 1) sizes rest else some (index, size, found)
  | _, _ => none

/-- The first character that belongs in no group, in a text that begins at a byte position. -/
def characterFlaw? (position : Nat) (text : List Char) : Option Flaw :=
  (strange? position text).map fun (c, place) => .character c place

/-- What is wrong with groups of digits that make no identifier.

The last group is measured on all `size` bytes of the text, as what is left of them beyond the place
of four groups and four hyphens. -/
def groupFlaw (size : Nat) (text : List Char) : Flaw :=
  let found := (Text.splitOn (· == '-') text).map List.length
  if found.length ≠ 5 then .groupCount found.length
  else
    match wrongGroup? 0 (groupSizes.take 4) (found.take 4) with
    | some (group, expected, found) => .groupSize group expected found
    | none => .groupSize 4 12 (size - 24)

/-- The first flaw of a text that is no identifier.

A text that is too long is not looked into. One that has the size of five groups is judged by its
groups alone, and positions are counted in them. In any other text positions are counted from its
start, and a bare one without hyphens can only have the wrong size. -/
def flaw (text : String) : Flaw :=
  let chars := text.toList
  let size := text.utf8ByteSize
  if maxSize < size then .size size
  else
    match groupedBody? text with
    | some inner => (characterFlaw? 0 inner).getD (groupFlaw groupedSize inner)
    | none =>
      let bare := bodyStart chars = 0 ∧ '-' ∉ chars
      (characterFlaw? (bodyStart chars) (body chars)).getD
        (if bare then .size size else groupFlaw size (body chars))

end Uuid

end ControlPlane
