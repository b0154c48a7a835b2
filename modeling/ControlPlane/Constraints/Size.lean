import ControlPlane.Number.Binary64
import ControlPlane.Text.Quoted

/-!
# Sizes

A size is a real number with an optional suffix for its unit, and stands for a whole number of
mebibytes. The number is rounded once, to binary64; the product with the unit is exact and is
rounded up. A size that 64 bits do not hold is refused.
-/

namespace ControlPlane

open ControlPlane.Number

/-- Why a text is not a size. -/
inductive SizeError where
  | empty
  | notANumber (text : String)
  | negative (text : String)
  | tooLarge (text : String)
  deriving DecidableEq, Repr

/-- The wording of a refused size. -/
def SizeError.message : SizeError → String
  | .empty => "empty size"
  | .notANumber text =>
    "must be a non-negative float with optional M/G/T/P suffix, got " ++ Text.quoted text
  | .negative text => "must be non-negative, got " ++ Text.quoted text
  | .tooLarge text => "size is too large, got " ++ Text.quoted text

namespace Size

/-- How many mebibytes the unit of a suffix has. -/
def unit? : Char → Option Nat
  | 'M' => some 1
  | 'G' => some 1024
  | 'T' => some (1024 * 1024)
  | 'P' => some (1024 * 1024 * 1024)
  | _ => none

/-- The text of the number and the size of its unit. -/
def splitUnit (text : List Char) : List Char × Nat :=
  match text.getLast?.bind unit? with
  | some unit => (text.dropLast, unit)
  | none => (text, 1)

/-- The magnitude of a spelled number if it is finite and not negative; minus zero is zero. -/
def magnitude? : Spelling → Option Nat
  | .finite negative d =>
    match d.nearestUnits? with
    | some units => if negative ∧ units ≠ 0 then none else some units
    | none => none
  | .infinite _ => none
  | .notANumber => none

/-- Reads a size as a whole number of mebibytes that 64 bits hold. -/
def parse (text : List Char) : Except SizeError Nat :=
  if text.isEmpty then .error .empty
  else
    let (number, unit) := splitUnit text
    match Spelling.parse? number with
    | none => .error (.notANumber (String.ofList text))
    | some spelling =>
      match magnitude? spelling with
      | none => .error (.negative (String.ofList text))
      | some units =>
        let mebibytes := ceilingOfUnits units unit
        if mebibytes < UInt64.size then .ok mebibytes else .error (.tooLarge (String.ofList text))

/-- A size fits into 64 bits. -/
theorem parse_lt {text : List Char} {mebibytes : Nat} (h : parse text = .ok mebibytes) :
    mebibytes < UInt64.size := by
  unfold parse at h
  split at h
  · simp at h
  · dsimp only at h
    split at h
    · simp at h
    · split at h
      · simp at h
      · split at h
        · simp_all
        · simp at h

end Size

end ControlPlane
