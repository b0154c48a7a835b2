import ControlPlane.Number.Decimal

/-!
# Binary numbers of double precision

The magnitude of a finite binary64 number is a multiple of `2 ^ (-1074)`, so it is kept as a
natural number of those units and all arithmetic on it is exact. A decimal number is rounded once,
to the nearest such magnitude with at most 53 significant bits, ties to the even one.
-/

namespace ControlPlane.Number

/-- A finite binary64 number: a sign and a magnitude in units of `2 ^ (-1074)`. -/
structure Binary64 where
  negative : Bool
  units : Nat
  deriving DecidableEq, Repr

namespace Binary64

/-- How many units make one. -/
def unitsPerOne : Nat := Nat.pow 2 1074

/-- The magnitudes from here on are beyond the finite numbers. -/
def unitsLimit : Nat := Nat.pow 2 1024 * unitsPerOne

/-- Equality as numbers: the two zeros are equal. -/
def same (x y : Binary64) : Bool :=
  x.units == y.units && (x.units == 0 || x.negative == y.negative)

/-- The distance between neighbouring magnitudes around `units`: 53 significant bits are kept. -/
def step (units : Nat) : Nat := Nat.pow 2 (units.log2 - 52)

end Binary64

/-- The quotient rounded to the nearest whole number, a tie to the even one. -/
def roundHalfEven (dividend divisor : Nat) : Nat :=
  let quotient := dividend / divisor
  let twice := 2 * (dividend % divisor)
  if twice < divisor then quotient
  else if divisor < twice then quotient + 1
  else if quotient % 2 = 0 then quotient else quotient + 1

/-- The magnitude nearest to `dividend / divisor`, in units and without an upper end. -/
def nearestUnits (dividend divisor : Nat) : Nat :=
  let scaled := dividend * Binary64.unitsPerOne
  let step := Binary64.step (scaled / divisor)
  roundHalfEven scaled (divisor * step) * step

/-- The magnitude nearest to a decimal number, or `none` where that is no longer finite.

Numbers of more than 310 digits before the point are beyond every finite magnitude, and numbers
that begin more than 330 places behind it are nearer to zero than to any other, so the powers of
ten that are computed stay small. -/
def Decimal.nearestUnits? (d : Decimal) : Option Nat :=
  let point := d.exponent + d.digitCount
  if d.significand = 0 then some 0
  else if 310 < point then none
  else if point < -330 then some 0
  else
    let units :=
      if 0 ≤ d.exponent then nearestUnits (d.significand * Nat.pow 10 d.exponent.toNat) 1
      else nearestUnits d.significand (Nat.pow 10 (-d.exponent).toNat)
    if units < Binary64.unitsLimit then some units else none

/-- The finite number nearest to a decimal number with a sign. -/
def Binary64.ofDecimal? (negative : Bool) (d : Decimal) : Option Binary64 :=
  d.nearestUnits?.map fun units => { negative, units }

/-- The least whole number that is not below `units * factor`. -/
def ceilingOfUnits (units factor : Nat) : Nat :=
  (units * factor + (Binary64.unitsPerOne - 1)) / Binary64.unitsPerOne

theorem Binary64.same_refl (x : Binary64) : x.same x = true := by
  simp [Binary64.same]

theorem Binary64.same_comm (x y : Binary64) : x.same y = y.same x := by
  unfold Binary64.same
  by_cases h : x.units = y.units
  · rw [h, Bool.beq_comm (a := x.negative)]
  · rw [beq_eq_false_iff_ne.2 h, beq_eq_false_iff_ne.2 (Ne.symm h), Bool.false_and, Bool.false_and]

end ControlPlane.Number
