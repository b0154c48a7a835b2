import ControlPlane.Number.Decimal
import ControlPlane.Proofs.Number.Nearest

/-!
# Decimal numbers are rounded correctly

A decimal number is rounded to the magnitude that is nearest to it, and it is
finite as long as that magnitude is below the limit.  The decimals that are
told to be too large or next to nothing by their count of digits alone are no
exception.
-/

namespace ControlPlane.Number

open Binary64

/-- The number that a decimal stands for. -/
def Decimal.value (d : Decimal) : ℚ :=
  d.significand * 10 ^ d.exponent

namespace Binary64

/-- The number that a finite number of double precision stands for. -/
def value (x : Binary64) : ℚ :=
  if x.negative then -(x.units / unitsPerOne) else x.units / unitsPerOne

/-- What an operation of double precision results in whose exact result is `x` units: the nearest
magnitude, or none where that is not finite. -/
inductive RoundsTo (x : ℚ) : Option Nat → Prop where
  | finite {units : Nat} (h : IsNearest x units) (hlt : units < unitsLimit) :
      RoundsTo x (some units)
  | infinite {units : Nat} (h : IsNearest x units) (hle : unitsLimit ≤ units) : RoundsTo x none

end Binary64

/-- What a spelled number is rounded to, if that is finite. -/
def Spelling.RoundsTo : Spelling → Binary64 → Prop
  | .finite negative d, x =>
    x.negative = negative ∧ Binary64.RoundsTo (d.value * unitsPerOne) (some x.units)
  | .infinite _, _ => False
  | .notANumber, _ => False

namespace Binary64

theorem RoundsTo.unique {x : ℚ} {result result' : Option Nat} (h : RoundsTo x result)
    (h' : RoundsTo x result') : result = result' := by
  cases h with
  | finite hnearest hlt =>
    cases h' with
    | finite hnearest' _ => rw [hnearest.unique hnearest']
    | infinite hnearest' hle => exact absurd (hnearest.unique hnearest' ▸ hlt) (Nat.not_lt.mpr hle)
  | infinite hnearest hle =>
    cases h' with
    | finite hnearest' hlt => exact absurd (hnearest'.unique hnearest ▸ hlt) (Nat.not_lt.mpr hle)
    | infinite _ _ => rfl

theorem isExact_unitsLimit : IsExact unitsLimit := by
  obtain ⟨one, hone⟩ := exists_unitsPerOne
  rw [unitsLimit, hone]
  generalize 1024 = exponent
  refine ⟨1, exponent + one, by decide, ?_⟩
  rw [Nat.one_mul, Nat.pow_add]
  rfl

theorem unitsLimit_le {exponent : Nat} (h : 310 ≤ exponent) :
    unitsLimit ≤ 10 ^ exponent * unitsPerOne := by
  have hpow : Nat.pow 2 1024 ≤ Nat.pow 10 310 := by decide +kernel
  revert h hpow
  unfold unitsLimit
  generalize 310 = least
  generalize 1024 = binary
  intro h hpow
  exact Nat.mul_le_mul_right _ (Nat.le_trans hpow (Nat.pow_le_pow_right (by decide) h))

theorem two_mul_unitsPerOne_lt {exponent : Nat} (h : 331 ≤ exponent) :
    2 * unitsPerOne < 10 ^ exponent := by
  have hpow : 2 * unitsPerOne < Nat.pow 10 331 := by decide +kernel
  revert h hpow
  generalize 331 = least
  intro h hpow
  exact Nat.lt_of_lt_of_le hpow (Nat.pow_le_pow_right (by decide) h)

theorem unitsLimit_pos : 0 < unitsLimit := by
  unfold unitsLimit
  generalize 1024 = exponent
  exact Nat.mul_pos (Nat.two_pow_pos exponent) unitsPerOne_pos

end Binary64

namespace Decimal

variable (d : Decimal)

/-- The magnitude that a decimal is rounded to, where there is no upper end. -/
def rounded : Nat :=
  if 0 ≤ d.exponent then nearestUnits (d.significand * Nat.pow 10 d.exponent.toNat) 1
  else nearestUnits d.significand (Nat.pow 10 (-d.exponent).toNat)

theorem isNearest_rounded : IsNearest (d.value * unitsPerOne) d.rounded := by
  unfold rounded value
  split_ifs with hsign
  · obtain ⟨exponent, hexponent⟩ := Int.eq_ofNat_of_zero_le hsign
    have hnearest := isNearest_nearestUnits (d.significand * 10 ^ exponent) one_pos
    rw [Nat.cast_one, div_one] at hnearest
    push_cast at hnearest
    rw [hexponent, zpow_natCast]
    exact hnearest
  · obtain ⟨exponent, hexponent⟩ := Int.eq_ofNat_of_zero_le (by omega : 0 ≤ -d.exponent)
    have hneg : d.exponent = -(exponent : ℤ) := by omega
    have hnearest := isNearest_nearestUnits d.significand (Nat.pow_pos (n := exponent)
      (by decide : 0 < 10))
    push_cast at hnearest
    rw [hexponent, hneg, zpow_neg, zpow_natCast, ← div_eq_mul_inv]
    exact hnearest

variable {d}

/-- A decimal lies between two powers of ten. -/
theorem pow_le_value (h : d.significand ≠ 0) :
    (10 : ℚ) ^ (d.exponent + d.digitCount - 1) ≤ d.value ∧
      d.value < (10 : ℚ) ^ (d.exponent + d.digitCount) := by
  have hpos : (0 : ℚ) < 10 ^ d.exponent := zpow_pos (by norm_num) _
  have hcount : 0 < d.digitCount := by
    rw [digitCount, if_neg h]
    exact Nat.length_toDigits_pos
  have hiff : ∀ k, 0 < k → (d.digitCount ≤ k ↔ d.significand < 10 ^ k) := by
    intro k hk
    rw [digitCount, if_neg h]
    exact Nat.length_toDigits_le_iff (by decide) hk
  have hlower : 10 ^ (d.digitCount - 1) ≤ d.significand := by
    by_cases hone : d.digitCount = 1
    · rw [hone]
      exact Nat.one_le_iff_ne_zero.mpr h
    · by_contra hlt
      have hle := (hiff (d.digitCount - 1) (by omega)).mpr (Nat.lt_of_not_le hlt)
      omega
  have hupper := (hiff d.digitCount hcount).mp (Nat.le_refl _)
  have hsum : d.exponent + d.digitCount - 1 = (d.digitCount - 1 : ℕ) + d.exponent := by omega
  have hsum' : d.exponent + d.digitCount = (d.digitCount : ℕ) + d.exponent := by omega
  unfold value
  constructor
  · rw [hsum, zpow_add₀ (by norm_num), zpow_natCast]
    exact mul_le_mul_of_nonneg_right (by exact_mod_cast hlower) hpos.le
  · rw [hsum', zpow_add₀ (by norm_num), zpow_natCast]
    exact mul_lt_mul_of_pos_right (by exact_mod_cast hupper) hpos

/-- A decimal with many digits before its point is not finite. -/
theorem unitsLimit_le_rounded (h : d.significand ≠ 0) (hpoint : 310 < d.exponent + d.digitCount) :
    unitsLimit ≤ d.rounded := by
  apply d.isNearest_rounded.le_of_isExact isExact_unitsLimit
  obtain ⟨exponent, hexponent⟩ :=
    Int.eq_ofNat_of_zero_le (by omega : 0 ≤ d.exponent + d.digitCount - 1)
  have hvalue := (pow_le_value h).1
  rw [hexponent, zpow_natCast] at hvalue
  have hlimit : (unitsLimit : ℚ) ≤ 10 ^ exponent * unitsPerOne := by
    exact_mod_cast unitsLimit_le (by omega)
  exact hlimit.trans (mul_le_mul_of_nonneg_right hvalue (Nat.cast_nonneg _))

/-- A decimal that begins far behind its point is nearer to zero than to any other magnitude. -/
theorem rounded_eq_zero (h : d.significand ≠ 0) (hpoint : d.exponent + d.digitCount < -330) :
    d.rounded = 0 := by
  have hunits : (0 : ℚ) < unitsPerOne := by exact_mod_cast unitsPerOne_pos
  obtain ⟨exponent, hexponent⟩ :=
    Int.eq_ofNat_of_zero_le (by omega : 0 ≤ -(d.exponent + d.digitCount))
  have hneg : d.exponent + d.digitCount = -(exponent : ℤ) := by omega
  obtain ⟨hlower, hupper⟩ := pow_le_value h
  rw [hneg, zpow_neg, zpow_natCast] at hupper
  have hnonneg : 0 ≤ d.value := (zpow_pos (by norm_num) _).le.trans hlower
  have hpow : (2 : ℚ) * unitsPerOne < 10 ^ exponent := by
    exact_mod_cast two_mul_unitsPerOne_lt (by omega)
  have hpos : (0 : ℚ) < 10 ^ exponent := pow_pos (by norm_num) _
  apply d.isNearest_rounded.unique
  apply IsNearest.zero_of_lt_half (mul_nonneg hnonneg hunits.le)
  calc d.value * unitsPerOne < (10 ^ exponent)⁻¹ * unitsPerOne :=
        mul_lt_mul_of_pos_right hupper hunits
    _ < 1 / 2 := by
        rw [inv_mul_eq_div, div_lt_iff₀ hpos]
        linarith

/-- The shortcuts lead to what rounding leads to. -/
theorem nearestUnits?_eq (d : Decimal) :
    d.nearestUnits? = if d.rounded < unitsLimit then some d.rounded else none := by
  unfold nearestUnits?
  by_cases hzero : d.significand = 0
  · have hrounded : d.rounded = 0 := by
      apply d.isNearest_rounded.unique
      have hvalue : d.value * unitsPerOne = (0 : ℕ) := by
        rw [value, hzero, Nat.cast_zero, zero_mul, zero_mul]
      rw [hvalue]
      exact IsNearest.of_isExact (isExact_of_le (Nat.zero_le _))
    rw [if_pos hzero, hrounded, if_pos unitsLimit_pos]
  · rw [if_neg hzero]
    by_cases hlarge : 310 < d.exponent + d.digitCount
    · rw [if_pos hlarge, if_neg (Nat.not_lt.mpr (unitsLimit_le_rounded hzero hlarge))]
    · rw [if_neg hlarge]
      by_cases hsmall : d.exponent + d.digitCount < -330
      · rw [if_pos hsmall, rounded_eq_zero hzero hsmall, if_pos unitsLimit_pos]
      · rw [if_neg hsmall]
        rfl

/-- A decimal is rounded correctly. -/
theorem roundsTo_nearestUnits? (d : Decimal) :
    Binary64.RoundsTo (d.value * unitsPerOne) d.nearestUnits? := by
  rw [nearestUnits?_eq]
  split_ifs with hlt
  · exact .finite d.isNearest_rounded hlt
  · exact .infinite d.isNearest_rounded (Nat.le_of_not_lt hlt)

end Decimal

namespace Binary64

variable {x : Binary64}

/-- A finite number of double precision is not negative if its sign is not, or if it is zero. -/
theorem value_nonneg_iff : 0 ≤ x.value ↔ ¬(x.negative = true ∧ x.units ≠ 0) := by
  have hunits : (0 : ℚ) < unitsPerOne := by exact_mod_cast unitsPerOne_pos
  unfold value
  split_ifs with hsign
  · constructor
    · rintro hvalue ⟨-, hne⟩
      have hpos : (0 : ℚ) < x.units / unitsPerOne :=
        div_pos (by exact_mod_cast Nat.pos_of_ne_zero hne) hunits
      linarith
    · intro hnot
      have hzero : x.units = 0 := by
        by_contra hne
        exact hnot ⟨hsign, hne⟩
      rw [hzero, Nat.cast_zero, zero_div, neg_zero]
  · constructor
    · rintro - ⟨hnegative, -⟩
      exact hsign hnegative
    · intro _
      exact div_nonneg (Nat.cast_nonneg _) hunits.le

theorem value_of_nonneg (h : 0 ≤ x.value) : x.value = x.units / unitsPerOne := by
  rw [value_nonneg_iff] at h
  unfold value
  split_ifs with hsign
  · have hzero : x.units = 0 := by
      by_contra hne
      exact h ⟨hsign, hne⟩
    rw [hzero, Nat.cast_zero, zero_div, neg_zero]
  · rfl

end Binary64

/-- A finite number of double precision has a magnitude with 53 significant bits. -/
theorem Spelling.RoundsTo.isExact {spelling : Spelling} {r : Binary64}
    (h : spelling.RoundsTo r) : IsExact r.units := by
  cases spelling with
  | finite negative d =>
    cases h.2 with
    | finite hnearest _ => exact hnearest.isExact
  | infinite negative => exact h.elim
  | notANumber => exact h.elim

end ControlPlane.Number
