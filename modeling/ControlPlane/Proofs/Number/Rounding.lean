import ControlPlane.Number.Binary64
import Mathlib.Data.Nat.Log
import Mathlib.Data.Nat.ModEq

/-!
# Natural numbers that are represented exactly

A natural number that needs at most 53 significant bits is rounded to itself.
Conversely rounding leaves at most 53 significant bits, and so does rounding a
multiple of such a number by a power of two up to a whole number, because a
number that has a fractional part to lose is small.
-/

namespace ControlPlane.Number

/-- A natural number for which 53 significant bits suffice.  Binary64 represents it exactly, as long
as it is below the limit of the finite numbers. -/
def IsExact (n : Nat) : Prop :=
  ∃ significand exponent, significand < 2 ^ 53 ∧ n = significand * 2 ^ exponent

variable {n : Nat}

theorem isExact_mul_pow {significand : Nat} (h : significand ≤ 2 ^ 53) (exponent : Nat) :
    IsExact (significand * 2 ^ exponent) := by
  rcases Nat.lt_or_eq_of_le h with hlt | rfl
  · exact ⟨significand, exponent, hlt, rfl⟩
  · refine ⟨1, 53 + exponent, by decide, ?_⟩
    rw [Nat.one_mul, Nat.pow_add]

theorem isExact_of_le (h : n ≤ 2 ^ 53) : IsExact n := by
  simpa using isExact_mul_pow h 0

namespace Binary64

/-- One is a power of two, counted in units. -/
theorem exists_unitsPerOne : ∃ exponent, unitsPerOne = 2 ^ exponent := by
  unfold unitsPerOne
  generalize 1074 = exponent
  exact ⟨exponent, Nat.pow_eq⟩

theorem unitsPerOne_pos : 0 < unitsPerOne := by
  obtain ⟨exponent, hunits⟩ := exists_unitsPerOne
  rw [hunits]
  exact Nat.two_pow_pos exponent

theorem mul_unitsPerOne_lt {n : Nat} (h : n ≤ UInt64.size) : n * unitsPerOne < unitsLimit := by
  unfold unitsLimit
  generalize hexponent : 1024 = exponent
  have hpow : 2 ^ 64 < 2 ^ exponent := Nat.pow_lt_pow_right (by decide) (by omega)
  exact Nat.mul_lt_mul_of_pos_right (Nat.lt_of_le_of_lt h hpow) unitsPerOne_pos

theorem step_pos (units : Nat) : 0 < step units := Nat.two_pow_pos _

/-- A magnitude is less than 53 bits of the distance to its neighbours. -/
theorem lt_mul_step (units : Nat) : units < 2 ^ 53 * step units := by
  have hpow : 2 ^ 53 * step units = 2 ^ (53 + (units.log2 - 52)) := (Nat.pow_add 2 53 _).symm
  have hexponent : units.log2 + 1 ≤ 53 + (units.log2 - 52) := by omega
  rw [hpow]
  exact Nat.lt_of_lt_of_le Nat.lt_log2_self (Nat.pow_le_pow_right (by decide) hexponent)

/-- A number of at most 53 significant bits lies on the grid of its neighbours. -/
theorem step_dvd {significand : Nat} (h : significand < 2 ^ 53) (exponent : Nat) :
    step (significand * 2 ^ exponent) ∣ significand * 2 ^ exponent := by
  by_cases hzero : significand * 2 ^ exponent = 0
  · rw [hzero]
    exact Nat.dvd_zero _
  · have hlt : significand * 2 ^ exponent < 2 ^ (53 + exponent) := by
      rw [Nat.pow_add]
      exact Nat.mul_lt_mul_of_pos_right h (Nat.two_pow_pos _)
    -- The grid is no coarser than the power of two that the number is a multiple of.
    have hlog := (Nat.log2_lt hzero).mpr hlt
    have hexponent : (significand * 2 ^ exponent).log2 - 52 ≤ exponent := by omega
    exact Nat.dvd_mul_left_of_dvd (Nat.pow_dvd_pow 2 hexponent) significand

end Binary64

theorem roundHalfEven_le (dividend divisor : Nat) :
    roundHalfEven dividend divisor ≤ dividend / divisor + 1 := by
  simp only [roundHalfEven]
  split_ifs <;> omega

theorem roundHalfEven_of_dvd {dividend divisor : Nat} (hpos : 0 < divisor)
    (hdvd : divisor ∣ dividend) : roundHalfEven dividend divisor = dividend / divisor := by
  have htwice : 2 * (dividend % divisor) < divisor := by
    rw [Nat.mod_eq_zero_of_dvd hdvd]
    exact hpos
  exact if_pos htwice

/-- Rounding leaves at most 53 significant bits. -/
theorem isExact_nearestUnits (dividend divisor : Nat) :
    IsExact (nearestUnits dividend divisor) := by
  have hround := roundHalfEven_le (dividend * Binary64.unitsPerOne)
    (divisor * Binary64.step (dividend * Binary64.unitsPerOne / divisor))
  have hquotient : dividend * Binary64.unitsPerOne / divisor /
      Binary64.step (dividend * Binary64.unitsPerOne / divisor) < 2 ^ 53 :=
    (Nat.div_lt_iff_lt_mul (Binary64.step_pos _)).mpr (Binary64.lt_mul_step _)
  rw [← Nat.div_div_eq_div_mul] at hround
  exact isExact_mul_pow (Nat.le_trans hround hquotient) _

/-- An exact number is rounded to itself. -/
theorem IsExact.nearestUnits_eq (h : IsExact n) :
    nearestUnits n 1 = n * Binary64.unitsPerOne := by
  have hdvd : Binary64.step (n * Binary64.unitsPerOne) ∣ n * Binary64.unitsPerOne := by
    obtain ⟨significand, exponent, hlt, rfl⟩ := h
    obtain ⟨one, hone⟩ := Binary64.exists_unitsPerOne
    rw [hone, Nat.mul_assoc, ← Nat.pow_add]
    exact Binary64.step_dvd hlt _
  simp only [nearestUnits, Nat.div_one, Nat.one_mul]
  rw [roundHalfEven_of_dvd (Binary64.step_pos _) hdvd, Nat.div_mul_cancel hdvd]

/-- Every magnitude that is read has at most 53 significant bits. -/
theorem Decimal.isExact_of_nearestUnits? {d : Decimal} {units : Nat}
    (h : d.nearestUnits? = some units) : IsExact units := by
  have hzero : IsExact 0 := isExact_of_le (Nat.zero_le _)
  simp only [nearestUnits?] at h
  split_ifs at h
  · exact Option.some.inj h ▸ hzero
  · exact Option.some.inj h ▸ hzero
  · exact Option.some.inj h ▸ isExact_nearestUnits _ _
  · exact Option.some.inj h ▸ isExact_nearestUnits _ _

/-- The digits of an exact number of 64 bits have its magnitude. -/
theorem IsExact.nearestUnits?_eq (h : IsExact n) (hlt : n < UInt64.size) :
    Decimal.nearestUnits? ⟨n, 0⟩ = some (n * Binary64.unitsPerOne) := by
  by_cases hzero : n = 0
  · subst hzero
    simp [Decimal.nearestUnits?]
  · have hdigits : (Nat.toDigits 10 n).length ≤ 20 :=
      (Nat.length_toDigits_le_iff (by decide) (by decide)).mpr (Nat.lt_trans hlt (by decide))
    have hlimit := Binary64.mul_unitsPerOne_lt hlt.le
    have hpoint : Decimal.digitCount ⟨n, 0⟩ ≤ 310 := by
      simp only [Decimal.digitCount, if_neg hzero]
      omega
    have hunits : nearestUnits (n * Nat.pow 10 0) 1 = n * Binary64.unitsPerOne := by
      change nearestUnits (n * 1) 1 = _
      rw [Nat.mul_one, h.nearestUnits_eq]
    simp only [Decimal.nearestUnits?, if_neg hzero]
    rw [if_neg (by omega), if_neg (by omega), if_pos (Int.le_refl 0)]
    simp only [Int.toNat_zero, hunits, if_pos hlimit]

/-- A product with a power of two that is rounded up to a whole number is exact. -/
theorem IsExact.ceilingOfUnits {units : Nat} (h : IsExact units) (shift : Nat) :
    IsExact (ceilingOfUnits units (2 ^ shift)) := by
  obtain ⟨significand, exponent, hlt, rfl⟩ := h
  obtain ⟨one, hone⟩ := Binary64.exists_unitsPerOne
  have hpos := Nat.two_pow_pos one
  rw [Number.ceilingOfUnits, Nat.mul_assoc, ← Nat.pow_add, hone]
  by_cases hwhole : one ≤ exponent + shift
  · -- The product is a whole number already.
    obtain ⟨rest, hrest⟩ := Nat.exists_eq_add_of_le hwhole
    refine ⟨significand, rest, hlt, ?_⟩
    rw [hrest, Nat.pow_add, Nat.mul_left_comm, Nat.mul_add_div hpos,
      Nat.div_eq_of_lt (Nat.sub_one_lt hpos.ne'), Nat.add_zero]
  · -- The product is at most the significand, which is small.
    apply isExact_of_le
    have hpow : 2 ^ (exponent + shift) ≤ 2 ^ one :=
      Nat.pow_le_pow_right (by decide) (Nat.le_of_not_le hwhole)
    have hproduct := Nat.mul_le_mul hlt.le hpow
    rw [← Nat.lt_succ_iff, Nat.div_lt_iff_lt_mul hpos, Nat.succ_mul]
    omega

/-- The product of a whole number and a unit is not rounded up. -/
theorem ceilingOfUnits_mul (n factor : Nat) :
    ceilingOfUnits (n * Binary64.unitsPerOne) factor = n * factor := by
  have hlast := Nat.sub_one_lt Binary64.unitsPerOne_pos.ne'
  rw [ceilingOfUnits, Nat.mul_right_comm, Nat.mul_comm, Nat.mul_add_div Binary64.unitsPerOne_pos,
    Nat.div_eq_of_lt hlast, Nat.add_zero]

end ControlPlane.Number
