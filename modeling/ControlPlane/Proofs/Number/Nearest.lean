import ControlPlane.Proofs.Number.Rounding
import Mathlib.Algebra.Order.Field.Basic
import Mathlib.Algebra.Order.Field.Rat
import Mathlib.Data.Nat.Cast.Order.Field
import Mathlib.Tactic.Linarith

/-!
# The nearest magnitude

Of all magnitudes with 53 significant bits rounding finds the one that is
nearest to the exact number, and of two that are equally near the one with the
even significand.  There is only one like this, so this says what rounding is
without saying how it is done.
-/

namespace ControlPlane.Number

variable {n m : Nat} {x : ℚ}

/-! ## The magnitudes around a magnitude -/

namespace Binary64

/-- The neighbours of a magnitude with a normal significand are one place of that away. -/
theorem step_mul_pow {significand exponent : Nat} (hlt : significand < 2 ^ 53)
    (hnormal : exponent = 0 ∨ 2 ^ 52 ≤ significand) :
    step (significand * 2 ^ exponent) = 2 ^ exponent := by
  have hlog : (significand * 2 ^ exponent).log2 - 52 = exponent := by
    by_cases hzero : significand = 0
    · subst hzero
      have hexponent : exponent = 0 := hnormal.resolve_right (by decide)
      subst hexponent
      decide
    · have hpos : significand * 2 ^ exponent ≠ 0 :=
        Nat.mul_ne_zero hzero (Nat.two_pow_pos exponent).ne'
      have hupper : (significand * 2 ^ exponent).log2 < 53 + exponent := by
        rw [Nat.log2_lt hpos, Nat.pow_add]
        exact Nat.mul_lt_mul_of_pos_right hlt (Nat.two_pow_pos exponent)
      rcases hnormal with rfl | hnormal
      · omega
      · have hlower : 52 + exponent ≤ (significand * 2 ^ exponent).log2 := by
          rw [Nat.le_log2 hpos, Nat.pow_add]
          exact Nat.mul_le_mul_right _ hnormal
        omega
  exact congrArg (Nat.pow 2) hlog

/-- A magnitude is at least 52 bits of the distance to its neighbours, unless that is least. -/
theorem pow_mul_step_le (units : Nat) : step units = 1 ∨ 2 ^ 52 * step units ≤ units := by
  by_cases hsmall : units.log2 ≤ 52
  · left
    exact congrArg (Nat.pow 2) (Nat.sub_eq_zero_of_le hsmall)
  · right
    have hne : units ≠ 0 := by
      rintro rfl
      exact hsmall (by decide)
    have hpow : 2 ^ 52 * step units = 2 ^ units.log2 := by
      change 2 ^ 52 * 2 ^ (units.log2 - 52) = _
      rw [← Nat.pow_add, Nat.add_sub_cancel' (by omega)]
    rw [hpow]
    exact Nat.log2_self_le hne

theorem exists_step (units : Nat) : ∃ exponent, step units = 2 ^ exponent :=
  ⟨_, rfl⟩

end Binary64

open Binary64

/-- An exact number is its significand times the distance to its neighbours. -/
theorem IsExact.div_step_mul (h : IsExact n) : n / step n * step n = n := by
  obtain ⟨significand, exponent, hlt, rfl⟩ := h
  exact Nat.div_mul_cancel (step_dvd hlt exponent)

theorem div_step_lt (n : Nat) : n / step n < 2 ^ 53 :=
  (Nat.div_lt_iff_lt_mul (step_pos n)).mpr (lt_mul_step n)

/-- An exact number that is not below 52 bits of some step is a multiple of that step. -/
theorem IsExact.pow_dvd (h : IsExact n) {exponent : Nat} (hle : 2 ^ 52 * 2 ^ exponent ≤ n) :
    2 ^ exponent ∣ n := by
  obtain ⟨significand, shift, hlt, rfl⟩ := h
  have hpow : 2 ^ (52 + exponent) < 2 ^ (53 + shift) := by
    rw [Nat.pow_add, Nat.pow_add]
    exact Nat.lt_of_le_of_lt hle (Nat.mul_lt_mul_of_pos_right hlt (Nat.two_pow_pos shift))
  have hexponent := (Nat.pow_lt_pow_iff_right (by decide)).mp hpow
  exact Nat.dvd_mul_left_of_dvd (Nat.pow_dvd_pow 2 (by omega)) significand

/-- The next number on the grid of an exact one is exact. -/
theorem IsExact.add_step (h : IsExact n) : IsExact (n + step n) := by
  obtain ⟨exponent, hstep⟩ := exists_step n
  have hsum : n + step n = (n / step n + 1) * 2 ^ exponent := by
    rw [Nat.succ_mul, ← hstep, h.div_step_mul]
  rw [hsum]
  exact isExact_mul_pow (div_step_lt n) exponent

/-- Between an exact number and the next one on its grid there is no other. -/
theorem IsExact.add_step_le (h : IsExact n) (hm : IsExact m) (hlt : n < m) : n + step n ≤ m := by
  rcases pow_mul_step_le n with hone | hle
  · omega
  · obtain ⟨exponent, hstep⟩ := exists_step n
    have hdvd : step n ∣ m := by
      rw [hstep]
      exact hm.pow_dvd (hstep ▸ Nat.le_trans hle hlt.le)
    obtain ⟨k, rfl⟩ := hdvd
    have hquotient : n / step n < k := by
      rw [Nat.div_lt_iff_lt_mul (step_pos n), Nat.mul_comm]
      exact hlt
    calc n + step n = (n / step n + 1) * step n := by rw [Nat.succ_mul, h.div_step_mul]
      _ ≤ k * step n := Nat.mul_le_mul_right _ hquotient
      _ = step n * k := Nat.mul_comm _ _

/-- The significand of the sum is the rounded one, or both are at the end of a binade. -/
theorem even_div_step_mul {significand exponent : Nat} (hle : significand ≤ 2 ^ 53)
    (hnormal : exponent = 0 ∨ 2 ^ 52 ≤ significand) (heven : Even significand) :
    Even (significand * 2 ^ exponent / step (significand * 2 ^ exponent)) := by
  rcases Nat.lt_or_eq_of_le hle with hlt | rfl
  · rw [step_mul_pow hlt hnormal, Nat.mul_div_cancel _ (Nat.two_pow_pos exponent)]
    exact heven
  · have hpow : 2 ^ 53 * 2 ^ exponent = 2 ^ 52 * 2 ^ (exponent + 1) := by
      rw [← Nat.pow_add, ← Nat.pow_add]
      congr 1
      omega
    rw [hpow, step_mul_pow (by decide) (.inr (Nat.le_refl _)),
      Nat.mul_div_cancel _ (Nat.two_pow_pos _)]
    decide

/-- Of two neighbours only one has an even significand. -/
theorem IsExact.not_even_add_step (h : IsExact n) (heven : Even (n / step n)) :
    ¬Even ((n + step n) / step (n + step n)) := by
  obtain ⟨exponent, hstep⟩ := exists_step n
  have hodd : ¬Even (n / step n + 1) := Nat.not_even_iff_odd.mpr heven.add_one
  have hlt : n / step n + 1 < 2 ^ 53 := by
    have hle := div_step_lt n
    rcases Nat.lt_or_eq_of_le hle with hlt | heq
    · exact hlt
    · have hend : n / step n + 1 = 2 ^ 53 := heq
      rw [hend] at hodd
      exact absurd (by decide) hodd
  have hnormal : exponent = 0 ∨ 2 ^ 52 ≤ n / step n + 1 := by
    rcases pow_mul_step_le n with hone | hle
    · left
      rw [hstep] at hone
      exact (Nat.pow_eq_one.mp hone).resolve_left (by decide)
    · right
      have hquotient := (Nat.le_div_iff_mul_le (step_pos n)).mpr hle
      omega
  have hsum : n + step n = (n / step n + 1) * 2 ^ exponent := by
    rw [Nat.succ_mul, ← hstep, h.div_step_mul]
  rw [hsum, step_mul_pow hlt hnormal, Nat.mul_div_cancel _ (Nat.two_pow_pos exponent)]
  exact hodd

/-! ## Rounding to whole numbers -/

theorem le_roundHalfEven (dividend divisor : Nat) :
    dividend / divisor ≤ roundHalfEven dividend divisor := by
  simp only [roundHalfEven]
  split_ifs <;> omega

/-- A quotient is rounded by less than one half, or it is a tie and the result is even. -/
theorem abs_roundHalfEven_sub (dividend : Nat) {divisor : Nat} (hpos : 0 < divisor) :
    |(roundHalfEven dividend divisor : ℚ) - dividend / divisor| < 1 / 2 ∨
      |(roundHalfEven dividend divisor : ℚ) - dividend / divisor| = 1 / 2 ∧
        Even (roundHalfEven dividend divisor) := by
  have hdivisor : (0 : ℚ) < divisor := by exact_mod_cast hpos
  obtain ⟨rest, hrest⟩ : ∃ rest : ℚ, rest = (dividend % divisor : ℕ) / divisor := ⟨_, rfl⟩
  have hquotient : (dividend : ℚ) / divisor = (dividend / divisor : ℕ) + rest := by
    rw [hrest, div_eq_iff hdivisor.ne', add_mul, div_mul_cancel₀ _ hdivisor.ne']
    exact_mod_cast (Nat.div_add_mod' dividend divisor).symm
  have hnonneg : 0 ≤ rest := by
    rw [hrest]
    exact div_nonneg (Nat.cast_nonneg _) hdivisor.le
  have hone : rest < 1 := by
    rw [hrest, div_lt_one hdivisor]
    exact_mod_cast Nat.mod_lt _ hpos
  rw [hquotient]
  simp only [roundHalfEven]
  split_ifs with hlow hhigh heven
  · left
    have hhalf : rest < 1 / 2 := by
      rw [hrest, div_lt_iff₀ hdivisor]
      have hcast : (2 : ℚ) * (dividend % divisor : ℕ) < divisor := by exact_mod_cast hlow
      linarith
    rw [abs_lt]
    constructor <;> linarith
  · left
    have hhalf : 1 / 2 < rest := by
      rw [hrest, lt_div_iff₀ hdivisor]
      have hcast : (divisor : ℚ) < 2 * (dividend % divisor : ℕ) := by exact_mod_cast hhigh
      linarith
    rw [Nat.cast_succ, abs_lt]
    constructor <;> linarith
  all_goals
    have htie : 2 * (dividend % divisor) = divisor := by omega
    have hhalf : rest = 1 / 2 := by
      rw [hrest, div_eq_iff hdivisor.ne']
      have hcast : (2 : ℚ) * (dividend % divisor : ℕ) = divisor := by exact_mod_cast htie
      linarith
    rw [hhalf]
    right
  · rw [sub_add_cancel_left, abs_neg, abs_of_pos one_half_pos]
    exact ⟨rfl, Nat.even_iff.mpr heven⟩
  · have hdifference : ((dividend / divisor + 1 : ℕ) : ℚ) - ((dividend / divisor : ℕ) + 1 / 2) =
        1 / 2 := by
      rw [Nat.cast_succ]
      linarith
    rw [hdifference, abs_of_pos one_half_pos]
    exact ⟨rfl, Nat.even_add_one.mpr fun hodd => heven (Nat.even_iff.mp hodd)⟩

/-- No other whole number is nearer than one that is at most one half away, and only a tie is
equally near. -/
theorem abs_sub_le_of_le_half (h : |(n : ℚ) - x| ≤ 1 / 2) (hne : m ≠ n) :
    |(n : ℚ) - x| ≤ |(m : ℚ) - x| ∧ (|(m : ℚ) - x| = |(n : ℚ) - x| → |(n : ℚ) - x| = 1 / 2) := by
  have hapart : (1 : ℚ) ≤ |(m : ℚ) - n| := by
    rcases Nat.lt_or_gt_of_ne hne with hlt | hlt
    · have hcast : (m : ℚ) + 1 ≤ n := by exact_mod_cast hlt
      rw [abs_of_nonpos (by linarith)]
      linarith
    · have hcast : (n : ℚ) + 1 ≤ m := by exact_mod_cast hlt
      rw [abs_of_nonneg (by linarith)]
      linarith
  have htriangle := abs_sub_le (m : ℚ) x n
  rw [abs_sub_comm x] at htriangle
  constructor
  · linarith
  · intro heq
    linarith

/-! ## Rounding to magnitudes -/

/-- The magnitude with 53 significant bits that is nearest to the exact number of units `x`; of two
that are equally near it is the one with the even significand. -/
structure IsNearest (x : ℚ) (n : Nat) : Prop where
  isExact : IsExact n
  abs_sub_le : ∀ m, IsExact m → |(n : ℚ) - x| ≤ |(m : ℚ) - x|
  even : ∀ m, IsExact m → m ≠ n → |(m : ℚ) - x| = |(n : ℚ) - x| → Even (n / step n)

/-- Of the exact numbers those on the grid around the quotient are the nearest ones. -/
theorem isNearest_of_grid {significand exponent : Nat} (hle : significand ≤ 2 ^ 53)
    (hnormal : exponent = 0 ∨ 2 ^ 52 ≤ significand ∧ ((2 ^ 52 * 2 ^ exponent : ℕ) : ℚ) ≤ x)
    (hround : |(significand : ℚ) - x / 2 ^ exponent| < 1 / 2 ∨
      |(significand : ℚ) - x / 2 ^ exponent| = 1 / 2 ∧ Even significand) :
    IsNearest x (significand * 2 ^ exponent) := by
  have hstep : (0 : ℚ) < 2 ^ exponent := pow_pos two_pos exponent
  have hscale : ∀ k : ℕ, |((k * 2 ^ exponent : ℕ) : ℚ) - x| =
      |(k : ℚ) - x / 2 ^ exponent| * 2 ^ exponent := by
    intro k
    rw [← abs_of_pos hstep, ← abs_mul, abs_of_pos hstep, sub_mul, div_mul_cancel₀ _ hstep.ne']
    push_cast
    rfl
  have hhalf : |(significand : ℚ) - x / 2 ^ exponent| ≤ 1 / 2 := by
    rcases hround with hlt | ⟨heq, -⟩
    · exact hlt.le
    · exact heq.le
  have hgrid : ∀ k, |((significand * 2 ^ exponent : ℕ) : ℚ) - x| ≤
      |((k * 2 ^ exponent : ℕ) : ℚ) - x| := by
    intro k
    by_cases heq : k = significand
    · rw [heq]
    · rw [hscale, hscale]
      exact mul_le_mul_of_nonneg_right (abs_sub_le_of_le_half hhalf heq).1 hstep.le
  -- An exact number off the grid is below the numbers of the same binade.
  have hoff : ∀ m, IsExact m → ¬2 ^ exponent ∣ m →
      |((significand * 2 ^ exponent : ℕ) : ℚ) - x| < |(m : ℚ) - x| := by
    intro m hm hdvd
    rcases hnormal with rfl | ⟨-, hx⟩
    · exact absurd (one_dvd m) hdvd
    · have hlt : m < 2 ^ 52 * 2 ^ exponent := by
        by_contra hge
        exact hdvd (hm.pow_dvd (Nat.le_of_not_lt hge))
      have hcast : (m : ℚ) < (2 ^ 52 * 2 ^ exponent : ℕ) := Nat.cast_lt.mpr hlt
      have hfirst := hgrid (2 ^ 52)
      rw [abs_of_nonpos (sub_nonpos.mpr hx)] at hfirst
      rw [abs_of_nonpos (sub_nonpos.mpr (hcast.le.trans hx))]
      linarith
  refine ⟨isExact_mul_pow hle exponent, ?_, ?_⟩
  · intro m hm
    by_cases hdvd : 2 ^ exponent ∣ m
    · obtain ⟨k, rfl⟩ := hdvd
      rw [Nat.mul_comm (2 ^ exponent)]
      exact hgrid k
    · exact (hoff m hm hdvd).le
  · intro m hm hne heq
    apply even_div_step_mul hle (hnormal.imp_right And.left)
    by_cases hdvd : 2 ^ exponent ∣ m
    · obtain ⟨k, rfl⟩ := hdvd
      have hk : k ≠ significand := by
        rintro rfl
        exact hne (Nat.mul_comm _ _)
      rw [Nat.mul_comm (2 ^ exponent), hscale, hscale] at heq
      have htie := (abs_sub_le_of_le_half hhalf hk).2 (mul_right_cancel₀ hstep.ne' heq)
      rcases hround with hlt | ⟨-, heven⟩
      · exact absurd htie hlt.ne
      · exact heven
    · exact absurd heq (hoff m hm hdvd).ne'

/-- What a quotient is rounded to is the nearest magnitude. -/
theorem isNearest_nearestUnits (dividend : Nat) {divisor : Nat} (hpos : 0 < divisor) :
    IsNearest ((dividend : ℚ) / divisor * unitsPerOne) (nearestUnits dividend divisor) := by
  obtain ⟨scaled, hscaled⟩ : ∃ scaled, scaled = dividend * unitsPerOne := ⟨_, rfl⟩
  obtain ⟨exponent, hstep⟩ := exists_step (scaled / divisor)
  have hx : (dividend : ℚ) / divisor * unitsPerOne = (scaled : ℚ) / divisor := by
    rw [hscaled, Nat.cast_mul, div_mul_eq_mul_div]
  have hquotient : (scaled : ℚ) / divisor / 2 ^ exponent =
      (scaled : ℚ) / (divisor * 2 ^ exponent : ℕ) := by
    rw [div_div]
    push_cast
    rfl
  rw [hx, nearestUnits]
  simp only [← hscaled, hstep]
  apply isNearest_of_grid
  · have hlt : scaled / (divisor * 2 ^ exponent) < 2 ^ 53 := by
      rw [← Nat.div_div_eq_div_mul, ← hstep]
      exact div_step_lt _
    exact Nat.le_trans (roundHalfEven_le _ _) hlt
  · rcases pow_mul_step_le (scaled / divisor) with hone | hle
    · left
      rw [hstep] at hone
      exact (Nat.pow_eq_one.mp hone).resolve_left (by decide)
    · right
      rw [hstep] at hle
      constructor
      · apply Nat.le_trans _ (le_roundHalfEven _ _)
        rw [← Nat.div_div_eq_div_mul]
        exact (Nat.le_div_iff_mul_le (Nat.two_pow_pos exponent)).mpr hle
      · have hcast : ((2 ^ 52 * 2 ^ exponent : ℕ) : ℚ) ≤ (scaled / divisor : ℕ) :=
          Nat.cast_le.mpr hle
        exact hcast.trans Nat.cast_div_le
  · rw [hquotient]
    exact abs_roundHalfEven_sub _ (Nat.mul_pos hpos (Nat.two_pow_pos exponent))

namespace IsNearest

/-- There is only one nearest magnitude. -/
theorem unique (h : IsNearest x n) (h' : IsNearest x m) : n = m := by
  have hdistance := le_antisymm (h.abs_sub_le m h'.isExact) (h'.abs_sub_le n h.isExact)
  by_contra hne
  wlog hlt : n < m generalizing n m
  · exact this h' h hdistance.symm (Ne.symm hne) (by omega)
  -- The exact number is halfway between the two, so there is no magnitude between them.
  have hcast : (n : ℚ) < m := by exact_mod_cast hlt
  have hmiddle : x - n = m - x := by
    rcases abs_eq_abs.mp hdistance with heq | heq
    · exact absurd (sub_left_injective heq) hcast.ne
    · linarith
  have hnext : n + step n = m := by
    apply Nat.le_antisymm (h.isExact.add_step_le h'.isExact hlt)
    by_contra hbelow
    have hstep : (0 : ℚ) < step n := by exact_mod_cast step_pos n
    have hinside : ((n + step n : ℕ) : ℚ) < m := by exact_mod_cast Nat.lt_of_not_le hbelow
    have hnearer := h.abs_sub_le _ h.isExact.add_step
    push_cast at hnearer hinside
    rw [abs_of_nonpos (by linarith)] at hnearer
    have hbetween : |(n : ℚ) + step n - x| < x - n := by
      rw [abs_lt]
      constructor <;> linarith
    linarith
  have heven := h.even m h'.isExact (Ne.symm hne) hdistance.symm
  have heven' := h'.even n h.isExact hne hdistance
  rw [← hnext] at heven'
  exact h.isExact.not_even_add_step heven heven'

/-- An exact number is rounded to itself. -/
theorem of_isExact (h : IsExact n) : IsNearest n n := by
  refine ⟨h, ?_, ?_⟩
  · intro m _
    rw [sub_self, abs_zero]
    exact abs_nonneg _
  · intro m _ hne heq
    rw [sub_self, abs_zero, abs_eq_zero, sub_eq_zero] at heq
    exact absurd (Nat.cast_injective heq) hne

/-- Rounding does not go below an exact number. -/
theorem le_of_isExact (h : IsNearest x n) (hm : IsExact m) (hle : (m : ℚ) ≤ x) : m ≤ n := by
  by_contra hlt
  have hcast : (n : ℚ) < m := by exact_mod_cast Nat.lt_of_not_le hlt
  have hnearest := h.abs_sub_le m hm
  rw [abs_of_nonpos (by linarith), abs_of_nonpos (by linarith)] at hnearest
  linarith

/-- Below one half of a unit rounding leaves nothing. -/
theorem zero_of_lt_half (hnonneg : 0 ≤ x) (hlt : x < 1 / 2) : IsNearest x 0 := by
  have hapart : ∀ m : ℕ, m ≠ 0 → |((0 : ℕ) : ℚ) - x| < |(m : ℚ) - x| := by
    intro m hm
    have hone : (1 : ℚ) ≤ m := by exact_mod_cast Nat.one_le_iff_ne_zero.mpr hm
    rw [Nat.cast_zero, zero_sub, abs_neg, abs_of_nonneg hnonneg, abs_of_pos (by linarith)]
    linarith
  refine ⟨isExact_of_le (Nat.zero_le _), ?_, ?_⟩
  · intro m _
    by_cases hm : m = 0
    · rw [hm]
    · exact (hapart m hm).le
  · intro m _ hne heq
    exact absurd heq (hapart m hne).ne'

end IsNearest

end ControlPlane.Number
