import ControlPlane.Constraints.Reader
import ControlPlane.Proofs.Constraints.Suffixes
import ControlPlane.Proofs.Number.Decimals
import Mathlib.Algebra.Order.Floor.Semiring
import Mathlib.Data.Rat.Floor

/-!
# Sizes are rounded once

A size is the least whole number that is not below the product of a number of
double precision and a unit.  The product is exact because a unit is a power of
two, so computing it in double precision changes nothing: the only rounding is
that of the number that is spelled.  Where 64 bits do not suffice the size is
refused, although the largest number of 64 bits is itself rounded before the
comparison.
-/

namespace ControlPlane.Size

open Number Binary64

/-- A size that is computed in double precision from a magnitude and a unit, or none if it is
refused.  The product is rounded and may be infinite; its ceiling, which is not rounded, has to be
below the largest number of 64 bits, which is. -/
inductive Computes (units unit : Nat) : Option Nat → Prop where
  | infinite (hproduct : RoundsTo (units * unit) none) : Computes units unit none
  | refused {product limit : Nat} (hproduct : RoundsTo (units * unit) (some product))
      (hlimit : RoundsTo ((UInt64.size - 1 : ℕ) * unitsPerOne) (some limit))
      (hle : limit ≤ ⌈(product : ℚ) / unitsPerOne⌉₊ * unitsPerOne) : Computes units unit none
  | held {product limit : Nat} (hproduct : RoundsTo (units * unit) (some product))
      (hlimit : RoundsTo ((UInt64.size - 1 : ℕ) * unitsPerOne) (some limit))
      (hlt : ⌈(product : ℚ) / unitsPerOne⌉₊ * unitsPerOne < limit) :
      Computes units unit (some ⌈(product : ℚ) / unitsPerOne⌉₊)

variable {number suffix : List Char} {spelling : Spelling} {unit units size : Nat}

/-! ## The number of a text -/

theorem add_pred_div_eq_ceil (dividend : Nat) {divisor : Nat} (hpos : 0 < divisor) :
    (dividend + (divisor - 1)) / divisor = ⌈(dividend : ℚ) / divisor⌉₊ := by
  apply eq_of_forall_ge_iff
  intro bound
  rw [Nat.ceil_le, div_le_iff₀ (by exact_mod_cast hpos), ← Nat.lt_succ_iff,
    Nat.div_lt_iff_lt_mul hpos, Nat.succ_mul]
  norm_cast
  omega

/-- The ceiling that is computed with whole numbers is that of the exact product. -/
theorem ceilingOfUnits_eq (units factor : Nat) :
    ceilingOfUnits units factor = ⌈(units : ℚ) / unitsPerOne * factor⌉₊ := by
  rw [ceilingOfUnits, add_pred_div_eq_ceil _ unitsPerOne_pos, Nat.cast_mul, div_mul_eq_mul_div]

/-- The magnitude that is used is that of the number of double precision. -/
theorem magnitude?_eq_some_iff : magnitude? spelling = some units ↔
    ∃ r, spelling.RoundsTo r ∧ 0 ≤ r.value ∧ r.units = units := by
  cases spelling with
  | finite negative d =>
    have hrounds := d.roundsTo_nearestUnits?
    constructor
    · intro h
      simp only [magnitude?] at h
      split at h
      · next found hfound =>
        split_ifs at h with hsign
        obtain rfl := Option.some.inj h
        rw [hfound] at hrounds
        exact ⟨⟨negative, found⟩, ⟨rfl, hrounds⟩, value_nonneg_iff.mpr hsign, rfl⟩
      · cases h
    · rintro ⟨r, ⟨rfl, hround⟩, hnonneg, rfl⟩
      have hfound := hrounds.unique hround
      simp only [magnitude?, hfound]
      exact if_neg (value_nonneg_iff.mp hnonneg)
  | infinite negative => simp [magnitude?, Spelling.RoundsTo]
  | notANumber => simp [magnitude?, Spelling.RoundsTo]

/-- A size is read just when its magnitude is and the product with the unit is not too large. -/
theorem parse_append_eq_ok_iff (hsuffix : Suffix suffix unit)
    (hnumber : Spelling.parse? number = some spelling) :
    parse (number ++ suffix) = .ok size ↔
      ∃ units, magnitude? spelling = some units ∧ ceilingOfUnits units unit < UInt64.size ∧
        size = ceilingOfUnits units unit := by
  have hne : (number ++ suffix).isEmpty = false := by
    have hnumber' : number ≠ [] := by
      rintro rfl
      cases hnumber
    simp [hnumber']
  simp only [parse, hne, splitUnit_append hsuffix hnumber, hnumber]
  rcases hunits : magnitude? spelling with _ | units
  · simp
  · by_cases hlt : ceilingOfUnits units unit < UInt64.size
    · simp [hlt, eq_comm]
    · simp [hlt]

/-! ## Whole numbers -/

/-- The spelling of a whole number. -/
theorem magnitude?_natural {n : Nat} (hle : n ≤ 2 ^ 53) :
    magnitude? (.finite false ⟨n, 0⟩) = some (n * unitsPerOne) := by
  have hlt : n < UInt64.size := Nat.lt_of_le_of_lt hle (by decide)
  simp [magnitude?, (isExact_of_le hle).nearestUnits?_eq hlt]

theorem ceilingOfUnits_le_ceilingOfUnits {smaller larger : Nat} (h : smaller ≤ larger)
    (factor : Nat) : ceilingOfUnits smaller factor ≤ ceilingOfUnits larger factor :=
  Nat.div_le_div_right (Nat.add_le_add_right (Nat.mul_le_mul_right factor h) _)

/-- The magnitude of a whole number is not below that of a power of two below the number. -/
theorem pow_mul_le_of_magnitude? {n exponent : Nat} (hle : 2 ^ exponent ≤ n)
    (h : magnitude? (.finite false ⟨n, 0⟩) = some units) : 2 ^ exponent * unitsPerOne ≤ units := by
  obtain ⟨r, ⟨-, hrounds⟩, -, rfl⟩ := magnitude?_eq_some_iff.mp h
  have hexact : IsExact (2 ^ exponent * unitsPerOne) := by
    obtain ⟨one, hone⟩ := exists_unitsPerOne
    rw [hone, ← Nat.pow_add, ← Nat.one_mul (2 ^ (exponent + one))]
    exact isExact_mul_pow (by decide) _
  cases hrounds with
  | finite hnearest _ =>
    apply hnearest.le_of_isExact hexact
    rw [Decimal.value, zpow_zero, mul_one]
    exact_mod_cast Nat.mul_le_mul_right unitsPerOne hle

/-- A whole number whose product with the unit is too large is refused, whatever it is rounded
to. -/
theorem size_le_ceilingOfUnits (hsuffix : Suffix suffix unit) {n : Nat}
    (hle : UInt64.size ≤ n * unit) (h : magnitude? (.finite false ⟨n, 0⟩) = some units) :
    UInt64.size ≤ ceilingOfUnits units unit := by
  obtain ⟨shift, hshift, rfl⟩ := hsuffix.eq_pow
  have hsize : UInt64.size = 2 ^ (64 - shift) * 2 ^ shift := by
    rw [← Nat.pow_add, Nat.sub_add_cancel (by omega)]
  rw [hsize] at hle ⊢
  have hpow := Nat.le_of_mul_le_mul_right hle (Nat.two_pow_pos shift)
  rw [← ceilingOfUnits_mul]
  exact ceilingOfUnits_le_ceilingOfUnits (pow_mul_le_of_magnitude? hpow h) _

/-! ## Double precision -/

/-- The largest number of 64 bits is rounded up. -/
theorem roundsTo_limit : RoundsTo ((UInt64.size - 1 : ℕ) * unitsPerOne)
    (some (UInt64.size * unitsPerOne)) := by
  have hnearest := isNearest_nearestUnits (UInt64.size - 1) one_pos
  have hunits : nearestUnits (UInt64.size - 1) 1 = UInt64.size * unitsPerOne := by decide +kernel
  rw [hunits, Nat.cast_one, div_one] at hnearest
  exact .finite hnearest (mul_unitsPerOne_lt (Nat.le_refl _))

theorem isExact_mul (hsuffix : Suffix suffix unit) (h : IsExact units) :
    IsExact (units * unit) := by
  obtain ⟨shift, -, rfl⟩ := hsuffix.eq_pow
  obtain ⟨significand, exponent, hlt, rfl⟩ := h
  rw [Nat.mul_assoc, ← Nat.pow_add]
  exact ⟨significand, exponent + shift, hlt, rfl⟩

/-- The product with a unit is not rounded, unless it is not finite. -/
theorem roundsTo_mul (hsuffix : Suffix suffix unit) (h : IsExact units) :
    RoundsTo (units * unit) (if units * unit < unitsLimit then some (units * unit) else none) := by
  have hnearest := IsNearest.of_isExact (isExact_mul hsuffix h)
  rw [Nat.cast_mul] at hnearest
  split_ifs with hlt
  · exact .finite hnearest hlt
  · exact .infinite hnearest (Nat.le_of_not_lt hlt)

theorem ceil_product_eq (units factor : Nat) :
    ⌈((units * factor : ℕ) : ℚ) / unitsPerOne⌉₊ = ceilingOfUnits units factor := by
  rw [ceilingOfUnits_eq, Nat.cast_mul, div_mul_eq_mul_div]

theorem mul_le_ceilingOfUnits_mul (units factor : Nat) :
    units * factor ≤ ceilingOfUnits units factor * unitsPerOne := by
  have hle := Nat.le_ceil (((units * factor : ℕ) : ℚ) / unitsPerOne)
  rw [ceil_product_eq, div_le_iff₀ (by exact_mod_cast unitsPerOne_pos)] at hle
  exact_mod_cast hle

theorem mul_lt_unitsLimit {factor : Nat} (h : ceilingOfUnits units factor < UInt64.size) :
    units * factor < unitsLimit :=
  calc units * factor ≤ ceilingOfUnits units factor * unitsPerOne :=
        mul_le_ceilingOfUnits_mul units factor
    _ < unitsLimit := mul_unitsPerOne_lt h.le

/-- Computing in double precision leads to the exact ceiling, or to a refusal where that does not
fit into 64 bits. -/
theorem computes_iff (hsuffix : Suffix suffix unit) (hexact : IsExact units) {result : Option Nat} :
    Computes units unit result ↔
      result = if ceilingOfUnits units unit < UInt64.size then some (ceilingOfUnits units unit)
        else none := by
  have hproduct := roundsTo_mul hsuffix hexact
  have hlimit := roundsTo_limit
  constructor
  · intro h
    cases h with
    | infinite hproduct' =>
      have heq := hproduct.unique hproduct'
      split_ifs at heq with hlt
      rw [if_neg fun h => hlt (mul_lt_unitsLimit h)]
    | refused hproduct' hlimit' hle =>
      have heq := hproduct.unique hproduct'
      split_ifs at heq with hlt
      obtain rfl := Option.some.inj heq
      obtain rfl := Option.some.inj (hlimit.unique hlimit')
      rw [ceil_product_eq] at hle
      rw [if_neg (Nat.not_lt.mpr (Nat.le_of_mul_le_mul_right hle unitsPerOne_pos))]
    | held hproduct' hlimit' hlt' =>
      have heq := hproduct.unique hproduct'
      split_ifs at heq with hlt
      obtain rfl := Option.some.inj heq
      obtain rfl := Option.some.inj (hlimit.unique hlimit')
      rw [ceil_product_eq] at hlt' ⊢
      rw [if_pos (Nat.lt_of_mul_lt_mul_right hlt')]
  · rintro rfl
    by_cases hlt : ceilingOfUnits units unit < UInt64.size
    · rw [if_pos (mul_lt_unitsLimit hlt)] at hproduct
      rw [if_pos hlt]
      rw [← ceil_product_eq] at hlt ⊢
      exact .held hproduct hlimit (Nat.mul_lt_mul_of_pos_right hlt unitsPerOne_pos)
    · rw [if_neg hlt]
      split_ifs at hproduct
      · rw [← ceil_product_eq] at hlt
        exact .refused hproduct hlimit (Nat.mul_le_mul_right _ (Nat.le_of_not_lt hlt))
      · exact .infinite hproduct

/-! ## What is read -/

theorem ceilingOfUnits_of_nonneg {r : Binary64} (h : 0 ≤ r.value) (factor : Nat) :
    ceilingOfUnits r.units factor = ⌈r.value * factor⌉₊ := by
  rw [ceilingOfUnits_eq, value_of_nonneg h]

theorem parse_eq_ok_iff_ceil (hsuffix : Suffix suffix unit)
    (hnumber : Spelling.parse? number = some spelling) :
    parse (number ++ suffix) = .ok size ↔ ∃ r : Binary64, spelling.RoundsTo r ∧ 0 ≤ r.value ∧
      ⌈r.value * unit⌉₊ < UInt64.size ∧ size = ⌈r.value * unit⌉₊ := by
  rw [parse_append_eq_ok_iff hsuffix hnumber]
  constructor
  · rintro ⟨units, hunits, hlt, rfl⟩
    obtain ⟨r, hrounds, hnonneg, rfl⟩ := magnitude?_eq_some_iff.mp hunits
    rw [ceilingOfUnits_of_nonneg hnonneg] at hlt ⊢
    exact ⟨r, hrounds, hnonneg, hlt, rfl⟩
  · rintro ⟨r, hrounds, hnonneg, hlt, rfl⟩
    rw [← ceilingOfUnits_of_nonneg hnonneg] at hlt ⊢
    exact ⟨r.units, magnitude?_eq_some_iff.mpr ⟨r, hrounds, hnonneg, rfl⟩, hlt, rfl⟩

theorem parse_eq_ok_iff_computes (hsuffix : Suffix suffix unit)
    (hnumber : Spelling.parse? number = some spelling) :
    parse (number ++ suffix) = .ok size ↔ ∃ r : Binary64, spelling.RoundsTo r ∧ 0 ≤ r.value ∧
      Computes r.units unit (some size) := by
  rw [parse_eq_ok_iff_ceil hsuffix hnumber]
  have hiff : ∀ r : Binary64, spelling.RoundsTo r → 0 ≤ r.value →
      (Computes r.units unit (some size) ↔
        ⌈r.value * unit⌉₊ < UInt64.size ∧ size = ⌈r.value * unit⌉₊) := by
    intro r hrounds hnonneg
    rw [computes_iff hsuffix hrounds.isExact, ceilingOfUnits_of_nonneg hnonneg]
    split_ifs with hlt
    · simp [hlt]
    · simp [hlt]
  constructor
  · rintro ⟨r, hrounds, hnonneg, hsize⟩
    exact ⟨r, hrounds, hnonneg, (hiff r hrounds hnonneg).mpr hsize⟩
  · rintro ⟨r, hrounds, hnonneg, hcomputes⟩
    exact ⟨r, hrounds, hnonneg, (hiff r hrounds hnonneg).mp hcomputes⟩

/-- The word that stands for a size is the size itself. -/
theorem ofNat_eq_iff_of_parse {text : List Char} (h : parse text = .ok size) (word : UInt64) :
    UInt64.ofNat size = word ↔ size = word.toNat := by
  constructor
  · rintro rfl
    exact (UInt64.toNat_ofNat_of_lt' (parse_lt h)).symm
  · rintro rfl
    exact UInt64.ofNat_toNat

/-- The size that is asked for is the one that is read. -/
theorem readValue_eq_ok_iff (text : List Char) (word : UInt64) :
    (Constraints.readValue .mem text = .ok { Constraints.empty with mem := some word } ↔
      parse text = .ok word.toNat) ∧
    (Constraints.readValue .rootDisk text = .ok { Constraints.empty with rootDisk := some word } ↔
      parse text = .ok word.toNat) := by
  unfold Constraints.readValue
  rcases hparse : parse text with error | size
  · simp [Except.mapError, Except.map]
  · have hword := ofNat_eq_iff_of_parse hparse word
    simp [Except.mapError, Except.map, Constraints.empty, hword]

/-- The whole numbers that are exact are read without any rounding. -/
theorem parse_natural (hsuffix : Suffix suffix unit) {n : Nat}
    (hnumber : Spelling.parse? number = some (.finite false ⟨n, 0⟩)) (hle : n ≤ 2 ^ 53)
    (hlt : n * unit < UInt64.size) : parse (number ++ suffix) = .ok (n * unit) := by
  rw [parse_append_eq_ok_iff hsuffix hnumber]
  rw [← ceilingOfUnits_mul] at hlt ⊢
  exact ⟨_, magnitude?_natural hle, hlt, rfl⟩

/-- No whole number is read whose product with the unit is too large. -/
theorem exists_error_of_size_le (hsuffix : Suffix suffix unit) {n : Nat}
    (hnumber : Spelling.parse? number = some (.finite false ⟨n, 0⟩))
    (hle : UInt64.size ≤ n * unit) : ∃ error, parse (number ++ suffix) = .error error := by
  rcases hparse : parse (number ++ suffix) with error | size
  · exact ⟨error, rfl⟩
  · obtain ⟨units, hunits, hlt, -⟩ := (parse_append_eq_ok_iff hsuffix hnumber).mp hparse
    exact absurd hlt (Nat.not_lt.mpr (size_le_ceilingOfUnits hsuffix hle hunits))

/-- A size is read just when its number is rounded to a finite number that is not negative and the
exact ceiling of the product with the unit fits into 64 bits, and it is that ceiling.  So it is what
double precision computes, and what is asked for is the size itself.  A whole number up to
`2 ^ 53` is not rounded at all, and one that is too large in its unit is refused. -/
theorem sizes_are_rounded_once (hsuffix : Suffix suffix unit) :
    (∀ number spelling size, Spelling.parse? number = some spelling →
      (parse (number ++ suffix) = .ok size ↔ ∃ r : Binary64, spelling.RoundsTo r ∧ 0 ≤ r.value ∧
        ⌈r.value * unit⌉₊ < UInt64.size ∧ size = ⌈r.value * unit⌉₊) ∧
      (parse (number ++ suffix) = .ok size ↔ ∃ r : Binary64, spelling.RoundsTo r ∧ 0 ≤ r.value ∧
        Computes r.units unit (some size))) ∧
    (∀ (text : List Char) (word : UInt64),
      (Constraints.readValue .mem text = .ok { Constraints.empty with mem := some word } ↔
        parse text = .ok word.toNat) ∧
      (Constraints.readValue .rootDisk text =
          .ok { Constraints.empty with rootDisk := some word } ↔
        parse text = .ok word.toNat)) ∧
    ∀ (digits number : List Char) (n : Nat), digits ≠ [] → (∀ c ∈ digits, c.isDigit = true) →
      n = Nat.ofDigitChars 10 digits 0 → number = digits ∨ number = '+' :: digits →
      (n ≤ 2 ^ 53 → n * unit < UInt64.size → parse (number ++ suffix) = .ok (n * unit)) ∧
      (UInt64.size ≤ n * unit → ∃ error, parse (number ++ suffix) = .error error) := by
  refine ⟨?_, readValue_eq_ok_iff, ?_⟩
  · intro number spelling size hnumber
    exact ⟨parse_eq_ok_iff_ceil hsuffix hnumber, parse_eq_ok_iff_computes hsuffix hnumber⟩
  · rintro digits number n hne hdigits rfl hnumber
    obtain ⟨hplain, hplus⟩ := Spelling.parse?_of_isDigit hne hdigits
    rcases hnumber with rfl | rfl
    · exact ⟨parse_natural hsuffix hplain, exists_error_of_size_le hsuffix hplain⟩
    · exact ⟨parse_natural hsuffix hplus, exists_error_of_size_le hsuffix hplus⟩

/-- One tenth is not exact, so its number of mebibytes is rounded up from what it is rounded to;
four is exact, and the number that is refused is the least one. -/
theorem sizes_are_rounded_once_gibi :
    (∃ r : Binary64, Spelling.RoundsTo (.finite false ⟨1, -1⟩) r ∧ 0 ≤ r.value ∧
      ⌈r.value * (2 ^ 10 : ℕ)⌉₊ = 103) ∧
    Constraints.readValue .mem ['0', '.', '1', 'G'] =
      .ok { Constraints.empty with mem := some 103 } ∧
    parse ('+' :: Nat.toDigits 10 4 ++ ['G']) = .ok 4096 ∧
    ∃ error, parse (Nat.toDigits 10 18014398509481984 ++ ['G']) = .error error := by
  obtain ⟨hread, hword, hnatural⟩ := sizes_are_rounded_once .gibi
  have htenth : parse (['0', '.', '1'] ++ ['G']) = .ok 103 := by decide +kernel
  obtain ⟨r, hrounds, hnonneg, -, hsize⟩ :=
    (hread ['0', '.', '1'] (.finite false ⟨1, -1⟩) 103 (by decide)).1.mp htenth
  refine ⟨⟨r, hrounds, hnonneg, hsize.symm⟩, (hword _ _).1.mpr htenth, ?_, ?_⟩
  · exact (hnatural _ _ 4 Nat.toDigits_ne_nil (isDigit_toDigits 4)
      Nat.ofDigitChars_ten_toDigits.symm (.inr rfl)).1 (by decide) (by decide)
  · exact (hnatural _ _ 18014398509481984 Nat.toDigits_ne_nil (isDigit_toDigits _)
      Nat.ofDigitChars_ten_toDigits.symm (.inl rfl)).2 (by decide)

end ControlPlane.Size
