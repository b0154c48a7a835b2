import ControlPlane.Number.Decimal
import Mathlib.Data.Nat.Digits.Defs

/-!
# Numerals are read back

The digits of a natural number are read as that number, be it as a numeral
that has to stay below a limit or as a real number without point, sign and
exponent.
-/

namespace ControlPlane.Number

variable {text : List Char}

theorem toNat_of_isDigit {c : Char} (h : c.isDigit = true) :
    48 ≤ c.val.toNat ∧ c.val.toNat ≤ 57 := by
  simpa [Char.isDigit, UInt32.le_iff_toNat_le] using h

theorem digit?_of_isDigit {c : Char} (h : c.isDigit = true) :
    digit? c = some (c.toNat - '0'.toNat) :=
  if_pos (toNat_of_isDigit h)

theorem toLower_of_isDigit {c : Char} (h : c.isDigit = true) : c.toLower = c := by
  have hbounds := toNat_of_isDigit h
  apply dif_neg
  rintro ⟨hupper, -⟩
  have hupper : 65 ≤ c.val.toNat := UInt32.le_iff_toNat_le.mp hupper
  omega

theorem isDigit_toDigits (n : Nat) : ∀ c ∈ Nat.toDigits 10 n, c.isDigit = true :=
  fun _ hc => Nat.isDigit_of_mem_toDigits (by decide) (by decide) hc

theorem le_ofDigitChars (text : List Char) (read : Nat) : read ≤ Nat.ofDigitChars 10 text read := by
  rw [Nat.ofDigitChars_eq_ofDigitChars_zero]
  have hpow : 1 ≤ 10 ^ text.length := Nat.one_le_pow _ _ (by decide)
  have hle := Nat.mul_le_mul_right read hpow
  omega

/-- Digits are read as long as the number that they spell is below the limit. -/
theorem readDigits_eq {limit read : Nat} (hdigits : ∀ c ∈ text, c.isDigit = true)
    (hlt : Nat.ofDigitChars 10 text read < limit) :
    readDigits limit read text = .ok (Nat.ofDigitChars 10 text read) := by
  induction text generalizing read with
  | nil => rfl
  | cons c rest ih =>
    rw [List.forall_mem_cons] at hdigits
    rw [Nat.ofDigitChars_cons] at hlt ⊢
    have hnext : ¬ limit ≤ read * 10 + (c.toNat - '0'.toNat) := by
      have hle := le_ofDigitChars rest (10 * read + (c.toNat - '0'.toNat))
      omega
    simp only [readDigits, digit?_of_isDigit hdigits.1]
    rw [if_neg hnext, Nat.mul_comm read, ih hdigits.2 hlt]

theorem parseBelow_of_isDigit {limit : Nat} (hne : text ≠ [])
    (hdigits : ∀ c ∈ text, c.isDigit = true) : parseBelow limit text = readDigits limit 0 text := by
  cases text with
  | nil => exact absurd rfl hne
  | cons c rest =>
    have hplus : c ≠ '+' := by
      rintro rfl
      exact absurd (hdigits '+' List.mem_cons_self) (by decide)
    simp [parseBelow, hplus]

/-- A number of 64 bits is read from its digits. -/
theorem parseWord_toDigits (n : UInt64) : parseWord (Nat.toDigits 10 n.toNat) = .ok n := by
  have hvalue : Nat.ofDigitChars 10 (Nat.toDigits 10 n.toNat) 0 = n.toNat :=
    Nat.ofDigitChars_ten_toDigits
  rw [parseWord, parseBelow_of_isDigit Nat.toDigits_ne_nil (isDigit_toDigits _),
    readDigits_eq (isDigit_toDigits _) (by rw [hvalue]; exact n.toNat_lt_size), hvalue]
  exact congrArg Except.ok UInt64.ofNat_toNat

theorem spanDigits_of_isDigit (hdigits : ∀ c ∈ text, c.isDigit = true) :
    spanDigits text = (text.map fun c => c.toNat - '0'.toNat, []) := by
  induction text with
  | nil => rfl
  | cons c rest ih =>
    rw [List.forall_mem_cons] at hdigits
    simp only [spanDigits, digit?_of_isDigit hdigits.1, ih hdigits.2, List.map_cons]

theorem ofDigits_map (text : List Char) :
    ofDigits (text.map fun c => c.toNat - '0'.toNat) = Nat.ofDigitChars 10 text 0 := by
  simp only [ofDigits, List.foldl_map, Nat.ofDigitChars_eq_foldl, Nat.mul_comm]

/-- Digits alone are a decimal number without an exponent. -/
theorem Decimal.parse?_of_isDigit (hne : text ≠ []) (hdigits : ∀ c ∈ text, c.isDigit = true) :
    Decimal.parse? text = some ⟨Nat.ofDigitChars 10 text 0, 0⟩ := by
  have hmap : text.map (fun c => c.toNat - '0'.toNat) ≠ [] := by
    simpa using hne
  simp only [Decimal.parse?, spanDigits_of_isDigit hdigits, List.append_nil, List.isEmpty_iff, hmap,
    Bool.and_eq_true, false_and, if_false, exponent?, Option.map_some, ofDigits_map]
  rfl

/-- A text that begins with a digit is no name that begins with something else. -/
theorem map_toLower_ne {c : Char} (hc : c.isDigit = true) (rest : List Char) (first : Char)
    (others : List Char) (hfirst : first.isDigit = false) :
    String.ofList ((c :: rest).map Char.toLower) ≠ String.ofList (first :: others) := by
  intro heq
  have hlists := String.ofList_injective heq
  rw [List.map_cons, toLower_of_isDigit hc] at hlists
  rw [List.head_eq_of_cons_eq hlists, hfirst] at hc
  cases hc

/-- Digits alone are a real number, with a plus sign before them or without a sign. -/
theorem Spelling.parse?_of_isDigit (hne : text ≠ []) (hdigits : ∀ c ∈ text, c.isDigit = true) :
    Spelling.parse? text = some (.finite false ⟨Nat.ofDigitChars 10 text 0, 0⟩) ∧
      Spelling.parse? ('+' :: text) =
        some (.finite false ⟨Nat.ofDigitChars 10 text 0, 0⟩) := by
  have hdecimal := Decimal.parse?_of_isDigit hne hdigits
  obtain ⟨c, rest, rfl⟩ := List.exists_cons_of_ne_nil hne
  have hdigit := hdigits c List.mem_cons_self
  have hinf := map_toLower_ne hdigit rest 'i' ['n', 'f'] (by decide)
  have hinfinity := map_toLower_ne hdigit rest 'i' ['n', 'f', 'i', 'n', 'i', 't', 'y'] (by decide)
  have hnan := map_toLower_ne hdigit rest 'n' ['a', 'n'] (by decide)
  constructor
  · rw [Spelling.parse?]
    · simp only [hdecimal, Option.map_some]
      rw [if_neg (not_or_intro hinf hinfinity), if_neg hnan]
    · rintro text heq
      rw [List.head_eq_of_cons_eq heq] at hdigit
      exact absurd hdigit (by decide)
    · rintro text heq
      rw [List.head_eq_of_cons_eq heq] at hdigit
      exact absurd hdigit (by decide)
  · simp only [Spelling.parse?, hdecimal, Option.map_some]
    rw [if_neg (not_or_intro hinf hinfinity), if_neg hnan]

theorem Spelling.parse?_toDigits (n : Nat) :
    Spelling.parse? (Nat.toDigits 10 n) = some (.finite false ⟨n, 0⟩) := by
  have hparse := (Spelling.parse?_of_isDigit Nat.toDigits_ne_nil (isDigit_toDigits n)).1
  rwa [Nat.ofDigitChars_ten_toDigits] at hparse

end ControlPlane.Number
