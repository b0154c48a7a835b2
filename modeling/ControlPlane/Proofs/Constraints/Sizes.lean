import ControlPlane.Constraints.Size
import ControlPlane.Proofs.Number.Digits
import ControlPlane.Proofs.Number.Rounding

/-!
# Sizes are read back

Every size that is read is a number that binary64 represents exactly, although
it is rounded up only after its unit has been taken into account.  So the text
of its digits, as a number of mebibytes, is read as the same size.
-/

namespace ControlPlane.Size

open Number

theorem unit?_eq_pow {suffix : Char} {unit : Nat} (h : unit? suffix = some unit) :
    ∃ shift, unit = 2 ^ shift := by
  unfold unit? at h
  split at h
  · exact ⟨0, (Option.some.inj h).symm⟩
  · exact ⟨10, (Option.some.inj h).symm⟩
  · exact ⟨20, (Option.some.inj h).symm⟩
  · exact ⟨30, (Option.some.inj h).symm⟩
  · cases h

theorem splitUnit_eq_pow (text : List Char) : ∃ shift, (splitUnit text).2 = 2 ^ shift := by
  unfold splitUnit
  split
  · next unit hunit =>
    obtain ⟨suffix, -, hsuffix⟩ := Option.bind_eq_some_iff.mp hunit
    exact unit?_eq_pow hsuffix
  · exact ⟨0, rfl⟩

theorem splitUnit_mebibytes (number : List Char) : splitUnit (number ++ ['M']) = (number, 1) := by
  simp [splitUnit, unit?]

theorem isExact_of_magnitude? {spelling : Spelling} {units : Nat}
    (h : magnitude? spelling = some units) : IsExact units := by
  cases spelling with
  | finite negative d =>
    simp only [magnitude?] at h
    split at h
    · next found hfound =>
      split at h
      · cases h
      · exact Option.some.inj h ▸ d.isExact_of_nearestUnits? hfound
    · cases h
  | infinite negative => cases h
  | notANumber => cases h

/-- Every size that is read is represented exactly. -/
theorem isExact_of_parse {text : List Char} {mebibytes : Nat} (h : parse text = .ok mebibytes) :
    IsExact mebibytes := by
  simp only [parse] at h
  split at h
  · cases h
  · split at h
    · cases h
    · split at h
      · cases h
      · next units hunits =>
        split at h
        · obtain ⟨shift, hshift⟩ := splitUnit_eq_pow text
          obtain rfl := Except.ok.inj h
          rw [hshift]
          exact (isExact_of_magnitude? hunits).ceilingOfUnits shift
        · cases h

/-- A number of mebibytes that is represented exactly is read from its digits. -/
theorem parse_toDigits {n : Nat} (h : IsExact n) (hlt : n < UInt64.size) :
    parse (Nat.toDigits 10 n ++ ['M']) = .ok n := by
  have hne : (Nat.toDigits 10 n ++ ['M']).isEmpty = false := by simp
  have hmagnitude : magnitude? (.finite false ⟨n, 0⟩) = some (n * Binary64.unitsPerOne) := by
    simp [magnitude?, h.nearestUnits?_eq hlt]
  simp only [parse, hne, splitUnit_mebibytes, Spelling.parse?_toDigits, hmagnitude,
    ceilingOfUnits_mul, Nat.mul_one, if_pos hlt]
  rfl

end ControlPlane.Size
