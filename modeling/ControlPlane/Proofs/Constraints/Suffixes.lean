import ControlPlane.Proofs.Constraints.Sizes

/-!
# Numbers and their units

A text is split at its last character, without a look at what stands before
it.  That finds the number and the unit again whenever what stands before the
unit is a real number, because no real number ends with the letter of a unit.
-/

namespace ControlPlane.Size

open Number

/-- The suffixes of sizes with the units that they stand for, in mebibytes. -/
inductive Suffix : List Char → Nat → Prop where
  | none : Suffix [] 1
  | mebi : Suffix ['M'] 1
  | gibi : Suffix ['G'] (2 ^ 10)
  | tebi : Suffix ['T'] (2 ^ 20)
  | pebi : Suffix ['P'] (2 ^ 30)

variable {number suffix : List Char} {spelling : Spelling} {unit : Nat}

theorem Suffix.eq_pow (h : Suffix suffix unit) : ∃ shift ≤ 30, unit = 2 ^ shift := by
  cases h with
  | none => exact ⟨0, by decide, rfl⟩
  | mebi => exact ⟨0, by decide, rfl⟩
  | gibi => exact ⟨10, by decide, rfl⟩
  | tebi => exact ⟨20, by decide, rfl⟩
  | pebi => exact ⟨30, by decide, rfl⟩

theorem Suffix.eq_nil_or (h : Suffix suffix unit) :
    suffix = [] ∧ unit = 1 ∨ ∃ letter, suffix = [letter] ∧ unit? letter = some unit := by
  cases h with
  | none => exact .inl ⟨rfl, rfl⟩
  | mebi => exact .inr ⟨'M', rfl, rfl⟩
  | gibi => exact .inr ⟨'G', rfl, rfl⟩
  | tebi => exact .inr ⟨'T', rfl, rfl⟩
  | pebi => exact .inr ⟨'P', rfl, rfl⟩

section Letters

variable {letter : Char} (h : unit? letter = some unit)

include h

theorem unit?_letter : letter = 'M' ∨ letter = 'G' ∨ letter = 'T' ∨ letter = 'P' := by
  unfold unit? at h
  split at h
  · exact .inl rfl
  · exact .inr (.inl rfl)
  · exact .inr (.inr (.inl rfl))
  · exact .inr (.inr (.inr rfl))
  · cases h

theorem digit?_letter : digit? letter = none := by
  rcases unit?_letter h with rfl | rfl | rfl | rfl <;> decide

theorem letter_notMem : letter ∉ ['-', '+', '.', 'e', 'E'] := by
  rcases unit?_letter h with rfl | rfl | rfl | rfl <;> decide

theorem toLower_letter : letter.toLower ∉ ['f', 'y', 'n'] := by
  rcases unit?_letter h with rfl | rfl | rfl | rfl <;> decide

/-- The letter of a unit is behind the digits. -/
theorem spanDigits_append (text : List Char) :
    spanDigits (text ++ [letter]) = ((spanDigits text).1, (spanDigits text).2 ++ [letter]) := by
  induction text with
  | nil => simp [spanDigits, digit?_letter h]
  | cons c rest ih =>
    rw [List.cons_append]
    rcases hdigit : digit? c with _ | d
    · simp only [spanDigits, hdigit, List.cons_append]
    · simp only [spanDigits, hdigit, ih]

theorem spanDigits_append_ne (text : List Char) : (spanDigits (text ++ [letter])).2 ≠ [] := by
  rw [spanDigits_append h]
  exact List.append_ne_nil_of_right_ne_nil _ (List.cons_ne_nil _ _)

omit h in
theorem exists_append_of_cons {first : Char} {text rest : List Char}
    (heq : text ++ [letter] = first :: rest) (hne : letter ≠ first) :
    ∃ middle, rest = middle ++ [letter] := by
  rcases List.append_eq_cons_iff.mp heq with ⟨-, hletter⟩ | ⟨middle, -, hrest⟩
  · exact absurd (List.head_eq_of_cons_eq hletter) hne
  · exact ⟨middle, hrest⟩

/-- No exponent ends with the letter of a unit. -/
theorem exponent?_append (text : List Char) : exponent? (text ++ [letter]) = none := by
  have hnot := letter_notMem h
  simp only [List.mem_cons, not_or] at hnot
  obtain ⟨hminus, hplus, -, hlower, hupper, -⟩ := hnot
  rcases text with _ | ⟨mark, rest⟩
  · simp [exponent?, hlower, hupper]
  · by_contra hsome
    obtain ⟨exponent, hexponent⟩ := Option.ne_none_iff_exists'.mp hsome
    simp only [List.cons_append, exponent?] at hexponent
    split at hexponent
    · split at hexponent
      · next hspan =>
        split at hspan
        · next heq =>
          obtain ⟨middle, rfl⟩ := exists_append_of_cons heq hminus
          exact spanDigits_append_ne h middle (congrArg Prod.snd hspan)
        · next heq =>
          obtain ⟨middle, rfl⟩ := exists_append_of_cons heq hplus
          exact spanDigits_append_ne h middle (congrArg Prod.snd hspan)
        · exact spanDigits_append_ne h rest (congrArg Prod.snd hspan)
      · cases hexponent
    · cases hexponent

/-- No decimal number ends with the letter of a unit. -/
theorem decimal?_append (text : List Char) : Decimal.parse? (text ++ [letter]) = none := by
  have hnot := letter_notMem h
  simp only [List.mem_cons, not_or] at hnot
  obtain ⟨-, -, hpoint, -⟩ := hnot
  have hexponent := exponent?_append h
  simp only [Decimal.parse?, spanDigits_append h]
  split
  · next heq =>
    obtain ⟨middle, rfl⟩ := exists_append_of_cons heq hpoint
    simp only [spanDigits_append h, hexponent, Option.map_none, ite_self]
  · simp only [hexponent, Option.map_none, ite_self]

/-- The names of the infinities and of no number end with other letters. -/
theorem map_toLower_append_ne (text : List Char) {name : String}
    (hname : name.toList.getLast? ∈ [some 'f', some 'y', some 'n']) :
    String.ofList ((text ++ [letter]).map Char.toLower) ≠ name := by
  rintro rfl
  rw [String.toList_ofList, List.map_append, List.map_singleton, List.getLast?_concat] at hname
  apply toLower_letter h
  simpa using hname

/-- No real number ends with the letter of a unit. -/
theorem spelling?_append (text : List Char) : Spelling.parse? (text ++ [letter]) = none := by
  have hnot := letter_notMem h
  simp only [List.mem_cons, not_or] at hnot
  obtain ⟨hminus, hplus, -⟩ := hnot
  have hmagnitude : ∀ rest negative,
      (if String.ofList ((rest ++ [letter]).map Char.toLower) = "inf" ∨
          String.ofList ((rest ++ [letter]).map Char.toLower) = "infinity" then
        some (Spelling.infinite negative)
      else if String.ofList ((rest ++ [letter]).map Char.toLower) = "nan" then some .notANumber
      else (Decimal.parse? (rest ++ [letter])).map (.finite negative)) = none := by
    intro rest negative
    have hinf := map_toLower_append_ne h rest (by decide : "inf".toList.getLast? ∈ _)
    have hinfinity := map_toLower_append_ne h rest (by decide : "infinity".toList.getLast? ∈ _)
    have hnan := map_toLower_append_ne h rest (by decide : "nan".toList.getLast? ∈ _)
    rw [if_neg (not_or_intro hinf hinfinity), if_neg hnan, decimal?_append h, Option.map_none]
  simp only [Spelling.parse?]
  split
  · next heq =>
    obtain ⟨middle, rfl⟩ := exists_append_of_cons heq hminus
    exact hmagnitude middle true
  · next heq =>
    obtain ⟨middle, rfl⟩ := exists_append_of_cons heq hplus
    exact hmagnitude middle false
  · exact hmagnitude text false

end Letters

theorem splitUnit_eq_self (hnumber : Spelling.parse? number = some spelling) :
    splitUnit number = (number, 1) := by
  unfold splitUnit
  split
  · next unit hunit =>
    obtain ⟨letter, hlast, hletter⟩ := Option.bind_eq_some_iff.mp hunit
    rw [List.getLast?_eq_some_iff] at hlast
    obtain ⟨text, rfl⟩ := hlast
    rw [spelling?_append hletter] at hnumber
    cases hnumber
  · rfl

/-- A text is split into its number and its suffix. -/
theorem splitUnit_append (hsuffix : Suffix suffix unit)
    (hnumber : Spelling.parse? number = some spelling) :
    splitUnit (number ++ suffix) = (number, unit) := by
  rcases hsuffix.eq_nil_or with ⟨rfl, rfl⟩ | ⟨letter, rfl, hletter⟩
  · rw [List.append_nil, splitUnit_eq_self hnumber]
  · simp [splitUnit, hletter]

end ControlPlane.Size
