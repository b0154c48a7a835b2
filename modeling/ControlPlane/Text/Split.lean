import ControlPlane.Text.Blank

/-!
# Cutting a text into parts

A text is cut at every separator, at its blanks, at the first separator or at the last one.
All parts are lists of characters, so that a law about them is a law about lists.
-/

namespace ControlPlane.Text

/-- The parts between the separators, of which there is always one more than separators. -/
def splitOn (isSeparator : Char → Bool) : List Char → List (List Char)
  | [] => [[]]
  | c :: rest =>
    if isSeparator c then
      [] :: splitOn isSeparator rest
    else
      match splitOn isSeparator rest with
      | [] => [[c]]
      | part :: parts => (c :: part) :: parts

/-- The parts between the separators that are not empty. -/
def fieldsOn (isSeparator : Char → Bool) (text : List Char) : List (List Char) :=
  (splitOn isSeparator text).filter (fun part => !part.isEmpty)

/-- The words of a text: its longest runs of characters that are not blank. -/
def words (text : List Char) : List (List Char) :=
  fieldsOn isBlank text

/-- What stands before and after the first `sep`. -/
def cutFirst (sep : Char) : List Char → Option (List Char × List Char)
  | [] => none
  | c :: rest =>
    if c = sep then some ([], rest)
    else (cutFirst sep rest).map fun (before, after) => (c :: before, after)

/-- What stands before and after the last `sep`. -/
def cutLast (sep : Char) : List Char → Option (List Char × List Char)
  | [] => none
  | c :: rest =>
    match cutLast sep rest with
    | some (before, after) => some (c :: before, after)
    | none => if c = sep then some ([], rest) else none

/-- A text without the separator is one part. -/
theorem splitOn_of_forall {isSeparator : Char → Bool} {text : List Char}
    (h : ∀ c ∈ text, isSeparator c = false) : splitOn isSeparator text = [text] := by
  induction text with
  | nil => rfl
  | cons c rest ih =>
    simp only [List.mem_cons, forall_eq_or_imp] at h
    simp [splitOn, h.1, ih h.2]

/-- Cutting at the first separator loses nothing but that separator. -/
theorem eq_of_cutFirst {sep : Char} {text before after : List Char}
    (h : cutFirst sep text = some (before, after)) : text = before ++ sep :: after := by
  induction text generalizing before with
  | nil => simp [cutFirst] at h
  | cons c rest ih =>
    rw [cutFirst] at h
    split at h
    · next hc => simp_all
    · obtain ⟨⟨b, a⟩, hb, heq⟩ := Option.map_eq_some_iff.1 h
      obtain ⟨rfl, rfl⟩ := Prod.mk.inj heq
      simp [ih hb]

/-- A cut at the last separator finds the one after which there is no other. -/
theorem cutLast_append {sep : Char} (before after : List Char) (h : sep ∉ after) :
    cutLast sep (before ++ sep :: after) = some (before, after) := by
  have hnone : cutLast sep after = none := by
    induction after with
    | nil => rfl
    | cons c rest ih =>
      simp only [List.mem_cons, not_or] at h
      simp [cutLast, ih h.2, Ne.symm h.1]
  induction before with
  | nil => simp [cutLast, hnone]
  | cons c rest ih => simp [cutLast, ih]

end ControlPlane.Text
