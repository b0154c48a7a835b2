import ControlPlane.Proofs.Text.Splitting
import ControlPlane.Uuid
import Mathlib.Algebra.Ring.Nat
import Mathlib.Data.String.Basic

/-!
# Identifiers are read back

The text of an identifier has five groups of digits with hyphens between them.
It is no sequence of digits alone, and it has the size of five groups; so it is
cut at its hyphens, and the digits that are found are those of the identifier.
-/

namespace ControlPlane

namespace Text

theorem utf8Len_intercalate (sep : Char) {parts : List (List Char)} (hne : parts ≠ []) :
    String.utf8Len (List.intercalate [sep] parts) + sep.utf8Size =
      (parts.map fun part => String.utf8Len part + sep.utf8Size).sum := by
  induction parts with
  | nil => exact absurd rfl hne
  | cons part rest ih =>
    cases rest with
    | nil => simp
    | cons next others =>
      have hrest := ih (List.cons_ne_nil _ _)
      rw [List.intercalate_cons_cons, List.map_cons, List.sum_cons, ← hrest]
      simp [String.utf8Len_append]
      omega

end Text

namespace Uuid

theorem digit?_digitChar (digit : Fin 16) : digit? (digitChar digit) = some digit := by
  revert digit
  decide

theorem digitChar_ne_hyphen (digit : Fin 16) : digitChar digit ≠ '-' := by
  revert digit
  decide

theorem utf8Size_digitChar (digit : Fin 16) : (digitChar digit).utf8Size = 1 := by
  revert digit
  decide

theorem mapM_digit?_map (digits : List (Fin 16)) :
    (digits.map digitChar).mapM digit? = some digits := by
  induction digits with
  | nil => rfl
  | cons digit rest ih => simp [digit?_digitChar, ih]

theorem mapM_digit?_eq_none {text : List Char} (h : '-' ∈ text) : text.mapM digit? = none := by
  induction text with
  | nil => cases h
  | cons c rest ih =>
    rcases List.mem_cons.mp h with rfl | hrest
    · rfl
    · rw [List.mapM_cons, ih hrest]
      cases digit? c <;> rfl

theorem groups_flatten {sizes : List Nat} {digits : List (Fin 16)}
    (h : digits.length = sizes.sum) : (groups sizes digits).flatten = digits := by
  induction sizes generalizing digits with
  | nil => exact (List.length_eq_zero_iff.mp h).symm
  | cons size rest ih =>
    rw [List.sum_cons] at h
    have hdrop : (digits.drop size).length = rest.sum := by
      rw [List.length_drop]
      omega
    rw [groups, List.flatten_cons, ih hdrop, List.take_append_drop]

theorem groups_map_length {sizes : List Nat} {digits : List (Fin 16)}
    (h : digits.length = sizes.sum) : (groups sizes digits).map List.length = sizes := by
  induction sizes generalizing digits with
  | nil => rfl
  | cons size rest ih =>
    rw [List.sum_cons] at h
    have hdrop : (digits.drop size).length = rest.sum := by
      rw [List.length_drop]
      omega
    rw [groups, List.map_cons, ih hdrop, List.length_take]
    congr 1
    omega

/-- The groups of an identifier as they are written. -/
def parts (id : Uuid) : List (List Char) :=
  (groups groupSizes id.digits).map fun group => group.map digitChar

theorem toList_render (id : Uuid) : id.render.toList = List.intercalate ['-'] id.parts :=
  String.toList_ofList

theorem beq_hyphen_of_mem_parts (id : Uuid) :
    ∀ part ∈ id.parts, ∀ c ∈ part, (c == '-') = false := by
  intro part hpart c hc
  obtain ⟨group, -, rfl⟩ := List.mem_map.mp hpart
  obtain ⟨digit, -, rfl⟩ := List.mem_map.mp hc
  exact beq_eq_false_iff_ne.mpr (digitChar_ne_hyphen digit)

theorem parts_map_length (id : Uuid) : id.parts.map List.length = groupSizes := by
  have hlengths : (groups groupSizes id.digits).map List.length = groupSizes :=
    groups_map_length id.length_digits
  rw [parts, List.map_map]
  simpa [Function.comp_def] using hlengths

theorem parts_ne_nil (id : Uuid) : id.parts ≠ [] := by
  intro hnil
  have hlengths := id.parts_map_length
  rw [hnil] at hlengths
  cases hlengths

/-- The groups come apart at the hyphens that are put between them. -/
theorem splitOn_parts (id : Uuid) :
    Text.splitOn (· == '-') (List.intercalate ['-'] id.parts) = id.parts :=
  Text.splitOn_intercalate (beq_self_eq_true '-') id.parts_ne_nil id.beq_hyphen_of_mem_parts

theorem parts_flatten (id : Uuid) : id.parts.flatten = id.digits.map digitChar := by
  rw [parts, ← List.map_flatten, groups_flatten id.length_digits]

theorem parseGrouped?_intercalate (id : Uuid) :
    parseGrouped? (List.intercalate ['-'] id.parts) = some id := by
  rw [parseGrouped?, id.splitOn_parts]
  simp only [parts_map_length, if_true, parts_flatten]
  rw [parseSimple?, mapM_digit?_map]
  exact dif_pos id.length_digits

theorem utf8Len_map_digitChar (digits : List (Fin 16)) :
    String.utf8Len (digits.map digitChar) = digits.length := by
  induction digits with
  | nil => rfl
  | cons digit rest ih =>
    rw [List.map_cons, String.utf8Len_cons, ih, utf8Size_digitChar, List.length_cons]

theorem utf8ByteSize_render (id : Uuid) : id.render.utf8ByteSize = groupedSize := by
  have hparts : id.parts.map (fun part => String.utf8Len part + 1) =
      groupSizes.map (· + 1) := by
    rw [← id.parts_map_length, List.map_map, parts, List.map_map, List.map_map]
    simp [utf8Len_map_digitChar]
  have hlength := Text.utf8Len_intercalate '-' id.parts_ne_nil
  have hsum : (id.parts.map fun part => String.utf8Len part + 1).sum = 37 := by
    rw [hparts]
    rfl
  have hhyphen : '-'.utf8Size = 1 := rfl
  rw [hhyphen, hsum] at hlength
  rw [render, String.utf8ByteSize_ofList]
  exact Nat.succ.inj hlength

theorem hyphen_mem_render (id : Uuid) : '-' ∈ id.render.toList := by
  by_contra hmem
  rw [toList_render] at hmem
  have hplain : ∀ c ∈ List.intercalate ['-'] id.parts, (c == '-') = false := by
    intro c hc
    rw [beq_eq_false_iff_ne]
    rintro rfl
    exact hmem hc
  -- A text without hyphens is a single part.
  have hparts := id.splitOn_parts
  rw [Text.splitOn_of_forall hplain] at hparts
  have hlengths := id.parts_map_length
  rw [← hparts] at hlengths
  exact absurd (congrArg List.length hlengths) (by simp [groupSizes])

/-- The text of an identifier is read as the identifier. -/
theorem parse?_render (id : Uuid) : parse? id.render = some id := by
  have hsimple : parseSimple? id.render.toList = none := by
    rw [parseSimple?, mapM_digit?_eq_none id.hyphen_mem_render]
    rfl
  have hbody : groupedBody? id.render = some (List.intercalate ['-'] id.parts) := by
    rw [groupedBody?, id.utf8ByteSize_render, toList_render]
    exact if_pos rfl
  rw [parse?, hsimple, hbody]
  exact id.parseGrouped?_intercalate

end Uuid

end ControlPlane
