import ControlPlane.Text.Split
import Mathlib.Data.List.Basic

/-!
# Parts of a text

What is put together with separators comes apart into the same parts, and the
parts of any text are free of separators.  So a list of parts can be written
as a text and read back just when no part has a separator in it.
-/

namespace ControlPlane.Text

variable {isSeparator : Char → Bool} {sep : Char} {text part : List Char}

/-- There is always a part. -/
theorem splitOn_ne_nil (isSeparator : Char → Bool) (text : List Char) :
    splitOn isSeparator text ≠ [] := by
  cases text with
  | nil => simp [splitOn]
  | cons c rest =>
    rw [splitOn]
    split
    · simp
    · split <;> simp

/-- A separator divides the parts before it from those after it. -/
theorem splitOn_append_cons (hsep : isSeparator sep = true) (before after : List Char) :
    splitOn isSeparator (before ++ sep :: after) =
      splitOn isSeparator before ++ splitOn isSeparator after := by
  induction before with
  | nil => simp [splitOn, hsep]
  | cons c rest ih =>
    rw [List.cons_append, splitOn, splitOn, ih]
    cases hrest : splitOn isSeparator rest with
    | nil => exact absurd hrest (splitOn_ne_nil isSeparator rest)
    | cons part parts => split <;> simp

theorem splitOn_append (hpart : ∀ c ∈ part, isSeparator c = false) (hsep : isSeparator sep = true)
    (rest : List Char) :
    splitOn isSeparator (part ++ sep :: rest) = part :: splitOn isSeparator rest := by
  rw [splitOn_append_cons hsep, splitOn_of_forall hpart, List.singleton_append]

/-- Parts that are put together with separators come apart again. -/
theorem splitOn_intercalate {parts : List (List Char)} (hsep : isSeparator sep = true)
    (hne : parts ≠ []) (hparts : ∀ part ∈ parts, ∀ c ∈ part, isSeparator c = false) :
    splitOn isSeparator (List.intercalate [sep] parts) = parts := by
  induction parts with
  | nil => exact absurd rfl hne
  | cons part rest ih =>
    rw [List.forall_mem_cons] at hparts
    cases rest with
    | nil =>
      rw [List.intercalate_singleton]
      exact splitOn_of_forall hparts.1
    | cons next others =>
      rw [List.intercalate_cons_cons, List.append_assoc, List.singleton_append,
        splitOn_append hparts.1 hsep, ih (List.cons_ne_nil _ _) hparts.2]

theorem fieldsOn_append_cons (hsep : isSeparator sep = true) (before after : List Char) :
    fieldsOn isSeparator (before ++ sep :: after) =
      fieldsOn isSeparator before ++ fieldsOn isSeparator after := by
  rw [fieldsOn, splitOn_append_cons hsep, List.filter_append]
  rfl

theorem mem_intercalate {parts : List (List Char)} {c : Char}
    (h : c ∈ List.intercalate [sep] parts) : c = sep ∨ ∃ part ∈ parts, c ∈ part := by
  induction parts with
  | nil => exact absurd h List.not_mem_nil
  | cons part rest ih =>
    cases rest with
    | nil =>
      rw [List.intercalate_singleton] at h
      exact .inr ⟨part, List.mem_cons_self, h⟩
    | cons next others =>
      rw [List.intercalate_cons_cons, List.append_assoc, List.mem_append, List.mem_append,
        List.mem_singleton] at h
      rcases h with hpart | hsep | hrest
      · exact .inr ⟨part, List.mem_cons_self, hpart⟩
      · exact .inl hsep
      · rcases ih hrest with hsep | ⟨other, hother, hc⟩
        · exact .inl hsep
        · exact .inr ⟨other, List.mem_cons_of_mem _ hother, hc⟩

/-- The parts of a text are made of its characters, without the separators. -/
theorem mem_of_mem_splitOn (hpart : part ∈ splitOn isSeparator text) {c : Char} (hc : c ∈ part) :
    c ∈ text ∧ isSeparator c = false := by
  induction text generalizing part with
  | nil =>
    obtain rfl := List.mem_singleton.mp hpart
    exact absurd hc List.not_mem_nil
  | cons first rest ih =>
    rw [splitOn] at hpart
    have hrest : ∀ {other : List Char}, other ∈ splitOn isSeparator rest → c ∈ other →
        c ∈ first :: rest ∧ isSeparator c = false := by
      intro other hother hmem
      exact ⟨List.mem_cons_of_mem _ (ih hother hmem).1, (ih hother hmem).2⟩
    split at hpart
    · rcases List.mem_cons.mp hpart with rfl | hpart
      · exact absurd hc List.not_mem_nil
      · exact hrest hpart hc
    · next hfirst =>
      -- The character goes to the first of the parts of the rest.
      have hself : first ∈ first :: rest ∧ isSeparator first = false :=
        ⟨List.mem_cons_self, Bool.eq_false_iff.mpr hfirst⟩
      split at hpart
      · obtain rfl := List.mem_singleton.mp hpart
        obtain rfl := List.mem_singleton.mp hc
        exact hself
      · next head others hsplit =>
        rcases List.mem_cons.mp hpart with rfl | hpart
        · rcases List.mem_cons.mp hc with rfl | hc
          · exact hself
          · exact hrest (hsplit ▸ List.mem_cons_self) hc
        · exact hrest (hsplit ▸ List.mem_cons_of_mem _ hpart) hc

theorem mem_fieldsOn (hpart : part ∈ fieldsOn isSeparator text) :
    part ≠ [] ∧ ∀ c ∈ part, c ∈ text ∧ isSeparator c = false := by
  obtain ⟨hmem, hne⟩ := List.mem_filter.mp hpart
  constructor
  · rintro rfl
    cases hne
  · intro c hc
    exact mem_of_mem_splitOn hmem hc

/-- Parts that are not empty are the fields of the text they are put together to. -/
theorem fieldsOn_intercalate {parts : List (List Char)} (hsep : isSeparator sep = true)
    (hparts : ∀ part ∈ parts, part ≠ [] ∧ ∀ c ∈ part, isSeparator c = false) :
    fieldsOn isSeparator (List.intercalate [sep] parts) = parts := by
  by_cases hnil : parts = []
  · subst hnil
    rfl
  · rw [fieldsOn, splitOn_intercalate hsep hnil fun part hpart => (hparts part hpart).2,
      List.filter_eq_self]
    intro part hpart
    simpa using (hparts part hpart).1

theorem cutFirst_append {before : List Char} (h : sep ∉ before) (after : List Char) :
    cutFirst sep (before ++ sep :: after) = some (before, after) := by
  induction before with
  | nil => simp [cutFirst]
  | cons c rest ih =>
    rw [List.mem_cons, not_or] at h
    simp [cutFirst, Ne.symm h.1, ih h.2]

end ControlPlane.Text
