/-!
# Tables

A table is a list of entries with ascending keys. Every operation looks at the entries in order
and stops at the first one that decides, so its laws hold of every list of entries; `insert` and
`erase` keep ascending keys ascending.
-/

namespace ControlPlane.Table

variable {α : Type}

/-- The entry with the given key. -/
def get? (key : String) : List (String × α) → Option α
  | [] => none
  | (k, a) :: rest => if k = key then some a else get? key rest

/-- Puts a value at a key, in place of an older one or before the first greater key. -/
def insert (key : String) (value : α) : List (String × α) → List (String × α)
  | [] => [(key, value)]
  | (k, a) :: rest =>
    if k = key then (key, value) :: rest
    else if key < k then (key, value) :: (k, a) :: rest
    else (k, a) :: insert key value rest

/-- Removes the entries with the given key. -/
def erase (key : String) (entries : List (String × α)) : List (String × α) :=
  entries.filter fun (k, _) => k ≠ key

/-- The table of a list of entries, of which later ones win. -/
def ofList (entries : List (String × α)) : List (String × α) :=
  entries.foldl (fun table (k, a) => insert k a table) []

/-- Keys in strictly ascending order, which is the order of their UTF-8 bytes. -/
def Ascending (entries : List (String × α)) : Prop :=
  entries.Pairwise fun x y => x.1 < y.1

@[simp] theorem get?_nil (key : String) : get? key ([] : List (String × α)) = none := rfl

@[simp] theorem get?_insert_self (key : String) (value : α) (entries : List (String × α)) :
    get? key (insert key value entries) = some value := by
  induction entries with
  | nil => simp [insert, get?]
  | cons e rest ih =>
    rw [insert]
    split
    · simp [get?]
    · split
      · simp [get?]
      · next hne _ => simp [get?, hne, ih]

theorem get?_insert_of_ne {key other : String} (h : other ≠ key) (value : α)
    (entries : List (String × α)) :
    get? other (insert key value entries) = get? other entries := by
  induction entries with
  | nil => simp [insert, get?, Ne.symm h]
  | cons e rest ih =>
    rw [insert]
    split
    · next heq => simp [get?, heq, Ne.symm h]
    · split
      · simp [get?, Ne.symm h]
      · simp [get?, ih]

/-- Looking up after an insertion. -/
theorem get?_insert (key other : String) (value : α) (entries : List (String × α)) :
    get? other (insert key value entries) =
      if other = key then some value else get? other entries := by
  split
  · next h => rw [h, get?_insert_self]
  · next h => exact get?_insert_of_ne h value entries

/-- Looking up after a removal. -/
theorem get?_erase (key other : String) (entries : List (String × α)) :
    get? other (erase key entries) = if other = key then none else get? other entries := by
  induction entries with
  | nil => simp [erase]
  | cons e rest ih =>
    obtain ⟨k, a⟩ := e
    simp only [erase, List.filter_cons] at ih ⊢
    by_cases hk : k = key
    · subst hk
      simp only [ne_eq, not_true_eq_false, decide_false, Bool.false_eq_true, ↓reduceIte, ih, get?]
      by_cases ho : other = k <;> simp [ho, Ne.symm]
    · simp only [ne_eq, hk, not_false_eq_true, decide_true, ↓reduceIte, get?, ih]
      by_cases ho : k = other
      · subst ho; simp [hk]
      · simp [ho]

/-- What is in a table after an insertion is what was put in, or was there before. -/
theorem mem_insert {key : String} {value : α} {entries : List (String × α)} {entry : String × α}
    (h : entry ∈ insert key value entries) : entry = (key, value) ∨ entry ∈ entries := by
  induction entries with
  | nil => exact Or.inl (List.mem_singleton.1 h)
  | cons e rest ih =>
    rw [insert] at h
    split at h
    · exact (List.mem_cons.1 h).imp_right (List.mem_cons_of_mem _)
    · split at h
      · exact List.mem_cons.1 h
      · rcases List.mem_cons.1 h with h | h
        · exact Or.inr (h ▸ List.mem_cons_self)
        · exact (ih h).imp_right (List.mem_cons_of_mem _)

/-- Putting a value in keeps ascending keys ascending. -/
theorem Ascending.insert {entries : List (String × α)} (h : Ascending entries) (key : String)
    (value : α) : Ascending (insert key value entries) := by
  induction entries with
  | nil => exact List.pairwise_singleton _ _
  | cons e rest ih =>
    have ⟨hfirst, hrest⟩ := List.pairwise_cons.1 h
    rw [Table.insert]
    split
    · next heq => exact List.pairwise_cons.2 ⟨fun x hx => heq ▸ hfirst x hx, hrest⟩
    · next hne =>
      split
      · next hlt =>
        refine List.pairwise_cons.2 ⟨fun x hx => ?_, h⟩
        rcases List.mem_cons.1 hx with rfl | hx
        · exact hlt
        · exact String.lt_trans hlt (hfirst x hx)
      · next hnlt =>
        have hlt : e.1 < key :=
          String.not_le.1 fun hle => hne (String.le_antisymm (String.not_lt.1 hnlt) hle)
        refine List.pairwise_cons.2 ⟨fun x hx => ?_, ih hrest⟩
        rcases mem_insert hx with rfl | hx
        · exact hlt
        · exact hfirst x hx

/-- Removing entries keeps ascending keys ascending. -/
theorem Ascending.erase {entries : List (String × α)} (h : Ascending entries) (key : String) :
    Ascending (erase key entries) :=
  h.sublist List.filter_sublist

/-- The table of a list of entries has ascending keys. -/
theorem ascending_ofList (entries : List (String × α)) : Ascending (ofList entries) := by
  unfold ofList
  have hfold : ∀ (table : List (String × α)), Ascending table →
      Ascending (entries.foldl (fun table (k, a) => Table.insert k a table) table) := by
    induction entries with
    | nil => exact fun _ h => h
    | cons e rest ih => exact fun _ h => ih _ (h.insert e.1 e.2)
  exact hfold [] List.Pairwise.nil

end ControlPlane.Table
