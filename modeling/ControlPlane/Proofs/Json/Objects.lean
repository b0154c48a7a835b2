import ControlPlane.Json.Value
import Mathlib.Data.List.Sort

/-!
# Objects as functions of their field names

An object is determined by what is found under each name.  This is what makes
a partial update of a stored record comparable with the record written anew:
both are the same function of the names, hence the same object.
-/

namespace ControlPlane.Table

variable {α : Type}

theorem mem_of_get? {key : String} {value : α} {entries : List (String × α)}
    (h : get? key entries = some value) : (key, value) ∈ entries := by
  induction entries with
  | nil => simp at h
  | cons entry rest ih =>
    rw [get?] at h
    split at h
    · next heq =>
      obtain rfl : entry.2 = value := Option.some.inj h
      exact heq ▸ List.mem_cons_self
    · exact List.mem_cons_of_mem _ (ih h)

theorem get?_eq_none {key : String} {entries : List (String × α)}
    (h : key ∉ entries.map (·.1)) : get? key entries = none := by
  by_contra hsome
  obtain ⟨value, hvalue⟩ := Option.ne_none_iff_exists'.mp hsome
  exact h (List.mem_map.mpr ⟨(key, value), mem_of_get? hvalue, rfl⟩)

theorem get?_of_mem {entries : List (String × α)}
    (hnodup : (entries.map (·.1)).Nodup) {entry : String × α} (hmem : entry ∈ entries) :
    get? entry.1 entries = some entry.2 := by
  induction entries with
  | nil => simp at hmem
  | cons first rest ih =>
    rw [List.map_cons, List.nodup_cons] at hnodup
    rw [get?]
    rcases List.mem_cons.mp hmem with rfl | hrest
    · simp
    · have hne : first.1 ≠ entry.1 := by
        intro heq
        exact hnodup.1 (heq ▸ List.mem_map_of_mem hrest)
      rw [if_neg hne]
      exact ih hnodup.2 hrest

theorem get?_append (key : String) (xs ys : List (String × α)) :
    get? key (xs ++ ys) = (get? key xs <|> get? key ys) := by
  induction xs with
  | nil => rfl
  | cons entry rest ih =>
    rw [List.cons_append, get?, get?]
    split
    · rfl
    · exact ih

theorem Ascending.nodup_keys {entries : List (String × α)} (h : Ascending entries) :
    (entries.map (·.1)).Nodup := by
  rw [List.Nodup, List.pairwise_map]
  exact h.imp fun hlt => String.ne_of_lt hlt

theorem Ascending.mem_iff_get? {entries : List (String × α)} (h : Ascending entries)
    {entry : String × α} : entry ∈ entries ↔ get? entry.1 entries = some entry.2 :=
  ⟨get?_of_mem h.nodup_keys, mem_of_get?⟩

theorem Ascending.ext {xs ys : List (String × α)} (hx : Ascending xs) (hy : Ascending ys)
    (h : ∀ key, get? key xs = get? key ys) : xs = ys := by
  have hanti : Std.Antisymm fun x y : String × α => x.1 < y.1 :=
    ⟨fun _ _ hxy hyx => absurd hyx (String.lt_asymm hxy)⟩
  have hirrefl : Std.Irrefl fun x y : String × α => x.1 < y.1 :=
    ⟨fun _ => String.lt_irrefl _⟩
  apply List.Pairwise.eq_of_mem_iff hx hy
  intro entry
  rw [hx.mem_iff_get?, hy.mem_iff_get?, h]

/-- Entries with different keys that are put into a table one after the other are all found
there.  The table that has been built stands beside the entries that are still to come. -/
theorem get?_foldl_insert {entries : List (String × α)}
    (hnodup : (entries.map (·.1)).Nodup) (key : String) (table : List (String × α)) :
    get? key (entries.foldl (fun table entry => insert entry.1 entry.2 table) table) =
      (get? key entries <|> get? key table) := by
  induction entries generalizing table with
  | nil => rfl
  | cons entry rest ih =>
    rw [List.map_cons, List.nodup_cons] at hnodup
    rw [List.foldl_cons, ih hnodup.2, get?_insert, get?]
    by_cases hkey : key = entry.1
    · subst hkey
      simp [get?_eq_none hnodup.1]
    · simp [hkey, Ne.symm hkey]

theorem Ascending.foldl_insert {table : List (String × α)} (h : Ascending table)
    (entries : List (String × α)) :
    Ascending (entries.foldl (fun table entry => Table.insert entry.1 entry.2 table) table) := by
  induction entries generalizing table with
  | nil => exact h
  | cons entry rest ih => exact ih (h.insert entry.1 entry.2)

/-- Of entries with different keys, none replaces another. -/
theorem get?_ofList {entries : List (String × α)}
    (hnodup : (entries.map (·.1)).Nodup) (key : String) :
    get? key (ofList entries) = get? key entries := by
  change get? key (entries.foldl (fun table entry => insert entry.1 entry.2 table) []) = _
  rw [get?_foldl_insert hnodup]
  simp

end ControlPlane.Table

namespace ControlPlane.Json.Value

/-- The entries of an object that is made of optional fields. -/
def present (fields : List (String × Option Value)) : List (String × Value) :=
  fields.filterMap fun (name, value?) => value?.map (name, ·)

theorem ofFields_eq (fields : List (String × Option Value)) :
    ofFields fields = object (Table.ofList (present fields)) := rfl

theorem get?_present {fields : List (String × Option Value)}
    (hnodup : (fields.map (·.1)).Nodup) (name : String) :
    Table.get? name (present fields) = (Table.get? name fields).join := by
  induction fields with
  | nil => rfl
  | cons field rest ih =>
    obtain ⟨first, value?⟩ := field
    rw [List.map_cons, List.nodup_cons] at hnodup
    have ih := ih hnodup.2
    rw [Table.get?]
    by_cases heq : first = name
    · subst heq
      cases value? with
      | some value => simp [present, Table.get?]
      | none =>
        rw [Table.get?_eq_none hnodup.1] at ih
        simpa [present] using ih
    · rw [if_neg heq, ← ih]
      cases value? with
      | some value => simp [present, Table.get?, heq]
      | none => simp [present]

theorem present_keys_nodup {fields : List (String × Option Value)}
    (hnodup : (fields.map (·.1)).Nodup) : ((present fields).map (·.1)).Nodup := by
  refine hnodup.sublist ?_
  induction fields with
  | nil => exact List.Sublist.refl _
  | cons field rest ih =>
    obtain ⟨name, value?⟩ := field
    rw [List.map_cons, List.nodup_cons] at hnodup
    cases value? with
    | some value => simpa [present] using ih hnodup.2
    | none => simpa [present] using (ih hnodup.2).cons name

/-- An object of optional fields holds under each name what the field is set to. -/
theorem get?_ofFields {fields : List (String × Option Value)}
    (hnodup : (fields.map (·.1)).Nodup) (name : String) :
    Table.get? name (Table.ofList (present fields)) = (Table.get? name fields).join := by
  rw [Table.get?_ofList (present_keys_nodup hnodup), get?_present hnodup]

theorem field_ofFields {fields : List (String × Option Value)}
    (hnodup : (fields.map (·.1)).Nodup) (name : String) :
    (ofFields fields).field name = (Table.get? name fields).join.getD null := by
  rw [ofFields_eq, field, get?_ofFields hnodup]

/-- A table that holds under each name what a field is set to is the object of the fields. -/
theorem object_eq_ofFields {members : List (String × Value)}
    {fields : List (String × Option Value)} (hmembers : Table.Ascending members)
    (hnodup : (fields.map (·.1)).Nodup)
    (h : ∀ name, Table.get? name members = (Table.get? name fields).join) :
    object members = ofFields fields := by
  rw [ofFields_eq]
  congr 1
  apply hmembers.ext (Table.ascending_ofList _)
  intro name
  rw [h, get?_ofFields hnodup]

end ControlPlane.Json.Value
