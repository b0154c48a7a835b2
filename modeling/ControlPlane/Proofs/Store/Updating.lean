import ControlPlane.Proofs.Json.Objects
import ControlPlane.Store.Operation
import Mathlib.Data.List.Nodup

/-!
# Updates of stored records

An update changes what is found under one name of an object.  A record that
differs in that field only is therefore what the updated document stands for.
Strings that are added to a set are appended as long as they are new.
-/

namespace ControlPlane.Store

open Json

/-- Fields that differ from others under one name only, where they are set to a value. -/
structure Replaces (name : String) (value : Value) (fields fields' : List (String × Option Value)) :
    Prop where
  nodup : (fields.map (·.1)).Nodup
  nodup' : (fields'.map (·.1)).Nodup
  get?_eq : ∀ other, (Table.get? other fields').join =
    if other = name then some value else (Table.get? other fields).join

variable {name : String} {value : Value} {fields fields' : List (String × Option Value)}

/-- One of the fields is set to a value. -/
theorem replaces_of_nodup {value? : Option Value} (before : List (String × Option Value))
    {rest : List (String × Option Value)}
    (hnodup : ((before ++ (name, value?) :: rest).map (·.1)).Nodup) (value : Value) :
    Replaces name value (before ++ (name, value?) :: rest)
      (before ++ (name, some value) :: rest) where
  nodup := hnodup
  nodup' := by
    rw [List.map_append, List.map_cons] at hnodup ⊢
    exact hnodup
  get?_eq other := by
    rw [Table.get?_append, Table.get?_append, Table.get?, Table.get?]
    by_cases hother : other = name
    · subst hother
      have hbefore : other ∉ before.map (·.1) := by
        rw [List.map_append, List.map_cons] at hnodup
        intro hmem
        exact List.disjoint_of_nodup_append hnodup hmem List.mem_cons_self
      simp [Table.get?_eq_none hbefore]
    · simp [hother, Ne.symm hother]

theorem Replaces.object_insert (h : Replaces name value fields fields') :
    .object (Table.insert name value (Table.ofList (Value.present fields))) =
      Value.ofFields fields' := by
  apply Value.object_eq_ofFields ((Table.ascending_ofList _).insert name value) h.nodup'
  intro other
  rw [Table.get?_insert, Value.get?_ofFields h.nodup, h.get?_eq]

namespace Update

theorem apply_set_ofFields (h : Replaces name value fields fields') :
    Update.apply (.ofFields fields) (.set name value) = .ok (.ofFields fields') := by
  rw [← h.object_insert]
  rfl

theorem apply_addToSet_ofFields (items : List Value) {values : List Value}
    (hitems : (Table.get? name fields).join = some (.array items))
    (h : Replaces name (.array (union items values)) fields fields') :
    Update.apply (.ofFields fields) (.addToSet name values) = .ok (.ofFields fields') := by
  have hget : itemsOf? name (Table.ofList (Value.present fields)) = some items := by
    rw [itemsOf?, Value.get?_ofFields h.nodup, hitems]
  rw [← h.object_insert, Value.ofFields_eq, apply, onMembers, hget]
  rfl

/-- Fields that are set one after the other are put into the object one after the other. -/
theorem foldlM_set (entries members : List (String × Value)) :
    (entries.map fun entry => set entry.1 entry.2).foldlM apply (.object members) =
      .ok (.object
        (entries.foldl (fun table entry => Table.insert entry.1 entry.2 table) members)) := by
  induction entries generalizing members with
  | nil => rfl
  | cons entry rest ih => exact ih (Table.insert entry.1 entry.2 members)

end Update

theorem Effect.apply_update {document changed : Value} {updates : List Update}
    (h : updates.foldlM Update.apply document = .ok changed) :
    Effect.apply (some document) (.update updates) = .ok (some changed) := by
  rw [Effect.apply, h]

/-- A set of strings to which strings are added is a set of strings. -/
theorem exists_union_map_string (present added : List String) :
    ∃ texts : List String, union (present.map .string) (added.map .string) = texts.map .string := by
  induction added generalizing present with
  | nil => exact ⟨present, rfl⟩
  | cons first rest ih =>
    have hfirst : ∃ texts : List String,
        addNew (present.map .string) (.string first) = texts.map .string := by
      unfold addNew
      split
      · exact ⟨present, rfl⟩
      · exact ⟨present ++ [first], by rw [List.map_append]; rfl⟩
    obtain ⟨texts, htexts⟩ := hfirst
    obtain ⟨texts', hrest⟩ := ih texts
    refine ⟨texts', ?_⟩
    rw [List.map_cons, union, List.foldl_cons, htexts]
    exact hrest

/-- Strings that are different and not there yet are appended. -/
theorem union_map_string (present : List String) {added : List String} (hnodup : added.Nodup)
    (hnew : ∀ text ∈ added, text ∉ present) :
    union (present.map .string) (added.map .string) = (present ++ added).map .string := by
  induction added generalizing present with
  | nil => simp [union]
  | cons first rest ih =>
    rw [List.nodup_cons] at hnodup
    have hfirst : addNew (present.map .string) (.string first) =
        (present ++ [first]).map .string := by
      have hnot : first ∉ present := hnew first List.mem_cons_self
      have hany : (present.map Value.string).any (·.same (.string first)) = false := by
        rw [List.any_eq_false]
        intro item hitem
        obtain ⟨text, htext, rfl⟩ := List.mem_map.mp hitem
        simpa using fun heq : text = first => hnot (heq ▸ htext)
      rw [addNew, if_neg (by simp [hany]), List.map_append]
      rfl
    have hrest : union ((present ++ [first]).map .string) (rest.map .string) =
        ((present ++ [first]) ++ rest).map .string := by
      apply ih _ hnodup.2
      intro text htext hmem
      rcases List.mem_append.mp hmem with hmem | hmem
      · exact hnew text (List.mem_cons_of_mem _ htext) hmem
      · exact hnodup.1 (List.mem_singleton.mp hmem ▸ htext)
    rw [union] at hrest ⊢
    rw [List.map_cons, List.foldl_cons, hfirst, hrest, List.append_assoc]
    rfl

end ControlPlane.Store
