import ControlPlane.Json.Decode
import ControlPlane.Proofs.Json.Objects

/-!
# Reading records back

`Fields.Reads` says that the members of an object stand for a value of a
record type.  It follows the way fields are put together, so reading back a
whole record is one step for each of its fields, and it depends on a table
only through what is found under the names of the fields.
-/

namespace ControlPlane.Json

variable {α β : Type}

namespace Value

/-- What is found under the name of a field: what it is set to, and where it is unset nothing or
null. -/
def HasField (members : List (String × Value)) (name : String) (value? : Option Value) : Prop :=
  Table.get? name members = value? ∨ value? = none ∧ Table.get? name members = some .null

/-- The members of an object hold the fields of a record, and there may be others. -/
structure StoredIn (fields : List (String × Option Value)) (members : List (String × Value)) :
    Prop where
  ascending : Table.Ascending members
  hasField : ∀ entry ∈ fields, HasField members entry.1 entry.2

variable {fields : List (String × Option Value)} {members : List (String × Value)}

theorem HasField.get?_eq_some {name : String} {found : Value}
    (h : HasField members name (some found)) : Table.get? name members = some found :=
  h.resolve_right fun hunset => nomatch hunset.1

theorem HasField.eq_none_of_map {name : String} {value? : Option α} {encode : α → Value}
    (h : HasField members name (value?.map encode)) (hmissing : Table.get? name members = none) :
    value? = none := by
  rcases h with hget | ⟨hunset, -⟩
  · exact Option.map_eq_none_iff.mp (hget.symm.trans hmissing)
  · exact Option.map_eq_none_iff.mp hunset

/-- An object is written with the fields it is made of. -/
theorem storedIn_ofFields (hnodup : (fields.map (·.1)).Nodup) :
    StoredIn fields (Table.ofList (present fields)) where
  ascending := Table.ascending_ofList _
  hasField := by
    intro entry hentry
    rw [HasField, get?_ofFields hnodup, Table.get?_of_mem hnodup hentry]
    exact .inl rfl

end Value

namespace Decoder

theorem optional_eq_some {decode : Decoder α} {found : Value} {a : α}
    (hnull : found ≠ .null) (h : decode found = .ok a) :
    Decoder.optional decode found = .ok (some a) := by
  rw [Decoder.optional, h]
  · rfl
  · exact hnull

theorem sequence_map (encode : α → Value) {decode : Decoder α}
    (h : ∀ a, decode (encode a) = .ok a) (items : List α) :
    Decoder.sequence decode (.array (items.map encode)) = .ok items := by
  rw [Decoder.sequence]
  induction items with
  | nil => rfl
  | cons first rest ih =>
    rw [List.map_cons, List.mapM_cons, h first, ih]
    rfl

theorem sequence_strings (texts : List String) :
    Decoder.sequence Decoder.string (.strings texts) = .ok texts :=
  sequence_map .string (fun _ => rfl) texts

theorem word_word (number : UInt64) : Decoder.word (.word number) = .ok number := by
  have hlt : (number.toNat : Int) < UInt64.size := by exact_mod_cast number.toNat_lt_size
  rw [Value.word, Value.natural, Decoder.word, if_pos ⟨Int.natCast_nonneg _, hlt⟩,
    Int.toNat_natCast, UInt64.ofNat_toNat]

theorem keyword_word [Keyword α] (a : α) :
    (Decoder.keyword (.string (Keyword.word a)) : Except DecodeError α) = .ok a := by
  simp [Decoder.keyword, Decoder.choice, bind, Except.bind, pure, Except.pure]

end Decoder

namespace Fields

/-- The members of an object that are well-formed fields and stand for a value. -/
structure Reads (fields : Fields α) (members : List (String × Value)) (a : α) : Prop where
  /-- Every member that is a field passes its check. -/
  passes : ∀ name check, (name, check) ∈ fields.checks →
    ∀ found, Table.get? name members = some found → check found = .ok ()
  /-- The fields have the value. -/
  read_eq : fields.read members = .ok a

variable {fields : Fields α} {members : List (String × Value)}

theorem checkMembers_eq_ok
    (h : ∀ entry ∈ members, ∀ check, Table.get? entry.1 fields.checks = some check →
      check entry.2 = .ok ()) :
    fields.checkMembers members = .ok () := by
  induction members with
  | nil => rfl
  | cons first rest ih =>
    have hfirst := h first List.mem_cons_self
    have hrest := ih fun entry hmem => h entry (List.mem_cons_of_mem _ hmem)
    rw [checkMembers] at hrest ⊢
    rw [List.forM_eq_forM, List.forM_cons, ← List.forM_eq_forM, hrest]
    cases hget : Table.get? first.1 fields.checks with
    | none => simp only [hget, bind, Except.bind]
    | some check => simp only [hget, hfirst check hget, bind, Except.bind]

theorem Reads.decodeMembers_eq {a : α} (h : fields.Reads members a)
    (hascending : Table.Ascending members) : fields.decodeMembers members = .ok a := by
  have hchecks : fields.checkMembers members = .ok () := by
    apply checkMembers_eq_ok
    intro entry hentry check hcheck
    exact h.passes entry.1 check (Table.mem_of_get? hcheck) entry.2
      (hascending.mem_iff_get?.mp hentry)
  rw [decodeMembers, hchecks]
  exact h.read_eq

theorem Reads.seq {f : Fields (α → β)} {x : Fields α} {g : α → β} {a : α}
    (hf : f.Reads members g) (hx : x.Reads members a) :
    (f <*> x).Reads members (g a) where
  passes name check hmem := by
    rcases List.mem_append.mp hmem with hmem | hmem
    · exact hf.passes name check hmem
    · exact hx.passes name check hmem
  read_eq := by
    change (f.read members >>= fun g => x.read members >>= fun a => pure (g a)) = _
    rw [hf.read_eq, hx.read_eq]
    rfl

theorem Reads.map {x : Fields α} {a : α} (hx : x.Reads members a) (g : α → β) :
    (g <$> x).Reads members (g a) :=
  Reads.seq (f := pure g) ⟨fun _ _ hmem => absurd hmem List.not_mem_nil, rfl⟩ hx

theorem reads_required {name : String} (decode : Decoder α) {found : Value} {a : α}
    (hfield : Value.HasField members name (some found)) (hdecode : decode found = .ok a) :
    (required name decode).Reads members a where
  passes := by
    intro other check hmem value hvalue
    obtain ⟨rfl, rfl⟩ := Prod.mk.inj (List.mem_singleton.mp hmem)
    obtain rfl : found = value := Option.some.inj (hfield.get?_eq_some.symm.trans hvalue)
    simp only [hdecode, Except.map]
  read_eq := by
    simp only [required, hfield.get?_eq_some, hdecode]

/-- An optional field is read back, whether it is set, left out or null. -/
theorem reads_optional {name : String} (decode : Decoder α) (encode : α → Value)
    {value? : Option α} (hfield : Value.HasField members name (value?.map encode))
    (hnull : ∀ a, encode a ≠ .null) (hdecode : ∀ a, decode (encode a) = .ok a) :
    (optional name decode).Reads members value? := by
  have hchecks : ∀ found, Table.get? name members = some found →
      Decoder.optional decode found = .ok value? := by
    intro found hfound
    rcases hfield with hget | ⟨hunset, hget⟩
    · obtain ⟨a, rfl, rfl⟩ := Option.map_eq_some_iff.mp (hget.symm.trans hfound)
      exact Decoder.optional_eq_some (hnull a) (hdecode a)
    · obtain rfl := Option.map_eq_none_iff.mp hunset
      obtain rfl : .null = found := Option.some.inj (hget.symm.trans hfound)
      rfl
  constructor
  · intro other check hmem found hfound
    obtain ⟨rfl, rfl⟩ := Prod.mk.inj (List.mem_singleton.mp hmem)
    simp only [hchecks found hfound, Except.map]
  · cases hget : Table.get? name members with
    | none =>
      obtain rfl : value? = none := hfield.eq_none_of_map hget
      simp only [optional, withDefault, hget]
    | some found =>
      simp only [optional, withDefault, hget]
      exact hchecks found hget

/-- Two flattened records are read back from an object that holds the fields of both. -/
theorem Reads.flattened_eq {γ : Type} {inner : Fields β} {a : α} {b : β}
    (hown : fields.Reads members a) (hinner : inner.Reads members b)
    (hascending : Table.Ascending members) (what : String) (combine : α → β → γ) :
    fields.flattened what inner combine (.object members) = .ok (combine a b) := by
  rw [flattened, hown.decodeMembers_eq hascending, hinner.decodeMembers_eq hascending]
  rfl

end Fields

end ControlPlane.Json
