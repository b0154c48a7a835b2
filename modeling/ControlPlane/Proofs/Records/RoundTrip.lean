import ControlPlane.Proofs.Records.Reading

/-!
# Records that have been added to

A document may hold more than was written for its record: keys that the record
does not have, and null for a field that is unset.  Both may be put in any
number of times, and the document is still read as the record that was written.
-/

namespace ControlPlane

open Json

/-- The objects that come about when keys that no field has and unset fields that are null are
added to the object of the given fields. -/
inductive Json.Value.Amended (fields : List (String × Option Value)) :
    List (String × Value) → Prop where
  | written {members : List (String × Value)} (h : Value.ofFields fields = .object members) :
      Amended fields members
  | unknown {members : List (String × Value)} (h : Amended fields members) (key : String)
      (hkey : key ∉ fields.map (·.1)) (found : Value) :
      Amended fields (Table.insert key found members)
  | unset {members : List (String × Value)} (h : Amended fields members) (name : String)
      (hunset : (name, none) ∈ fields) :
      Amended fields (Table.insert name .null members)

namespace Json.Value

variable {fields : List (String × Option Value)} {members : List (String × Value)}

/-- A key that no field has makes no difference to the fields. -/
theorem StoredIn.insert_unknown (h : StoredIn fields members) {key : String}
    (hkey : key ∉ fields.map (·.1)) (found : Value) :
    StoredIn fields (Table.insert key found members) where
  ascending := h.ascending.insert key found
  hasField := by
    intro entry hentry
    have hne : entry.1 ≠ key := by
      rintro rfl
      exact hkey (List.mem_map_of_mem hentry)
    rw [HasField, Table.get?_insert, if_neg hne]
    exact h.hasField entry hentry

/-- A field that is unset may be null. -/
theorem StoredIn.insert_unset (h : StoredIn fields members)
    (hnodup : (fields.map (·.1)).Nodup) {name : String} (hunset : (name, none) ∈ fields) :
    StoredIn fields (Table.insert name .null members) where
  ascending := h.ascending.insert name .null
  hasField := by
    intro entry hentry
    rw [HasField, Table.get?_insert]
    by_cases heq : entry.1 = name
    · have hvalue : entry.2 = none := by
        have hget := Table.get?_of_mem hnodup hentry
        rw [heq, Table.get?_of_mem hnodup hunset] at hget
        exact (Option.some.inj hget).symm
      rw [if_pos heq]
      exact .inr ⟨hvalue, rfl⟩
    · rw [if_neg heq]
      exact h.hasField entry hentry

theorem Amended.storedIn (h : Amended fields members) (hnodup : (fields.map (·.1)).Nodup) :
    StoredIn fields members := by
  induction h with
  | written hwritten =>
    rw [ofFields_eq] at hwritten
    obtain rfl := Value.object.inj hwritten
    exact storedIn_ofFields hnodup
  | unknown h key hkey found ih => exact ih.insert_unknown hkey found
  | unset h name hunset ih => exact ih.insert_unset hnodup hunset

end Json.Value

/-- The records of a type are written as objects of their fields, and each is read back from its
object and from every object that is amended. -/
structure RoundTrips {α : Type} (toFields : α → List (String × Option Value)) (toValue : α → Value)
    (decode : Decoder α) : Prop where
  toValue_eq : ∀ record, toValue record = .ofFields (toFields record)
  decode_toValue : ∀ record, decode (toValue record) = .ok record
  decode_amended : ∀ record members, Value.Amended (toFields record) members →
    decode (.object members) = .ok record

theorem RoundTrips.of_decode_eq {α : Type} {toFields : α → List (String × Option Value)}
    {toValue : α → Value} {decode : Decoder α}
    (hvalue : ∀ record, toValue record = .ofFields (toFields record))
    (hnodup : ∀ record, ((toFields record).map (·.1)).Nodup)
    (hdecode : ∀ {members record}, Value.StoredIn (toFields record) members →
      decode (.object members) = .ok record) :
    RoundTrips toFields toValue decode where
  toValue_eq := hvalue
  decode_toValue := by
    intro record
    rw [hvalue]
    exact hdecode (Value.storedIn_ofFields (hnodup record))
  decode_amended := by
    intro record members hamended
    exact hdecode (hamended.storedIn (hnodup record))

/-- Every record that is stored is read back as it was, whatever keys the document has beside those
of the record and wherever an unset field is null. -/
theorem records_round_trip :
    RoundTrips Machine.toFields Machine.toValue Machine.decode ∧
      RoundTrips ContainerRef.toFields ContainerRef.toValue ContainerRef.decode ∧
      RoundTrips StatusRecord.toFields StatusRecord.toValue StatusRecord.decode ∧
      RoundTrips Constraints.toFields Constraints.toValue Constraints.decode ∧
      RoundTrips InstanceData.toFields InstanceData.toValue InstanceData.decode ∧
      RoundTrips StateServersRecord.toFields StateServersRecord.toValue
        StateServersRecord.decode ∧
      RoundTrips Environment.toFields Environment.toValue Environment.decode := by
  refine ⟨?_, ?_, ?_, ?_, ?_, ?_, ?_⟩
  · exact .of_decode_eq (fun _ => rfl) Machine.toFields_nodup Machine.decode_eq
  · exact .of_decode_eq (fun _ => rfl) ContainerRef.toFields_nodup ContainerRef.decode_eq
  · exact .of_decode_eq (fun _ => rfl) StatusRecord.toFields_nodup StatusRecord.decode_eq
  · exact .of_decode_eq (fun _ => rfl) Constraints.toFields_nodup Constraints.decode_eq
  · exact .of_decode_eq (fun _ => rfl) InstanceData.toFields_nodup InstanceData.decode_eq
  · exact .of_decode_eq (fun _ => rfl) StateServersRecord.toFields_nodup
      StateServersRecord.decode_eq
  · exact .of_decode_eq (fun _ => rfl) Environment.toFields_nodup Environment.decode_eq

/-- An instance is read back with its hardware from a document with null for its memory and with a
key of its own. -/
theorem records_round_trip_flattened :
    InstanceData.decode (.object [("_id", .string "0"), ("cpu_cores", .word 4),
        ("instance_id", .string "i-1"), ("mem", .null), ("zone", .string "north")]) =
      .ok { machineId := "0", instanceId := ⟨"i-1"⟩, hardware := { cpuCores := some 4 } } := by
  have hinstance := records_round_trip.2.2.2.2.1
  apply hinstance.decode_amended
  have hunset : ("mem", none) ∈ InstanceData.toFields
      { machineId := "0", instanceId := ⟨"i-1"⟩, hardware := { cpuCores := some 4 } } := by
    simp [InstanceData.toFields, Hardware.toFields]
  exact .unknown (.unset (.written rfl) "mem" hunset) "zone" (by decide) (.string "north")

end ControlPlane
