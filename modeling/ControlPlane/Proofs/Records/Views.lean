import ControlPlane.Proofs.Records.Holding

/-!
# What can be read from a store

The machine, the containers and the state servers that a store has are what
its documents decode to.  In a store that holds records these are the records,
so that nothing is lost by reading.
-/

namespace ControlPlane

open Json

namespace Store

/-- The record that a document decodes to. -/
def record? {α : Type} (store : Store) (decode : Decoder α) (collection id : String) : Option α :=
  (store.get? collection id).bind fun document => (decode document).toOption

/-- The machine with an id. -/
def machine? (store : Store) (id : String) : Option Machine :=
  store.record? Machine.decode Layout.machines id

/-- The containers on a machine. -/
def children? (store : Store) (id : String) : Option (List String) :=
  (store.record? ContainerRef.decode Layout.containerRefs id).map (·.children)

/-- The state servers. -/
def servers? (store : Store) : Option StateServers :=
  (store.record? StateServersRecord.decode Layout.stateServers Layout.environmentKey).map
    (·.servers)

variable {store : Store} {records : Records}

theorem record?_eq_some_iff {α : Type} {decode : Decoder α} {collection id : String} {record : α} :
    store.record? decode collection id = some record ↔
      ∃ document, store.get? collection id = some document ∧ decode document = .ok record := by
  have htoOption : ∀ document, (decode document).toOption = some record ↔
      decode document = .ok record := by
    intro document
    cases decode document with
    | ok found => exact ⟨fun h => congrArg Except.ok (Option.some.inj h), fun h => by cases h; rfl⟩
    | error complaint => exact ⟨nofun, nofun⟩
  simp only [record?, Option.bind_eq_some_iff, htoOption]

theorem record?_eq_map {α β : Type} {decode : Decoder α} {collection id : String}
    {source? : Option β} {encode : β → Value} {view : β → α}
    (hget : store.get? collection id = source?.map encode)
    (hdecode : ∀ b, decode (encode b) = .ok (view b)) :
    store.record? decode collection id = source?.map view := by
  rw [record?, hget]
  cases source? with
  | none => rfl
  | some b =>
    change (decode (encode b)).toOption = _
    rw [hdecode]
    rfl

theorem servers?_of_get? {servers? : Option StateServers}
    (hget : store.get? Layout.stateServers Layout.environmentKey = servers?.map fun servers =>
      StateServersRecord.toValue { id := Layout.environmentKey, servers }) :
    store.servers? = servers? := by
  rw [Store.servers?, record?_eq_map hget fun servers =>
    StateServersRecord.decode_toValue { id := Layout.environmentKey, servers }, Option.map_map]
  exact Option.map_id' ..

namespace Holds

theorem machine?_eq (h : store.Holds records) (id : String) :
    store.machine? id = records.machine? id := by
  rw [machine?, record?_eq_map (h.machine id) Machine.decode_toValue]
  exact Option.map_id' ..

theorem children?_eq (h : store.Holds records) (id : String) :
    store.children? id = records.children? id := by
  rw [children?, record?_eq_map (h.children id) fun children =>
    ContainerRef.decode_toValue { id, children }, Option.map_map]
  exact Option.map_id' ..

theorem servers?_eq (h : store.Holds records) : store.servers? = records.servers? :=
  servers?_of_get? h.servers

/-- Every document of a machine is that of the machine. -/
theorem exists_machine (h : store.Holds records) {id : String} {document : Value}
    (hget : store.get? Layout.machines id = some document) :
    ∃ machine, records.machine? id = some machine ∧ machine.id = id ∧
      Machine.decode document = .ok machine := by
  rw [h.machine] at hget
  obtain ⟨machine, hmachine, rfl⟩ := Option.map_eq_some_iff.mp hget
  exact ⟨machine, hmachine, h.machine_id id machine hmachine, machine.decode_toValue⟩

/-- The machines that documents decode to are those of the records. -/
theorem exists_decoded_iff (h : store.Holds records) {id : String} {test : Machine → Prop} :
    (∃ document machine, store.get? Layout.machines id = some document ∧
        Machine.decode document = .ok machine ∧ test machine) ↔
      ∃ machine, records.machine? id = some machine ∧ test machine := by
  constructor
  · rintro ⟨document, machine, hget, hdecode, htest⟩
    obtain ⟨found, hfound, -, hdecoded⟩ := h.exists_machine hget
    obtain rfl : found = machine := Except.ok.inj (hdecoded.symm.trans hdecode)
    exact ⟨found, hfound, htest⟩
  · rintro ⟨machine, hmachine, htest⟩
    refine ⟨machine.toValue, machine, ?_, machine.decode_toValue, htest⟩
    rw [h.machine, hmachine]
    rfl

/-- Every list of containers names its host. -/
theorem exists_children (h : store.Holds records) {id : String} {document : Value}
    (hget : store.get? Layout.containerRefs id = some document) :
    ∃ children, records.children? id = some children ∧
      ContainerRef.decode document = .ok { id, children } := by
  rw [h.children] at hget
  obtain ⟨children, hchildren, rfl⟩ := Option.map_eq_some_iff.mp hget
  exact ⟨children, hchildren, ContainerRef.decode_toValue { id, children }⟩

end Holds

end Store

end ControlPlane
