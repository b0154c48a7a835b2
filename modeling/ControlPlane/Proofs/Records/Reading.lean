import ControlPlane.Environment
import ControlPlane.Machine.Status
import ControlPlane.Proofs.Environment.Uuid
import ControlPlane.Proofs.Json.Reading
import ControlPlane.StateServers

/-!
# Stored records are read back

Every kind of record is read from any object that holds its fields, and in
particular from the document that is written for it.  The fields of a record
have different names, also where two records are flattened into one.
-/

namespace ControlPlane

open Json

variable {members : List (String × Value)}

namespace Address

theorem toFields_nodup (address : Address) : (address.toFields.map (·.1)).Nodup := by
  change List.Nodup ["value", "kind", "scope"]
  decide

theorem decode_toValue (address : Address) : decode address.toValue = .ok address := by
  have hstored := Value.storedIn_ofFields address.toFields_nodup
  have hfields := hstored.hasField
  simp only [toFields, List.forall_mem_cons] at hfields
  obtain ⟨hvalue, hkind, hscope, -⟩ := hfields
  have hvalue := Fields.reads_required Decoder.string hvalue rfl
  have hkind := Fields.reads_required _ hkind (Decoder.keyword_word address.kind)
  have hscope := Fields.reads_required _ hscope (Decoder.keyword_word address.scope)
  exact ((hvalue.map Address.mk).seq hkind |>.seq hscope).decodeMembers_eq hstored.ascending

end Address

namespace Machine

theorem toFields_nodup (machine : Machine) : (machine.toFields.map (·.1)).Nodup := by
  change List.Nodup ["_id", "series", "container_type", "principals", "life", "jobs", "no_vote",
    "clean", "instance_id", "nonce", "addresses", "supported_containers_known",
    "supported_containers"]
  decide

theorem decode_eq {machine : Machine} (hstored : Value.StoredIn machine.toFields members) :
    decode (.object members) = .ok machine := by
  have hfields := hstored.hasField
  simp only [toFields, List.forall_mem_cons] at hfields
  obtain ⟨hid, hseries, hcontainer, hprincipals, hlife, hjobs, hvote, hclean, hinstance, hnonce,
    haddresses, hknown, hsupported, -⟩ := hfields
  have hid := Fields.reads_required Decoder.string hid rfl
  have hseries := Fields.reads_required Decoder.string hseries rfl
  have hcontainer := Fields.reads_optional _ ContainerType.toValue hcontainer nofun
    Decoder.keyword_word
  have hprincipals := Fields.reads_required _ hprincipals
    (Decoder.sequence_strings machine.principals)
  have hlife := Fields.reads_required _ hlife (Decoder.keyword_word machine.life)
  have hjobs := Fields.reads_required _ hjobs
    (Decoder.sequence_map Job.toValue Decoder.keyword_word machine.jobs)
  have hvote := Fields.reads_required Decoder.boolean hvote rfl
  have hclean := Fields.reads_required Decoder.boolean hclean rfl
  have hinstance := Fields.reads_optional InstanceId.decode InstanceId.toValue hinstance nofun
    fun _ => rfl
  have hnonce := Fields.reads_optional Decoder.string Value.string hnonce nofun fun _ => rfl
  have haddresses := Fields.reads_required _ haddresses
    (Decoder.sequence_map Address.toValue Address.decode_toValue machine.addresses)
  have hknown := Fields.reads_required Decoder.boolean hknown rfl
  have hsupported := Fields.reads_required _ hsupported
    (Decoder.sequence_map ContainerType.toValue Decoder.keyword_word machine.supportedContainers)
  have hreads := (hid.map Machine.mk).seq hseries |>.seq hcontainer |>.seq hprincipals
    |>.seq hlife |>.seq hjobs |>.seq hvote |>.seq hclean |>.seq hinstance |>.seq hnonce
    |>.seq haddresses |>.seq hknown |>.seq hsupported
  exact hreads.decodeMembers_eq hstored.ascending

theorem decode_toValue (machine : Machine) : decode machine.toValue = .ok machine :=
  decode_eq (Value.storedIn_ofFields machine.toFields_nodup)

end Machine

namespace ContainerRef

theorem toFields_nodup (ref : ContainerRef) : (ref.toFields.map (·.1)).Nodup := by
  change List.Nodup ["_id", "children"]
  decide

theorem decode_eq {ref : ContainerRef} (hstored : Value.StoredIn ref.toFields members) :
    decode (.object members) = .ok ref := by
  have hfields := hstored.hasField
  simp only [toFields, List.forall_mem_cons] at hfields
  obtain ⟨hid, hchildren, -⟩ := hfields
  have hid := Fields.reads_required Decoder.string hid rfl
  have hchildren := Fields.reads_required _ hchildren (Decoder.sequence_strings ref.children)
  exact ((hid.map ContainerRef.mk).seq hchildren).decodeMembers_eq hstored.ascending

theorem decode_toValue (ref : ContainerRef) : decode ref.toValue = .ok ref :=
  decode_eq (Value.storedIn_ofFields ref.toFields_nodup)

end ContainerRef

namespace StatusRecord

/-- The stored fields. -/
def toFields (record : StatusRecord) : List (String × Option Value) :=
  [("status", some (.string record.status.word)), ("info", some (.string record.info))]

theorem toFields_nodup (record : StatusRecord) : (record.toFields.map (·.1)).Nodup := by
  change List.Nodup ["status", "info"]
  decide

theorem decode_eq {record : StatusRecord} (hstored : Value.StoredIn record.toFields members) :
    decode (.object members) = .ok record := by
  have hfields := hstored.hasField
  simp only [toFields, List.forall_mem_cons] at hfields
  obtain ⟨hstatus, hinfo, -⟩ := hfields
  have hstatus := Fields.reads_required _ hstatus (Decoder.keyword_word record.status)
  have hinfo := Fields.reads_required Decoder.string hinfo rfl
  exact ((hstatus.map StatusRecord.mk).seq hinfo).decodeMembers_eq hstored.ascending

theorem decode_toValue (record : StatusRecord) : decode record.toValue = .ok record :=
  decode_eq (Value.storedIn_ofFields record.toFields_nodup)

end StatusRecord

namespace StateServersRecord

theorem toFields_nodup (record : StateServersRecord) : (record.toFields.map (·.1)).Nodup := by
  change List.Nodup ["_id", "machine_ids", "voting_machine_ids"]
  decide

theorem decode_eq {record : StateServersRecord}
    (hstored : Value.StoredIn record.toFields members) :
    decode (.object members) = .ok record := by
  have hfields := hstored.hasField
  simp only [toFields, StateServers.toFields, List.forall_mem_cons] at hfields
  obtain ⟨hid, hmachines, hvoting, -⟩ := hfields
  have hid := Fields.reads_required Decoder.string hid rfl
  have hmachines := Fields.reads_required _ hmachines
    (Decoder.sequence_strings record.servers.machineIds)
  have hvoting := Fields.reads_required _ hvoting
    (Decoder.sequence_strings record.servers.votingMachineIds)
  have hservers := (hmachines.map StateServers.mk).seq hvoting
  exact hid.flattened_eq hservers hstored.ascending _ _

theorem decode_toValue (record : StateServersRecord) : decode record.toValue = .ok record :=
  decode_eq (Value.storedIn_ofFields record.toFields_nodup)

end StateServersRecord

namespace Constraints

theorem toFields_nodup (constraints : Constraints) : (constraints.toFields.map (·.1)).Nodup := by
  change List.Nodup ["arch", "container", "cpu_cores", "cpu_power", "mem", "root_disk", "tags"]
  decide

theorem decode_eq {constraints : Constraints}
    (hstored : Value.StoredIn constraints.toFields members) :
    decode (.object members) = .ok constraints := by
  have hfields := hstored.hasField
  simp only [toFields, List.forall_mem_cons] at hfields
  obtain ⟨harch, hcontainer, hcores, hpower, hmem, hdisk, htags, -⟩ := hfields
  have harch := Fields.reads_optional Decoder.string Value.string harch nofun fun _ => rfl
  have hcontainer := Fields.reads_optional _ ContainerType.toValue hcontainer nofun
    Decoder.keyword_word
  have hcores := Fields.reads_optional _ Value.word hcores nofun Decoder.word_word
  have hpower := Fields.reads_optional _ Value.word hpower nofun Decoder.word_word
  have hmem := Fields.reads_optional _ Value.word hmem nofun Decoder.word_word
  have hdisk := Fields.reads_optional _ Value.word hdisk nofun Decoder.word_word
  have htags := Fields.reads_optional _ Value.strings htags nofun Decoder.sequence_strings
  have hreads := (harch.map Constraints.mk).seq hcontainer |>.seq hcores |>.seq hpower
    |>.seq hmem |>.seq hdisk |>.seq htags
  exact hreads.decodeMembers_eq hstored.ascending

theorem decode_toValue (constraints : Constraints) :
    decode constraints.toValue = .ok constraints :=
  decode_eq (Value.storedIn_ofFields constraints.toFields_nodup)

end Constraints

namespace InstanceData

/-- The stored fields, with those of the hardware beside the others. -/
def toFields (data : InstanceData) : List (String × Option Value) :=
  [("_id", some (.string data.machineId)), ("instance_id", some data.instanceId.toValue)] ++
    data.hardware.toFields

theorem toFields_nodup (data : InstanceData) : (data.toFields.map (·.1)).Nodup := by
  change List.Nodup ["_id", "instance_id", "arch", "mem", "root_disk", "cpu_cores", "cpu_power",
    "tags"]
  decide

theorem decode_eq {data : InstanceData} (hstored : Value.StoredIn data.toFields members) :
    decode (.object members) = .ok data := by
  have hfields := hstored.hasField
  simp only [toFields, Hardware.toFields, List.cons_append, List.nil_append,
    List.forall_mem_cons] at hfields
  obtain ⟨hid, hinstance, harch, hmem, hdisk, hcores, hpower, htags, -⟩ := hfields
  have hid := Fields.reads_required Decoder.string hid rfl
  have hinstance := Fields.reads_required InstanceId.decode hinstance rfl
  have harch := Fields.reads_optional Decoder.string Value.string harch nofun fun _ => rfl
  have hmem := Fields.reads_optional _ Value.word hmem nofun Decoder.word_word
  have hdisk := Fields.reads_optional _ Value.word hdisk nofun Decoder.word_word
  have hcores := Fields.reads_optional _ Value.word hcores nofun Decoder.word_word
  have hpower := Fields.reads_optional _ Value.word hpower nofun Decoder.word_word
  have htags := Fields.reads_optional _ Value.strings htags nofun Decoder.sequence_strings
  have hhardware := (harch.map Hardware.mk).seq hmem |>.seq hdisk |>.seq hcores |>.seq hpower
    |>.seq htags
  exact ((hid.map Prod.mk).seq hinstance).flattened_eq hhardware hstored.ascending _ _

theorem decode_toValue (data : InstanceData) : decode data.toValue = .ok data :=
  decode_eq (Value.storedIn_ofFields data.toFields_nodup)

end InstanceData

namespace Environment

/-- The stored fields. -/
def toFields (environment : Environment) : List (String × Option Value) :=
  [("_id", some (.string environment.id)), ("uuid", some (.string environment.uuid.render)),
    ("life", some environment.life.toValue)]

theorem decodeUuid_render (uuid : Uuid) : decodeUuid (.string uuid.render) = .ok uuid := by
  rw [decodeUuid, uuid.parse?_render]

theorem toFields_nodup (environment : Environment) : (environment.toFields.map (·.1)).Nodup := by
  change List.Nodup ["_id", "uuid", "life"]
  decide

theorem decode_eq {environment : Environment}
    (hstored : Value.StoredIn environment.toFields members) :
    decode (.object members) = .ok environment := by
  have hfields := hstored.hasField
  simp only [toFields, List.forall_mem_cons] at hfields
  obtain ⟨hid, huuid, hlife, -⟩ := hfields
  have hid := Fields.reads_required Decoder.string hid rfl
  have huuid := Fields.reads_required decodeUuid huuid (decodeUuid_render environment.uuid)
  have hlife := Fields.reads_required _ hlife (Decoder.keyword_word environment.life)
  exact ((hid.map Environment.mk).seq huuid |>.seq hlife).decodeMembers_eq hstored.ascending

theorem decode_toValue (environment : Environment) :
    decode environment.toValue = .ok environment :=
  decode_eq (Value.storedIn_ofFields environment.toFields_nodup)

end Environment

end ControlPlane
