import ControlPlane.Machine.Inspection
import ControlPlane.Proofs.Environment.Death
import ControlPlane.Proofs.Records.Forms
import ControlPlane.Proofs.Undisturbed.Basic

/-!
# Reading a store

A procedure that only reads has the same result whatever the policy is, and
leaves the store and the policy as they are.  What is read of a machine is what
its documents say.
-/

namespace ControlPlane

open Json Store

/-- A procedure results in the given outcome, and neither changes anything nor asks a policy. -/
structure Store.Reads {α : Type} (store : Store) (procedure : Procedure α)
    (result : Except Error α) : Prop where
  perform_eq : ∀ {μ : Type} (advisor : Advisor μ) (memory : μ),
    advisor.perform procedure (store, memory) = (result, store, memory)

variable {α β : Type} {store : Store} {procedure : Procedure α} {next : α → Procedure β}
  {decode : Decoder α} {collection key : String} {document : Value} {record : α}

namespace Store.Reads

theorem pure (record : α) : store.Reads (Pure.pure record) (.ok record) :=
  ⟨fun _ _ => rfl⟩

theorem throw (error : Error) :
    store.Reads (MonadExcept.throw error : Procedure α) (.error error) :=
  ⟨fun _ _ => rfl⟩

theorem lift (result : Except Error α) : store.Reads (liftM result) result where
  perform_eq advisor _ := advisor.perform_lift result

theorem bind {result : Except Error β} (h : store.Reads procedure (.ok record))
    (hnext : store.Reads (next record) result) : store.Reads (procedure >>= next) result where
  perform_eq advisor memory := by
    rw [Advisor.perform_bind_ok (h.perform_eq advisor memory)]
    exact hnext.perform_eq advisor memory

theorem bind_error {error : Error} (h : store.Reads procedure (.error error)) :
    store.Reads (procedure >>= next) (.error error) where
  perform_eq advisor memory := Advisor.perform_bind_error (h.perform_eq advisor memory)

theorem map {f : α → β} (h : store.Reads procedure (.ok record)) :
    store.Reads (f <$> procedure) (.ok (f record)) where
  perform_eq advisor memory := Advisor.perform_map_ok (h.perform_eq advisor memory)

theorem attempt {result : Except Error α} (h : store.Reads procedure result) :
    store.Reads (Procedure.attempt procedure) (.ok result) where
  perform_eq advisor memory := by
    rw [Advisor.perform_attempt, h.perform_eq advisor memory]

/-- What is read is read one way only. -/
theorem unique {result result' : Except Error α} (h : store.Reads procedure result)
    (h' : store.Reads procedure result') : result = result' := by
  have heq := (h.perform_eq (Advisor.ofPolicy none) []).symm.trans (h'.perform_eq _ [])
  exact congrArg Prod.fst heq

end Store.Reads

namespace Procedure

theorem reads_get (store : Store) (collection key : String) :
    store.Reads (ask (.get collection key) >>= answered) (.ok (store.get? collection key)) :=
  ⟨fun _ _ => rfl⟩

theorem reads_fetch?_none (hget : store.get? collection key = none) :
    store.Reads (fetch? decode collection key) (.ok none) := by
  have hread := reads_get store collection key
  rw [hget] at hread
  unfold fetch?
  rw [← bind_assoc]
  exact hread.bind (.pure none)

theorem reads_fetch?_some (hget : store.get? collection key = some document)
    (hdecode : decode document = .ok record) :
    store.Reads (fetch? decode collection key) (.ok (some record)) := by
  have hread := reads_get store collection key
  have hdecoded : store.Reads (decoded decode document) (.ok record) := by
    unfold decoded
    rw [hdecode]
    exact .pure record
  rw [hget] at hread
  unfold fetch?
  rw [← bind_assoc]
  exact hread.bind (hdecoded.bind (.pure _))

theorem reads_fetch_none (type : ResourceType) (hget : store.get? collection key = none) :
    store.Reads (fetch decode type collection key)
      (.error (.objectNotFound type (.ofKey key))) :=
  (reads_fetch?_none hget).bind (.throw _)

theorem reads_fetch_some (type : ResourceType) (hget : store.get? collection key = some document)
    (hdecode : decode document = .ok record) :
    store.Reads (fetch decode type collection key) (.ok record) :=
  (reads_fetch?_some hget hdecode).bind (.pure _)

end Procedure

/-- What a document decodes to is read. -/
theorem Store.reads_of_record? (type : ResourceType)
    (h : store.record? decode collection key = some record) :
    store.Reads (Procedure.fetch decode type collection key) (.ok record) := by
  obtain ⟨document, hget, hdecode⟩ := record?_eq_some_iff.mp h
  exact Procedure.reads_fetch_some type hget hdecode

/-! ## The environment -/

/-- The constraints of the environment, over which those of templates are layered. -/
def Store.constraints? (store : Store) : Option Constraints :=
  store.record? Constraints.decode Layout.constraints Layout.environmentKey

theorem Store.reads_constraints {defaults : Constraints} (h : store.constraints? = some defaults) :
    store.Reads Environment.constraints (.ok defaults) :=
  reads_of_record? .constraints h

namespace Store.Governed

variable {environment : Environment}

theorem reads_fetch (h : store.Governed (some environment)) :
    store.Reads Environment.fetch (.ok environment) :=
  (Procedure.reads_fetch?_some h.document environment.decode_toValue).bind (.pure _)

theorem reads_requireAlive (h : store.Governed (some environment))
    (halive : environment.life = .alive) : store.Reads Environment.requireAlive (.ok ()) := by
  apply h.reads_fetch.bind
  rw [if_neg (by simpa using halive)]
  exact .pure _

theorem reads_requireAlive_error (h : store.Governed (some environment))
    (hdead : environment.life ≠ .alive) :
    store.Reads Environment.requireAlive (.error .environmentNotAlive) := by
  apply h.reads_fetch.bind
  rw [if_pos hdead]
  exact .throw _

/-- An environment that exists has constraints. -/
theorem exists_constraints (h : store.Governed (some environment)) (hformed : store.Formed) :
    ∃ defaults, store.constraints? = some defaults := by
  have hsome : (store.get? Layout.constraints Layout.environmentKey).isSome = true := h.constraints
  obtain ⟨document, hget⟩ := Option.isSome_iff_exists.mp hsome
  obtain ⟨defaults, members, rfl, hstored⟩ := hformed .constraints _ document hget
  exact ⟨defaults, record?_eq_some_iff.mpr ⟨_, hget, hstored.decode_eq⟩⟩

end Store.Governed

/-! ## State servers and machines -/

namespace Store.Holds

variable {records : Records}

theorem reads_servers {servers : StateServers} (h : store.Holds records)
    (hservers : records.servers? = some servers) :
    store.Reads StateServers.fetch (.ok servers) := by
  have hget := h.servers
  rw [hservers] at hget
  exact (Procedure.reads_fetch_some .stateServerInfo hget
    (StateServersRecord.decode_toValue _)).map

theorem reads_machine {machine : Machine} {id : String} (h : store.Holds records)
    (hmachine : records.machine? id = some machine) :
    store.Reads (Machine.fetch id) (.ok machine) := by
  have hget := h.machine id
  rw [hmachine] at hget
  exact Procedure.reads_fetch_some .machine hget machine.decode_toValue

theorem reads_machine_none {id : String} (h : store.Holds records)
    (hmachine : records.machine? id = none) :
    store.Reads (Machine.fetch id) (.error (.objectNotFound .machine (.ofKey id))) := by
  have hget := h.machine id
  rw [hmachine] at hget
  exact Procedure.reads_fetch_none .machine hget

theorem reads_containers {id : String} {children : List String} (h : store.Holds records)
    (hchildren : records.children? id = some children) :
    store.Reads (Machine.containers id) (.ok children) := by
  have hget := h.children id
  rw [hchildren] at hget
  exact (Procedure.reads_fetch_some .containerRef hget (ContainerRef.decode_toValue _)).map

end Store.Holds

/-- The records of a new machine as they are stored. -/
structure Store.Registers (store : Store) (machine : Machine) (constraints : Constraints)
    (hardware : Hardware) (children : List String) : Prop where
  record : store.get? Layout.machines machine.id = some machine.toValue
  constraints : store.get? Layout.constraints (Layout.machineKey machine.id) =
    some constraints.toValue
  status : store.get? Layout.statuses (Layout.machineKey machine.id) =
    some Machine.initialStatus.toValue
  instanceData : store.get? Layout.instanceData machine.id =
    machine.instanceId.map fun instanceId =>
      InstanceData.toValue { machineId := machine.id, instanceId, hardware }
  containers : store.get? Layout.containerRefs machine.id =
    some (ContainerRef.toValue { id := machine.id, children })

/-- What can be read of a new machine: itself, its constraints, its status, the containers on it,
and its instance where that is known. -/
structure Store.Tells (store : Store) (machine : Machine) (constraints : Constraints)
    (hardware : Hardware) (children : List String) : Prop where
  record : store.Reads (Machine.fetch machine.id) (.ok machine)
  constraints : store.Reads (Machine.constraints machine.id) (.ok constraints)
  status : store.Reads (Machine.status machine.id) (.ok { status := .pending, info := "" })
  containers : store.Reads (Machine.containers machine.id) (.ok children)
  instanceData : ∀ instanceId, machine.instanceId = some instanceId →
    store.Reads (Machine.instanceData machine.id)
      (.ok { machineId := machine.id, instanceId, hardware })
  noInstance : machine.instanceId = none →
    store.Reads (Machine.instanceData machine.id)
      (.error (.objectNotFound .instanceData (.ofKey machine.id)))

/-- The records of a new machine are read as they are stored. -/
theorem Store.Registers.tells {machine : Machine} {constraints : Constraints}
    {hardware : Hardware} {children : List String}
    (h : store.Registers machine constraints hardware children) :
    store.Tells machine constraints hardware children where
  record := Procedure.reads_fetch_some .machine h.record machine.decode_toValue
  constraints := Procedure.reads_fetch_some .constraints h.constraints constraints.decode_toValue
  status := Procedure.reads_fetch_some .status h.status Machine.initialStatus.decode_toValue
  containers := (Procedure.reads_fetch_some .containerRef h.containers
    (ContainerRef.decode_toValue _)).map
  instanceData instanceId hinstance := by
    have hget := h.instanceData
    rw [hinstance] at hget
    exact Procedure.reads_fetch_some .instanceData hget (InstanceData.decode_toValue _)
  noInstance hinstance := by
    have hget := h.instanceData
    rw [hinstance] at hget
    exact Procedure.reads_fetch_none .instanceData hget

end ControlPlane
