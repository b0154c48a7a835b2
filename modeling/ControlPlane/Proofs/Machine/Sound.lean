import ControlPlane.Proofs.Run.Submission
import ControlPlane.Proofs.Records.Basic

/-!
# Sound machines

A template that passes its check asks for some jobs, each of them once, and
for an instance together with a nonce or for neither.  So do the machines that
are made of it.
-/

namespace ControlPlane

/-- A machine has jobs, each of them once.  It has an instance where it has a nonce, and neither of
them is empty.  A container has no instance and is no state server. -/
structure Machine.Sound (machine : Machine) : Prop where
  jobs_ne_nil : machine.jobs ≠ []
  jobs_nodup : machine.jobs.Nodup
  paired : machine.instanceId.isSome = machine.nonce.isSome
  instance_ne_empty : ∀ instanceId, machine.instanceId = some instanceId → instanceId.text ≠ ""
  nonce_ne_empty : ∀ nonce, machine.nonce = some nonce → nonce ≠ ""
  container : machine.containerType.isSome = true →
    machine.instanceId = none ∧ Job.manageEnviron ∉ machine.jobs

theorem Machine.Sound.reporting {machine : Machine} (h : machine.Sound)
    (kinds : List ContainerType) : (machine.reporting kinds).Sound :=
  ⟨h.jobs_ne_nil, h.jobs_nodup, h.paired, h.instance_ne_empty, h.nonce_ne_empty, h.container⟩

namespace Job

theorem nodup_of_go {seen jobs : List Job} (h : firstRepeated?.go seen jobs = none) :
    jobs.Nodup ∧ ∀ job ∈ jobs, job ∉ seen := by
  induction jobs generalizing seen with
  | nil => exact ⟨List.nodup_nil, nofun⟩
  | cons job rest ih =>
    rw [firstRepeated?.go] at h
    split at h
    · cases h
    · next hseen =>
      obtain ⟨hnodup, hrest⟩ := ih h
      have hnew : job ∉ seen := by simpa using hseen
      constructor
      · exact List.nodup_cons.mpr ⟨fun hmem => hrest job hmem List.mem_cons_self, hnodup⟩
      · intro other hother
        rcases List.mem_cons.mp hother with rfl | hother
        · exact hnew
        · exact fun hmem => hrest other hother (List.mem_cons_of_mem _ hmem)

/-- Where no job is repeated all are different. -/
theorem nodup_of_firstRepeated? {jobs : List Job} (h : firstRepeated? jobs = none) : jobs.Nodup :=
  (nodup_of_go h).1

end Job

namespace Template

/-- A template that has passed its check. -/
structure Valid (template : Template) : Prop where
  jobs_ne_nil : template.jobs ≠ []
  jobs_nodup : template.jobs.Nodup
  container : template.constraints.container = none
  paired : template.knownInstance?.isSome = template.nonce.isSome
  nonce_ne_empty : ∀ nonce, template.nonce = some nonce → nonce ≠ ""

/-- A known instance has an identifier. -/
theorem text_ne_empty_of_knownInstance? {template : Template} {instanceId : InstanceId}
    (h : template.knownInstance? = some instanceId) : instanceId.text ≠ "" := by
  have hfilter := (Option.filter_eq_some_iff.mp h).2
  intro hempty
  simp [InstanceId.isEmpty, hempty] at hfilter

theorem knownInstance?_eq_none {template : Template} (h : template.instanceId = none) :
    template.knownInstance? = none := by
  rw [knownInstance?, h, Option.filter_none]

/-- Checking a template makes it valid, and makes no instance known. -/
theorem valid_of_validate {raw template : Template} {environment : Constraints} {allowed : Bool}
    (h : raw.validate environment allowed = .ok template) :
    template.Valid ∧ (raw.knownInstance? = none → template.knownInstance? = none) := by
  unfold validate at h
  simp only [bind, Except.bind, pure, Except.pure, throw, throwThe, MonadExceptOf.throw] at h
  split at h
  · cases h
  split at h
  · cases h
  next hjobs =>
  have hjobs : raw.jobs ≠ [] := by simpa using hjobs
  split at h
  · cases h
  next hrepeated =>
  have hnodup := Job.nodup_of_firstRepeated? (Option.eq_none_iff_forall_ne_some.mpr hrepeated)
  split at h
  · cases h
  -- Only where the instance and the nonce agree is there a result at all.
  split at h
  · cases h
  · cases h
  · next hknown hnonce =>
    cases h
    refine ⟨⟨hjobs, hnodup, rfl, ?_, ?_⟩, id⟩
    · obtain ⟨nonce, hsome, -⟩ := (Option.any_eq_true _ _).mp hnonce
      exact hknown.trans (by rw [hsome]; rfl)
    · intro nonce hsome hempty
      rw [hasNonce, show raw.nonce = some nonce from hsome, hempty] at hnonce
      simp at hnonce
  · cases h
    exact ⟨⟨hjobs, hnodup, rfl, rfl, nofun⟩, fun _ => knownInstance?_eq_none rfl⟩

namespace Valid

variable {template : Template}

/-- The root machine of a valid template is sound. -/
theorem sound_root (h : template.Valid) (id : String) : (template.machine id none).Sound where
  jobs_ne_nil := h.jobs_ne_nil
  jobs_nodup := h.jobs_nodup
  paired := h.paired
  instance_ne_empty _ hinstance := text_ne_empty_of_knownInstance? hinstance
  nonce_ne_empty := h.nonce_ne_empty
  container := nofun

/-- The container of a valid template is sound, if it is no state server and no instance of it is
known. -/
theorem sound_container (h : template.Valid) (hinstance : template.knownInstance? = none)
    {id : String} {kind : ContainerType}
    (hserver : (template.machine id (some kind)).isStateServer = false) :
    (template.machine id (some kind)).Sound where
  jobs_ne_nil := h.jobs_ne_nil
  jobs_nodup := h.jobs_nodup
  paired := h.paired
  instance_ne_empty _ hsome := text_ne_empty_of_knownInstance? hsome
  nonce_ne_empty := h.nonce_ne_empty
  container _ := by
    refine ⟨hinstance, ?_⟩
    intro hmem
    rw [Machine.isStateServer, Machine.hasJob, List.contains_iff_mem.mpr hmem] at hserver
    cases hserver

end Valid

theorem Accepted.valid {raw template : Template} {allowed : Bool} {past : History}
    (h : raw.Accepted allowed past template) : template.Valid := by
  obtain ⟨environment, -, hvalidate⟩ := h
  exact (valid_of_validate hvalidate).1

theorem Accepted.knownInstance?_eq_none {raw template : Template} {allowed : Bool}
    {past : History} (h : raw.Accepted allowed past template) (hraw : raw.knownInstance? = none) :
    template.knownInstance? = none := by
  obtain ⟨environment, -, hvalidate⟩ := h
  exact (valid_of_validate hvalidate).2 hraw

end Template

end ControlPlane
