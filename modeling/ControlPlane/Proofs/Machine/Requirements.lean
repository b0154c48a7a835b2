import ControlPlane.Proofs.Machine.Sound
import ControlPlane.Proofs.Undisturbed.Planning

/-!
# What is required of a template

Five things are required of a template, and it is looked at for them in a fixed
order.  A template that meets them all is accepted, and changed only in its
constraints, its instance and its nonce.  Any other is refused for the first
thing that it misses.  What has been accepted meets everything, so that it is
accepted again as it is.
-/

namespace ControlPlane

namespace Job

/-- A job stands in a list behind itself, and the jobs before it are all different. -/
def IsFirstRepeated (job : Job) (jobs : List Job) : Prop :=
  ∃ before after, jobs = before ++ job :: after ∧ before.Nodup ∧ job ∈ before

/-- Jobs are searched with those already seen in reverse before them. -/
theorem go_eq_some_iff {seen jobs : List Job} (hseen : seen.Nodup) {job : Job} :
    firstRepeated?.go seen jobs = some job ↔ ∃ before after, jobs = before ++ job :: after ∧
      (before.reverse ++ seen).Nodup ∧ job ∈ before.reverse ++ seen := by
  induction jobs generalizing seen with
  | nil => simp [firstRepeated?.go]
  | cons first rest ih =>
    rw [firstRepeated?.go]
    by_cases hfirst : first ∈ seen
    · rw [if_pos (List.contains_iff_mem.mpr hfirst)]
      constructor
      · intro h
        obtain rfl : first = job := Option.some.inj h
        exact ⟨[], rest, rfl, hseen, hfirst⟩
      · rintro ⟨before, after, heq, hnodup, -⟩
        cases before with
        | nil => rw [(List.cons.inj heq).1]
        | cons other before =>
          obtain ⟨rfl, -⟩ := List.cons.inj heq
          rw [List.reverse_cons, List.append_assoc] at hnodup
          have hnot := (List.nodup_cons.mp hnodup.of_append_right).1
          exact absurd hfirst hnot
    · rw [if_neg (by simpa using hfirst), ih (List.nodup_cons.mpr ⟨hfirst, hseen⟩)]
      constructor
      · rintro ⟨before, after, rfl, h⟩
        refine ⟨first :: before, after, rfl, ?_⟩
        rw [List.reverse_cons, List.append_assoc]
        exact h
      · rintro ⟨before, after, heq, h⟩
        cases before with
        | nil =>
          obtain ⟨rfl, -⟩ := List.cons.inj heq
          exact absurd h.2 hfirst
        | cons other before =>
          obtain ⟨rfl, rfl⟩ := List.cons.inj heq
          rw [List.reverse_cons, List.append_assoc] at h
          exact ⟨before, after, rfl, h⟩

theorem firstRepeated?_eq_some_iff {jobs : List Job} {job : Job} :
    firstRepeated? jobs = some job ↔ job.IsFirstRepeated jobs := by
  rw [firstRepeated?, go_eq_some_iff List.nodup_nil, IsFirstRepeated]
  simp

theorem firstRepeated?_eq_none_iff {jobs : List Job} :
    firstRepeated? jobs = none ↔ jobs.Nodup := by
  constructor
  · exact nodup_of_firstRepeated?
  · intro hnodup
    by_contra hsome
    obtain ⟨job, hjob⟩ := Option.ne_none_iff_exists'.mp hsome
    obtain ⟨before, after, rfl, -, hmem⟩ := firstRepeated?_eq_some_iff.mp hjob
    exact List.disjoint_of_nodup_append hnodup hmem List.mem_cons_self

end Job

namespace Template

/-- The template comes with an instance; an empty identifier is none. -/
def GivesInstance (template : Template) : Prop :=
  ∃ instanceId, template.instanceId = some instanceId ∧ instanceId.text ≠ ""

/-- The template comes with a nonce; an empty one is none. -/
def GivesNonce (template : Template) : Prop :=
  ∃ nonce, template.nonce = some nonce ∧ nonce ≠ ""

theorem isSome_knownInstance?_iff {template : Template} :
    template.knownInstance?.isSome = true ↔ template.GivesInstance := by
  rw [knownInstance?, GivesInstance]
  cases template.instanceId with
  | none => simp
  | some instanceId => simp [InstanceId.isEmpty, Option.filter]

theorem hasNonce_iff {template : Template} : template.hasNonce = true ↔ template.GivesNonce := by
  rw [hasNonce, GivesNonce]
  cases template.nonce with
  | none => simp
  | some nonce => simp

/-- What is required of a template. -/
inductive Requirement where
  | series
  | jobs
  | differentJobs
  | permission
  | pairing
  deriving DecidableEq

namespace Requirement

/-- The requirements in the order in which a template is looked at for them. -/
def order : List Requirement :=
  [series, jobs, differentJobs, permission, pairing]

/-- A template meets a requirement. -/
def Met (template : Template) (allowed : Bool) : Requirement → Prop
  | series => template.series ≠ ""
  | jobs => template.jobs ≠ []
  | differentJobs => template.jobs.Nodup
  | permission => Job.manageEnviron ∈ template.jobs → allowed = true
  | pairing => template.GivesInstance ↔ template.GivesNonce

/-- How a template is refused that misses a requirement. -/
inductive Complaint (template : Template) : Requirement → Error → Prop where
  | series : Complaint template series (.invalidTemplate "no series specified")
  | jobs : Complaint template jobs (.invalidTemplate "no jobs specified")
  | repeatedJob {job : Job} (h : job.IsFirstRepeated template.jobs) :
      Complaint template differentJobs (.invalidTemplate ("duplicate job: " ++ job.word))
  | permission : Complaint template permission
      (.permissionDenied "manage_environ specified but not allowed")
  | missingNonce (h : template.GivesInstance) : Complaint template pairing
      (.invalidTemplate "cannot add a machine with an instance id and no nonce")
  | missingInstance (h : template.GivesNonce) : Complaint template pairing
      (.invalidTemplate "cannot specify a nonce without an instance id")

theorem exists_complaint {template : Template} {allowed : Bool} {requirement : Requirement}
    (h : ¬requirement.Met template allowed) :
    ∃ failure, requirement.Complaint template failure := by
  cases requirement with
  | series => exact ⟨_, .series⟩
  | jobs => exact ⟨_, .jobs⟩
  | differentJobs =>
    have hsome : Job.firstRepeated? template.jobs ≠ none := fun hnone =>
      h (Job.firstRepeated?_eq_none_iff.mp hnone)
    obtain ⟨job, hjob⟩ := Option.ne_none_iff_exists'.mp hsome
    exact ⟨_, .repeatedJob (Job.firstRepeated?_eq_some_iff.mp hjob)⟩
  | permission => exact ⟨_, .permission⟩
  | pairing =>
    by_cases hinstance : template.GivesInstance
    · exact ⟨_, .missingNonce hinstance⟩
    · have hnonce : template.GivesNonce := by
        by_contra hnone
        exact h (iff_of_false hinstance hnone)
      exact ⟨_, .missingInstance hnonce⟩

/-- Where not everything on a list is met, there is a first thing that is not. -/
theorem met_or_missed (template : Template) (allowed : Bool) (requirements : List Requirement) :
    (∀ requirement ∈ requirements, requirement.Met template allowed) ∨
      ∃ requirement, ¬requirement.Met template allowed ∧
        ∀ earlier ∈ requirements.takeWhile (· ≠ requirement), earlier.Met template allowed := by
  induction requirements with
  | nil => exact .inl nofun
  | cons first rest ih =>
    by_cases hfirst : first.Met template allowed
    · rcases ih with hrest | ⟨requirement, hmissed, hearlier⟩
      · exact .inl (List.forall_mem_cons.mpr ⟨hfirst, hrest⟩)
      · have hne : first ≠ requirement := fun heq => hmissed (heq ▸ hfirst)
        refine .inr ⟨requirement, hmissed, ?_⟩
        rw [List.takeWhile_cons_of_pos (by simpa using hne)]
        exact List.forall_mem_cons.mpr ⟨hfirst, hearlier⟩
    · exact .inr ⟨first, hfirst, by simp⟩

end Requirement

/-- A template is refused for a requirement that it misses, while it meets those before it. -/
structure Refused (template : Template) (allowed : Bool) (requirement : Requirement)
    (failure : Error) : Prop where
  missed : ¬requirement.Met template allowed
  earlier : ∀ earlier ∈ Requirement.order.takeWhile (· ≠ requirement),
    earlier.Met template allowed
  complaint : requirement.Complaint template failure

variable {raw template : Template} {allowed : Bool} {requirement : Requirement}
  {environment : Constraints} {failure : Error}

theorem met_or_refused (raw : Template) (allowed : Bool) :
    (∀ requirement, Requirement.Met raw allowed requirement) ∨
      ∃ requirement failure, raw.Refused allowed requirement failure := by
  rcases Requirement.met_or_missed raw allowed Requirement.order with
    hall | ⟨requirement, hmissed, hearlier⟩
  · refine .inl fun requirement => hall requirement ?_
    cases requirement <;> decide
  · obtain ⟨failure, hcomplaint⟩ := Requirement.exists_complaint hmissed
    exact .inr ⟨requirement, failure, hmissed, hearlier, hcomplaint⟩

/-!
## The check

Each step of the check is passed where its requirement is met.
-/

theorem isEmpty_series (h : Requirement.series.Met raw allowed) : raw.series.isEmpty = false := by
  simpa [Requirement.Met] using h

theorem isEmpty_jobs (h : Requirement.jobs.Met raw allowed) : raw.jobs.isEmpty = false :=
  List.isEmpty_eq_false_iff.mpr h

theorem firstRepeated?_jobs (h : Requirement.differentJobs.Met raw allowed) :
    Job.firstRepeated? raw.jobs = none :=
  Job.firstRepeated?_eq_none_iff.mpr h

theorem contains_jobs (h : Requirement.permission.Met raw allowed) :
    (raw.jobs.contains .manageEnviron && !allowed) = false := by
  by_cases hmem : Job.manageEnviron ∈ raw.jobs
  · simp [h hmem]
  · simp [hmem]

/-- A template that meets everything is accepted. -/
theorem validate_eq_ok (h : ∀ requirement, Requirement.Met raw allowed requirement)
    (environment : Constraints) :
    raw.validate environment allowed = .ok (raw.normalised environment) := by
  have hpairing : raw.knownInstance?.isSome = raw.hasNonce := by
    rw [Bool.eq_iff_iff, isSome_knownInstance?_iff, hasNonce_iff]
    exact h .pairing
  cases hvalid : raw.validate environment allowed with
  | ok template => rw [eq_normalised_of_validate hvalid]
  | error failure =>
    rw [validate, isEmpty_series (h .series), isEmpty_jobs (h .jobs),
      firstRepeated?_jobs (h .differentJobs), contains_jobs (h .permission), ← hpairing] at hvalid
    cases hknown : raw.knownInstance?.isSome <;> rw [hknown] at hvalid <;> cases hvalid

/-- A template is refused for the first requirement that it misses. -/
theorem validate_eq_error (h : raw.Refused allowed requirement failure)
    (environment : Constraints) : raw.validate environment allowed = .error failure := by
  obtain ⟨hmissed, hearlier, hcomplaint⟩ := h
  rw [validate]
  cases hcomplaint with
  | series =>
    have hempty : raw.series.isEmpty = true := by simpa [Requirement.Met] using hmissed
    rw [hempty]
    rfl
  | jobs =>
    have hempty : raw.jobs.isEmpty = true := by simpa [Requirement.Met] using hmissed
    rw [isEmpty_series (hearlier .series (by decide)), hempty]
    rfl
  | repeatedJob hjob =>
    rw [isEmpty_series (hearlier .series (by decide)), isEmpty_jobs (hearlier .jobs (by decide)),
      Job.firstRepeated?_eq_some_iff.mpr hjob]
    rfl
  | permission =>
    have hdenied : (raw.jobs.contains .manageEnviron && !allowed) = true := by
      simpa [Requirement.Met] using hmissed
    rw [isEmpty_series (hearlier .series (by decide)), isEmpty_jobs (hearlier .jobs (by decide)),
      firstRepeated?_jobs (hearlier .differentJobs (by decide)), hdenied]
    rfl
  | missingNonce hinstance =>
    have hnonce : raw.hasNonce = false := by
      rw [← Bool.not_eq_true, hasNonce_iff]
      exact fun hnonce => hmissed (iff_of_true hinstance hnonce)
    rw [isEmpty_series (hearlier .series (by decide)), isEmpty_jobs (hearlier .jobs (by decide)),
      firstRepeated?_jobs (hearlier .differentJobs (by decide)),
      contains_jobs (hearlier .permission (by decide)),
      isSome_knownInstance?_iff.mpr hinstance, hnonce]
    rfl
  | missingInstance hnonce =>
    have hinstance : raw.knownInstance?.isSome = false := by
      rw [← Bool.not_eq_true, isSome_knownInstance?_iff]
      exact fun hinstance => hmissed (iff_of_true hinstance hnonce)
    rw [isEmpty_series (hearlier .series (by decide)), isEmpty_jobs (hearlier .jobs (by decide)),
      firstRepeated?_jobs (hearlier .differentJobs (by decide)),
      contains_jobs (hearlier .permission (by decide)), hinstance, hasNonce_iff.mpr hnonce]
    rfl

/-! ## What is accepted -/

theorem givesInstance_normalised (environment : Constraints) :
    (raw.normalised environment).GivesInstance ↔ raw.GivesInstance := by
  rw [← isSome_knownInstance?_iff, knownInstance?_normalised, isSome_knownInstance?_iff]

theorem instance_normalised (h : raw.GivesInstance) (environment : Constraints) :
    (raw.normalised environment).instanceId = raw.instanceId ∧
      (raw.normalised environment).nonce = raw.nonce := by
  constructor
  · obtain ⟨instanceId, hinstance, hne⟩ := h
    simp [normalised, knownInstance?, hinstance, InstanceId.isEmpty, hne]
  · simp [normalised, isSome_knownInstance?_iff.mpr h]

theorem instance_normalised_of_not (h : ¬raw.GivesInstance) (environment : Constraints) :
    (raw.normalised environment).instanceId = none ∧
      (raw.normalised environment).nonce = none := by
  rw [← isSome_knownInstance?_iff, Option.not_isSome_iff_eq_none] at h
  simp [normalised, h]

/-- What has been accepted meets every requirement. -/
theorem met_normalised (h : ∀ requirement, Requirement.Met raw allowed requirement)
    (environment : Constraints) (requirement : Requirement) :
    requirement.Met (raw.normalised environment) allowed := by
  cases requirement with
  | pairing =>
    by_cases hinstance : raw.GivesInstance
    · obtain ⟨nonce, hnonce, hne⟩ := (h .pairing).mp hinstance
      have hsame := (instance_normalised hinstance environment).2
      exact iff_of_true ((givesInstance_normalised environment).mpr hinstance)
        ⟨nonce, hsame.trans hnonce, hne⟩
    · have hnone := (instance_normalised_of_not hinstance environment).2
      refine iff_of_false
        (fun hgives => hinstance ((givesInstance_normalised environment).mp hgives)) ?_
      rintro ⟨nonce, hnonce, -⟩
      cases hnone.symm.trans hnonce
  | series => exact h .series
  | jobs => exact h .jobs
  | differentJobs => exact h .differentJobs
  | permission => exact h .permission

/-- Constraints that have been layered once are not changed by layering them again. -/
theorem layered_normalised :
    (raw.normalised environment).layered environment = raw.layered environment := by
  simp [layered, normalised, Constraints.withFallbacks, Option.or_assoc]

theorem normalised_normalised :
    (raw.normalised environment).normalised environment = raw.normalised environment := by
  have hknown := knownInstance?_normalised raw environment
  rw [normalised, layered_normalised, hknown]
  cases hinstance : raw.knownInstance? <;> simp [normalised, hinstance]

/-- A template is accepted just when it meets every requirement.  What is accepted differs from it
at most in the constraints, which are layered over those of the environment and ask for no
container, and in the instance and the nonce, which are both dropped where no instance is given;
and it is accepted again as it is.  Every other template is refused for the first requirement that
it misses. -/
theorem accepted_or_refused_in_order (raw : Template) (environment : Constraints)
    (allowed : Bool) :
    ((∃ template, raw.validate environment allowed = .ok template) ↔
      ∀ requirement, Requirement.Met raw allowed requirement) ∧
    (∀ template, raw.validate environment allowed = .ok template →
      template = { raw with
        constraints := { raw.constraints.withFallbacks environment with container := none }
        instanceId := template.instanceId
        nonce := template.nonce } ∧
      (¬raw.GivesInstance → template.instanceId = none ∧ template.nonce = none) ∧
      (raw.GivesInstance →
        template.instanceId = raw.instanceId ∧ template.nonce = raw.nonce) ∧
      template.validate environment allowed = .ok template) ∧
    ∀ failure, raw.validate environment allowed = .error failure ↔
      ∃ requirement, raw.Refused allowed requirement failure := by
  have hnot : ∀ template failure, raw.validate environment allowed = .ok template →
      ¬raw.validate environment allowed = .error failure := by
    intro template failure hok herror
    cases hok.symm.trans herror
  rcases met_or_refused raw allowed with hmet | ⟨requirement, failure, hrefused⟩
  · have hok := validate_eq_ok hmet environment
    refine ⟨iff_of_true ⟨_, hok⟩ hmet, ?_, ?_⟩
    · intro template htemplate
      obtain rfl : raw.normalised environment = template :=
        Except.ok.inj (hok.symm.trans htemplate)
      refine ⟨rfl, fun hnone => instance_normalised_of_not hnone environment,
        fun hgiven => instance_normalised hgiven environment, ?_⟩
      have hagain := validate_eq_ok (met_normalised hmet environment) environment
      rwa [normalised_normalised] at hagain
    · intro failure
      refine iff_of_false (hnot _ failure hok) ?_
      rintro ⟨requirement, hrefused⟩
      exact hrefused.missed (hmet requirement)
  · have herror := validate_eq_error hrefused environment
    refine ⟨iff_of_false ?_ fun hmet => hrefused.missed (hmet requirement), ?_, ?_⟩
    · rintro ⟨template, hok⟩
      exact hnot template failure hok herror
    · intro template hok
      exact absurd herror (hnot template failure hok)
    · intro other
      constructor
      · intro hother
        obtain rfl : failure = other := Except.error.inj (herror.symm.trans hother)
        exact ⟨requirement, hrefused⟩
      · rintro ⟨_, hother⟩
        exact validate_eq_error hother environment

/-- A template whose instance has an empty identifier and whose nonce is empty. -/
def unnamed : Template where
  series := "jammy"
  jobs := [.hostUnits]
  constraints := { cpuCores := some 4 }
  instanceId := some ⟨""⟩
  nonce := some ""

/-- The empty identifier and the empty nonce are dropped, and with state servers that are asked for
twice the template is refused for the repetition and not for the state servers. -/
theorem accepted_or_refused_in_order_unnamed :
    (∃ template, unnamed.validate { mem := some 4096, container := some .lxc } false =
        .ok template ∧
      template.constraints = { cpuCores := some 4, mem := some 4096 } ∧
      template.instanceId = none ∧ template.nonce = none ∧
      template.validate { mem := some 4096, container := some .lxc } false = .ok template) ∧
    { unnamed with jobs := [.manageEnviron, .hostUnits, .manageEnviron] }.validate {} false =
      .error (.invalidTemplate ("duplicate job: " ++ Job.manageEnviron.word)) := by
  constructor
  · obtain ⟨-, haccepted, -⟩ := accepted_or_refused_in_order unnamed
      { mem := some 4096, container := some .lxc } false
    obtain ⟨heq, hdropped, -, hagain⟩ := haccepted _ rfl
    have hnone : ¬unnamed.GivesInstance := by
      rintro ⟨_, ⟨⟩, hne⟩
      exact hne rfl
    exact ⟨_, rfl, congrArg constraints heq, (hdropped hnone).1, (hdropped hnone).2, hagain⟩
  · obtain ⟨-, -, hrefused⟩ := accepted_or_refused_in_order
      { unnamed with jobs := [.manageEnviron, .hostUnits, .manageEnviron] } {} false
    have hrepeated : Job.IsFirstRepeated .manageEnviron
        [.manageEnviron, .hostUnits, .manageEnviron] :=
      ⟨[.manageEnviron, .hostUnits], [], rfl, by decide, by decide⟩
    apply (hrefused _).mpr
    refine ⟨.differentJobs, by simp [Requirement.Met], ?_, .repeatedJob hrepeated⟩
    have hearlier : Requirement.order.takeWhile (· ≠ .differentJobs) = [.series, .jobs] := rfl
    rw [hearlier]
    simp [Requirement.Met, unnamed]

end Template

end ControlPlane
