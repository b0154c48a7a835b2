import ControlPlane.Proofs.Undisturbed.Regular

/-!
# Planning without disturbance

A template is admitted if it passes its check and, unless its instance exists
already, the policy does not refuse it.  The templates of one request are
admitted one after the other, each drawing the next number, up to the first one
that is refused.
-/

namespace ControlPlane

open Json Store

namespace Template

/-- A template as its check leaves it: with its constraints layered over the defaults, and with an
instance and a nonce only where the instance is known. -/
def normalised (raw : Template) (defaults : Constraints) : Template :=
  { raw with
    constraints := raw.layered defaults
    instanceId := raw.knownInstance?
    nonce := if raw.knownInstance?.isSome then raw.nonce else none }

variable {raw template : Template} {defaults : Constraints} {allowed : Bool} {store : Store}

@[simp] theorem knownInstance?_normalised (raw : Template) (defaults : Constraints) :
    (raw.normalised defaults).knownInstance? = raw.knownInstance? := by
  simp [normalised, knownInstance?]

/-- What passes the check is left as it is but for the constraints, the instance and the nonce. -/
theorem eq_normalised_of_validate (h : raw.validate defaults allowed = .ok template) :
    template = raw.normalised defaults := by
  unfold validate at h
  simp only [bind, Except.bind, pure, Except.pure, throw, throwThe, MonadExceptOf.throw] at h
  -- Only the last match gives a result, where the instance and the nonce agree.
  repeat' split at h
  all_goals try cases h
  · next hknown _ =>
    obtain ⟨instanceId, hinstance⟩ := Option.isSome_iff_exists.mp hknown
    obtain ⟨hraw, -⟩ := Option.filter_eq_some_iff.mp hinstance
    simp [normalised, hinstance, hraw]
  · next hknown _ =>
    simp [normalised, Option.not_isSome_iff_eq_none.mp (Bool.eq_false_iff.mp hknown)]

/-- The new machine that a template asks for. -/
def asked (raw : Template) (id : String) (containerType : Option ContainerType) : Machine where
  id := id
  series := raw.series
  containerType := containerType
  principals := raw.principals
  life := .alive
  jobs := raw.jobs
  noVote := raw.noVote
  clean := !raw.dirty
  instanceId := raw.knownInstance?
  nonce := if raw.knownInstance?.isSome then raw.nonce else none
  addresses := raw.addresses
  supportedContainersKnown := false
  supportedContainers := []

theorem machine_normalised (raw : Template) (defaults : Constraints) (id : String)
    (containerType : Option ContainerType) :
    (raw.normalised defaults).machine id containerType = raw.asked id containerType := by
  rw [machine, knownInstance?_normalised]
  rfl

/-- The check needs the constraints of the environment alone. -/
theorem reads_effective (hdefaults : store.constraints? = some defaults) (raw : Template)
    (allowed : Bool) : store.Reads (raw.effective allowed) (raw.validate defaults allowed) := by
  apply (reads_constraints hdefaults).bind
  cases raw.validate defaults allowed with
  | ok template => exact .pure template
  | error error => exact .throw error

end Template

namespace Advisor

variable {μ : Type} (advisor : Advisor μ)

/-- What a policy says of a new instance, with its memory afterwards.  A policy without a
prechecker refuses nothing. -/
def judge (series : String) (constraints : Constraints) (memory : μ) : Except Error Unit × μ :=
  match advisor.prechecker memory with
  | (.error causes, memory) =>
    (.error (.internalError ("cannot get prechecker: " ++ Causes.render causes)), memory)
  | (.ok false, memory) => (.ok (), memory)
  | (.ok true, memory) =>
    match advisor.precheck series constraints memory with
    | (.ok (), memory) => (.ok (), memory)
    | (.error causes, memory) => (.error (.provisioningRejected (Causes.render causes)), memory)

theorem perform_precheck (series : String) (constraints : Constraints) (store : Store)
    (memory : μ) :
    advisor.perform (ControlPlane.precheck series constraints) (store, memory) =
      ((advisor.judge series constraints memory).1, store,
        (advisor.judge series constraints memory).2) := by
  have hreply : advisor.perform (.ask .prechecker) (store, memory) =
      (.ok (advisor.prechecker memory).1, store, (advisor.prechecker memory).2) := rfl
  unfold ControlPlane.precheck judge
  rw [perform_bind_ok hreply]
  rcases advisor.prechecker memory with ⟨causes | has, memory'⟩
  · rfl
  · cases has with
    | false => rfl
    | true =>
      have hverdict : advisor.perform (.ask (.precheck series constraints)) (store, memory') =
          (.ok (advisor.precheck series constraints memory').1, store,
            (advisor.precheck series constraints memory').2) := rfl
      change advisor.perform (Procedure.ask _ >>= _) (store, memory') = _
      rw [perform_bind_ok hverdict]
      dsimp only
      rcases advisor.precheck series constraints memory' with ⟨causes | ⟨⟩, memory''⟩
      · rfl
      · rfl

/-- Whether a template for a root machine passes its check and the policy does not refuse it, with
the memory of the policy afterwards. -/
def assess (defaults : Constraints) (raw : Template) (memory : μ) : Except Error Unit × μ :=
  match raw.validate defaults true with
  | .error error => (.error error, memory)
  | .ok template =>
    if template.knownInstance?.isNone then
      advisor.judge template.series template.constraints memory
    else (.ok (), memory)

/-- All templates are admitted, one after the other. -/
inductive Admits (defaults : Constraints) : List Template → μ → μ → Prop
  | nil (memory : μ) : Admits defaults [] memory memory
  | cons {raw : Template} {raws : List Template} {memory memory' memory'' : μ}
      (hfirst : advisor.assess defaults raw memory = (.ok (), memory'))
      (hrest : Admits defaults raws memory' memory'') :
      Admits defaults (raw :: raws) memory memory''

/-- The first template that is not admitted, after so many that are, and its error. -/
inductive Refuses (defaults : Constraints) : List Template → μ → Nat → Error → μ → Prop
  | head {raw : Template} {raws : List Template} {memory memory' : μ} {error : Error}
      (hfirst : advisor.assess defaults raw memory = (.error error, memory')) :
      Refuses defaults (raw :: raws) memory 0 error memory'
  | tail {raw : Template} {raws : List Template} {memory memory' memory'' : μ} {error : Error}
      {admitted : Nat} (hfirst : advisor.assess defaults raw memory = (.ok (), memory'))
      (hrest : Refuses defaults raws memory' admitted error memory'') :
      Refuses defaults (raw :: raws) memory (admitted + 1) error memory''

/-- Either all templates are admitted or one of them is the first that is not. -/
theorem admits_or_refuses (defaults : Constraints) (raws : List Template) (memory : μ) :
    (∃ memory', advisor.Admits defaults raws memory memory') ∨
      ∃ admitted error memory', advisor.Refuses defaults raws memory admitted error memory' := by
  induction raws generalizing memory with
  | nil => exact .inl ⟨memory, .nil memory⟩
  | cons raw raws ih =>
    rcases hfirst : advisor.assess defaults raw memory with ⟨error | ⟨⟩, memory'⟩
    · exact .inr ⟨0, error, memory', .head hfirst⟩
    · rcases ih memory' with ⟨memory'', hrest⟩ | ⟨admitted, error, memory'', hrest⟩
      · exact .inl ⟨memory'', .cons hfirst hrest⟩
      · exact .inr ⟨admitted + 1, error, memory'', .tail hfirst hrest⟩

end Advisor

namespace CreationPlan

/-- The plans of root machines with consecutive numbers. -/
def rootsFrom (defaults : Constraints) (count : Nat) (raws : List Template) : List CreationPlan :=
  raws.mapIdx fun index raw => ofRoot (raw.normalised defaults) (MachineId.root (count + index))

theorem rootsFrom_cons (defaults : Constraints) (count : Nat) (raw : Template)
    (raws : List Template) :
    rootsFrom defaults count (raw :: raws) =
      ofRoot (raw.normalised defaults) (MachineId.root count) ::
        rootsFrom defaults (count + 1) raws := by
  simp [rootsFrom, List.mapIdx_cons, Nat.add_assoc, Nat.add_comm 1]

variable {μ : Type} {advisor : Advisor μ} {store : Store} {defaults : Constraints}
  {raw : Template} {raws : List Template} {memory memory' : μ} {error : Error} {admitted : Nat}

theorem perform_nextRoot (hformed : store.Formed) (advisor : Advisor μ) (memory : μ) :
    ∃ after, advisor.perform MachineId.nextRoot (store, memory) =
        (.ok (MachineId.root (store.count MachineId.rootCounter)), after, memory) ∧
      store.Draws after MachineId.rootCounter 1 ∧ after.Formed := by
  obtain ⟨after, hdraws, hformed', hperform⟩ := hformed.draw MachineId.rootCounter
  exact ⟨after, Advisor.perform_map_ok (hperform advisor memory), hdraws, hformed'⟩

theorem perform_nextContainer (hformed : store.Formed) (parent : String) (kind : ContainerType)
    (advisor : Advisor μ) (memory : μ) :
    ∃ after, advisor.perform (MachineId.nextContainer parent kind) (store, memory) =
        (.ok (MachineId.container parent kind
          (store.count (MachineId.containerCounter parent kind))), after, memory) ∧
      store.Draws after (MachineId.containerCounter parent kind) 1 ∧ after.Formed := by
  obtain ⟨after, hdraws, hformed', hperform⟩ :=
    hformed.draw (MachineId.containerCounter parent kind)
  exact ⟨after, Advisor.perform_map_ok (hperform advisor memory), hdraws, hformed'⟩

/-- A template that is admitted gets the next number. -/
theorem perform_root (hdefaults : store.constraints? = some defaults) (hformed : store.Formed)
    (hassess : advisor.assess defaults raw memory = (.ok (), memory')) :
    ∃ after, advisor.perform (root raw) (store, memory) =
        (.ok (ofRoot (raw.normalised defaults)
          (MachineId.root (store.count MachineId.rootCounter))), after, memory') ∧
      store.Draws after MachineId.rootCounter 1 ∧ after.Formed := by
  have hread := (Template.reads_effective hdefaults raw true).perform_eq advisor memory
  unfold Advisor.assess at hassess
  cases hvalidate : raw.validate defaults true with
  | error error =>
    rw [hvalidate] at hassess
    cases hassess
  | ok template =>
    obtain rfl := Template.eq_normalised_of_validate hvalidate
    obtain ⟨after, hnext, hdraws⟩ := perform_nextRoot hformed advisor memory'
    rw [hvalidate] at hread hassess
    refine ⟨after, ?_, hdraws⟩
    unfold root
    rw [Advisor.perform_bind_ok hread]
    dsimp only at hassess ⊢
    split
    · next hnew =>
      have hjudged := advisor.perform_precheck (raw.normalised defaults).series
        (raw.normalised defaults).constraints store memory
      rw [if_pos hnew] at hassess
      rw [hassess] at hjudged
      rw [Advisor.perform_bind_ok hjudged, Advisor.perform_bind_ok hnext, Advisor.perform_pure]
    · next hknown =>
      rw [if_neg hknown] at hassess
      obtain rfl := congrArg Prod.snd hassess
      rw [Advisor.perform_bind_ok hnext, Advisor.perform_pure]

/-- A template that is not admitted gets no number. -/
theorem perform_root_error (hdefaults : store.constraints? = some defaults)
    (hassess : advisor.assess defaults raw memory = (.error error, memory')) :
    advisor.perform (root raw) (store, memory) = (.error error, store, memory') := by
  have hread := (Template.reads_effective hdefaults raw true).perform_eq advisor memory
  unfold Advisor.assess at hassess
  unfold root
  cases hvalidate : raw.validate defaults true with
  | error error =>
    rw [hvalidate] at hread hassess
    cases hassess
    exact Advisor.perform_bind_error hread
  | ok template =>
    rw [hvalidate] at hread hassess
    rw [Advisor.perform_bind_ok hread]
    dsimp only at hassess ⊢
    split
    · next hnew =>
      have hjudged := advisor.perform_precheck template.series template.constraints store memory
      rw [if_pos hnew] at hassess
      rw [hassess] at hjudged
      exact Advisor.perform_bind_error hjudged
    · next hknown =>
      rw [if_neg hknown] at hassess
      cases hassess

/-- Templates that are all admitted get consecutive numbers. -/
theorem perform_roots (hdefaults : store.constraints? = some defaults) (hformed : store.Formed)
    (hadmits : advisor.Admits defaults raws memory memory') :
    ∃ after, advisor.perform (raws.mapM root) (store, memory) =
        (.ok (rootsFrom defaults (store.count MachineId.rootCounter) raws), after, memory') ∧
      store.Draws after MachineId.rootCounter raws.length ∧ after.Formed := by
  induction hadmits generalizing store with
  | nil memory => exact ⟨store, rfl, .refl _ _, hformed⟩
  | @cons raw raws memory middle memory' hfirst hrest ih =>
    obtain ⟨drawn, hroot, hdraws, hdrawn⟩ := perform_root hdefaults hformed hfirst
    obtain ⟨after, hroots, hlater, hafter⟩ := ih (hdraws.constraints?_eq.trans hdefaults) hdrawn
    refine ⟨after, ?_, ?_, hafter⟩
    · rw [List.mapM_cons, Advisor.perform_bind_ok hroot, Advisor.perform_bind_ok hroots,
        hdraws.count, rootsFrom_cons, Advisor.perform_pure]
    · rw [List.length_cons, Nat.add_comm]
      exact hdraws.trans hlater

/-- The templates before the first that is not admitted get their numbers in vain. -/
theorem perform_roots_error (hdefaults : store.constraints? = some defaults)
    (hformed : store.Formed)
    (hrefuses : advisor.Refuses defaults raws memory admitted error memory') :
    ∃ after, advisor.perform (raws.mapM root) (store, memory) = (.error error, after, memory') ∧
      store.Draws after MachineId.rootCounter admitted := by
  induction hrefuses generalizing store with
  | head hfirst =>
    refine ⟨store, ?_, .refl _ _⟩
    rw [List.mapM_cons, Advisor.perform_bind_error (perform_root_error hdefaults hfirst)]
  | tail hfirst hrest ih =>
    obtain ⟨drawn, hroot, hdraws, hdrawn⟩ := perform_root hdefaults hformed hfirst
    obtain ⟨after, hroots, hlater⟩ := ih (hdraws.constraints?_eq.trans hdefaults) hdrawn
    refine ⟨after, ?_, ?_⟩
    · rw [List.mapM_cons, Advisor.perform_bind_ok hroot, Advisor.perform_bind_error hroots]
    · rw [Nat.add_comm]
      exact hdraws.trans hlater

end CreationPlan

end ControlPlane
