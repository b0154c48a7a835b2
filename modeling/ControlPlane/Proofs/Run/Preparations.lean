import ControlPlane.Proofs.Run.Requests
import ControlPlane.Proofs.Session.Preparation

/-!
# Requests before they commit

Everything that a request does before its transaction is a preparation: it
reads records, draws numbers and asks the policy.  The plans of new machines
are put together from such steps.
-/

namespace ControlPlane

open Json Store Procedure

theorem prepares_nextNumber (counter : String) : (nextNumber counter).Prepares := by
  have hcall : (Call.increment Layout.sequence counter "counter").Preparatory := ⟨rfl, rfl⟩
  unfold nextNumber
  apply Prepares.inContext
  intro past
  refine Ends.bind (ends_ask hcall) ?_
  rintro asked answer - rfl
  cases answer with
  | ok number => exact ends_pure trivial
  | error failure =>
    have hmem : (⟨.increment Layout.sequence counter "counter", .error failure⟩ : Exchange) ∈
        past ++ [⟨.increment Layout.sequence counter "counter", .error failure⟩] := by simp
    exact ends_throw (unprepared_of_failure hmem rfl hcall)

theorem prepares_precheck (series : String) (constraints : Constraints) :
    (precheck series constraints).Prepares := by
  have hprechecker : Call.prechecker.Preparatory := trivial
  have hprecheck : (Call.precheck series constraints).Preparatory := trivial
  intro past
  unfold precheck
  refine Ends.bind (ends_ask hprechecker) ?_
  rintro asked answer - rfl
  split
  · next causes =>
    have hmem : (⟨.prechecker, .error causes⟩ : Exchange) ∈
        past ++ [⟨.prechecker, .error causes⟩] := by simp
    exact ends_throw ⟨.prechecker hmem _, fun haborted => absurd haborted Bool.false_ne_true⟩
  · exact ends_pure trivial
  · apply (prepares_ask hprecheck).bind
    intro verdict
    split
    · exact prepares_pure ()
    · exact prepares_throw rfl

namespace Environment

theorem prepares_fetch : fetch.Prepares := by
  unfold fetch
  apply (prepares_fetch? .environment (fun _ hread => hread) Layout.environmentKey).bind
  intro environment?
  cases environment? with
  | some environment => exact prepares_pure environment
  | none => exact prepares_throw rfl

theorem prepares_requireAlive : requireAlive.Prepares := by
  unfold requireAlive
  apply prepares_fetch.bind
  intro environment
  split
  · exact prepares_throw rfl
  · exact prepares_pure ()

end Environment

theorem StateServers.prepares_fetch : StateServers.fetch.Prepares :=
  (Procedure.prepares_fetch .stateServerInfo (fun _ hread => hread) _ _).map _

namespace Template

variable {template : Template} {error : Error}

theorem isPlain_of_validate {environment : Constraints} {allowed : Bool}
    (h : template.validate environment allowed = .error error) : error.isPlain = true := by
  unfold validate at h
  simp only [bind, Except.bind, pure, Except.pure, throw, throwThe, MonadExceptOf.throw] at h
  split at h
  · cases h
    rfl
  split at h
  · cases h
    rfl
  split at h
  · cases h
    rfl
  split at h
  · cases h
    rfl
  · split at h
    · cases h
      rfl
    · cases h
      rfl
    · cases h
    · cases h

theorem isPlain_of_refuseInstance (h : template.refuseInstance = .error error) :
    error.isPlain = true := by
  unfold refuseInstance at h
  split at h
  · cases h
    rfl
  · cases h

theorem prepares_effective (template : Template) (allowed : Bool) :
    (template.effective allowed).Prepares := by
  unfold effective
  apply (Procedure.prepares_fetch .constraints (fun _ hread => hread) _ _).bind
  intro environment
  split
  · exact prepares_pure _
  · next error hvalidate => exact prepares_throw (isPlain_of_validate hvalidate)

end Template

namespace CreationPlan

theorem isPlain_of_requireContainer {kind : ContainerType} {error : Error}
    (h : requireContainer kind = .error error) : error.isPlain = true := by
  unfold requireContainer at h
  split at h
  · cases h
    rfl
  · cases h

theorem prepares_root (template : Template) : (root template).Prepares := by
  have hdraw : ∀ template : Template,
      (do return ofRoot template (← MachineId.nextRoot) : Procedure CreationPlan).Prepares := by
    intro template
    apply ((prepares_nextNumber MachineId.rootCounter).map MachineId.root).bind
    intro id
    exact prepares_pure _
  unfold root
  apply (template.prepares_effective true).bind
  intro template
  split
  · apply (prepares_precheck template.series template.constraints).bind
    intro _
    exact hdraw template
  · exact hdraw template

theorem prepares_inside (template : Template) (parent : String) (kind : ContainerType) :
    (inside template parent kind).Prepares := by
  unfold inside
  apply (prepares_liftM fun _ => Template.isPlain_of_refuseInstance).bind
  intro _
  apply (template.prepares_effective false).bind
  intro template
  apply (prepares_liftM fun _ => isPlain_of_requireContainer).bind
  intro _
  apply (Procedure.prepares_fetch .machine (fun _ hread => hread) _ _).bind
  intro host
  apply Prepares.unless rfl
  apply ((prepares_nextNumber _).map _).bind
  intro id
  exact prepares_pure _

theorem prepares_insideNew (template parentTemplate : Template) (kind : ContainerType) :
    (insideNew template parentTemplate kind).Prepares := by
  unfold insideNew
  apply (prepares_liftM fun _ => Template.isPlain_of_refuseInstance).bind
  intro _
  apply (prepares_liftM fun _ => Template.isPlain_of_refuseInstance).bind
  intro _
  apply (parentTemplate.prepares_effective false).bind
  intro parentTemplate
  apply (prepares_liftM fun _ => isPlain_of_requireContainer).bind
  intro _
  apply (template.prepares_effective false).bind
  intro template
  apply (prepares_precheck parentTemplate.series parentTemplate.constraints).bind
  intro _
  apply ((prepares_nextNumber _).map MachineId.root).bind
  intro parentId
  apply ((prepares_nextNumber _).map _).bind
  intro id
  exact prepares_pure _

end CreationPlan

theorem StateServers.prepares_bootstrapOps (machines : List Machine) :
    (bootstrapOps machines).Prepares := by
  unfold bootstrapOps
  split
  · exact prepares_pure []
  · apply Prepares.unless rfl
    apply (prepares_fetch.inContext _).bind
    intro current
    apply Prepares.unless rfl
    exact prepares_pure _

theorem Controller.isPlain_of_missingVoters {maxPeers target voters : Nat} {error : Error}
    (h : missingVoters maxPeers target voters = .error error) : error.isPlain = true := by
  unfold missingVoters at h
  split at h
  · cases h
    rfl
  split at h
  · cases h
    rfl
  split at h
  · cases h
    rfl
  · cases h

end ControlPlane
