import ControlPlane.Availability
import ControlPlane.Machine.Addition

/-!
# What the parts of a procedure decide

Many properties of a procedure are had by a procedure that is put together
from others as soon as its parts have them.  For these it is enough to look at
the single calls: reading a document, drawing a number, asking the policy.
`Procedure.Closed` is about the ways of putting procedures together, and the
rest of the module follows the requests up to the calls that they are made of.
-/

namespace ControlPlane

open Json Store

/-- A property that a procedure has as soon as the procedures have it that it is put together
from. -/
structure Procedure.Closed (property : {α : Type} → Procedure α → Prop) : Prop where
  pure {α : Type} (a : α) : property (pure a : Procedure α)
  throw {α : Type} (error : Error) : property (throw error : Procedure α)
  bind {α β : Type} {procedure : Procedure α} {next : α → Procedure β}
    (h : property procedure) (hnext : ∀ a, property (next a)) : property (procedure >>= next)
  inContext {α : Type} {procedure : Procedure α} (h : property procedure) (context : String) :
    property (Procedure.inContext context procedure)

namespace Procedure.Closed

variable {property : {α : Type} → Procedure α → Prop} (h : Closed property) {α β : Type}

include h

theorem map {procedure : Procedure α} (hprocedure : property procedure) (f : α → β) :
    property (f <$> procedure) := by
  rw [map_eq_pure_bind]
  exact h.bind hprocedure fun a => h.pure (f a)

theorem liftM (decision : Except Error α) : property (liftM decision : Procedure α) := by
  cases decision with
  | ok a => exact h.pure a
  | error error => exact h.throw error

theorem mapM {f : α → Procedure β} (hf : ∀ a, property (f a)) (items : List α) :
    property (items.mapM f) := by
  induction items with
  | nil => exact h.pure []
  | cons first rest ih =>
    rw [List.mapM_cons]
    apply h.bind (hf first)
    intro b
    apply h.bind ih
    intro results
    exact h.pure (b :: results)

/-- What follows a check has the property if it has it where the check succeeds. -/
theorem check {condition : Prop} [Decidable condition] {error : Error}
    {rest : PUnit → Procedure α} (hrest : property (rest ⟨⟩)) :
    property (if condition then MonadExcept.throw error >>= rest else rest ⟨⟩) := by
  split
  · exact h.bind (h.throw error) fun _ => hrest
  · exact hrest

theorem decoded (decode : Decoder α) (document : Value) : property (decoded decode document) := by
  unfold Procedure.decoded
  split
  · exact h.pure _
  · exact h.throw _

section Reading

variable (hget : ∀ collection id, property (ask (.get collection id) >>= answered))

include hget

theorem fetch? (decode : Decoder α) (collection key : String) :
    property (fetch? decode collection key) := by
  unfold Procedure.fetch?
  rw [← bind_assoc]
  apply h.bind (hget collection key)
  intro document?
  cases document? with
  | none => exact h.pure none
  | some document =>
    apply h.bind (h.decoded decode document)
    intro record
    exact h.pure (some record)

theorem fetch (decode : Decoder α) (type : ResourceType) (collection key : String) :
    property (fetch decode type collection key) := by
  unfold Procedure.fetch
  apply h.bind (h.fetch? hget decode collection key)
  intro record?
  cases record? with
  | some record => exact h.pure record
  | none => exact h.throw _

theorem environment : property Environment.fetch := by
  unfold Environment.fetch
  apply h.bind (h.fetch? hget Environment.decode _ _)
  intro environment?
  cases environment? with
  | some environment => exact h.pure environment
  | none => exact h.throw _

theorem requireAlive : property Environment.requireAlive := by
  unfold Environment.requireAlive
  apply h.bind (h.environment hget)
  intro environment
  split
  · exact h.throw _
  · exact h.pure ()

theorem stateServers : property StateServers.fetch :=
  h.map (h.fetch hget _ _ _ _) _

theorem bootstrapOps (machines : List Machine) : property (StateServers.bootstrapOps machines) := by
  unfold StateServers.bootstrapOps
  split
  · exact h.pure []
  · apply h.check
    apply h.bind (h.inContext (h.stateServers hget) _)
    intro current
    apply h.check
    exact h.pure _

theorem effective (template : Template) (allowed : Bool) :
    property (template.effective allowed) := by
  unfold Template.effective
  apply h.bind (h.fetch hget Constraints.decode .constraints _ _)
  intro environment
  split
  · exact h.pure _
  · exact h.throw _

section Planning

section Inside

variable
  (hcontainer : ∀ parent kind, property (nextNumber (MachineId.containerCounter parent kind)))

include hcontainer

theorem inside (template : Template) (parent : String) (kind : ContainerType) :
    property (CreationPlan.inside template parent kind) := by
  unfold CreationPlan.inside
  apply h.bind (h.liftM _)
  intro _
  apply h.bind (h.effective hget template false)
  intro template
  apply h.bind (h.liftM _)
  intro _
  apply h.bind (h.fetch hget Machine.decode .machine _ _)
  intro host
  apply h.check
  apply h.bind (h.map (hcontainer _ _) _)
  intro id
  exact h.pure _

theorem addInside (hcommit : ∀ ops, property (commit ops)) (raw : Template) (parent : String)
    (kind : ContainerType) : property (Machine.addInside raw parent kind) := by
  unfold Machine.addInside
  apply h.bind (h.requireAlive hget)
  intro _
  apply h.bind (h.inside hget hcontainer raw parent kind)
  intro plan
  apply h.bind (hcommit plan.ops)
  intro _
  exact h.pure _

end Inside

variable (hdraw : ∀ counter, property (nextNumber counter))
  (hprecheck : ∀ series constraints, property (precheck series constraints))

include hdraw hprecheck

theorem root (template : Template) : property (CreationPlan.root template) := by
  have hdraw : ∀ template : Template,
      property (do return CreationPlan.ofRoot template (← MachineId.nextRoot)) := by
    intro template
    apply h.bind (h.map (hdraw MachineId.rootCounter) MachineId.root)
    intro id
    exact h.pure _
  unfold CreationPlan.root
  apply h.bind (h.effective hget template true)
  intro template
  split
  · apply h.bind (hprecheck template.series template.constraints)
    intro _
    exact hdraw template
  · exact hdraw template

theorem insideNew (template parentTemplate : Template) (kind : ContainerType) :
    property (CreationPlan.insideNew template parentTemplate kind) := by
  unfold CreationPlan.insideNew
  apply h.bind (h.liftM _)
  intro _
  apply h.bind (h.liftM _)
  intro _
  apply h.bind (h.effective hget parentTemplate false)
  intro parentTemplate
  apply h.bind (h.liftM _)
  intro _
  apply h.bind (h.effective hget template false)
  intro template
  apply h.bind (hprecheck parentTemplate.series parentTemplate.constraints)
  intro _
  apply h.bind (h.map (hdraw _) MachineId.root)
  intro parentId
  apply h.bind (h.map (hdraw _) _)
  intro id
  exact h.pure _

variable (hcommit : ∀ ops, property (commit ops))

include hcommit

theorem addAll (raws : List Template) : property (Machine.addAll raws) := by
  unfold Machine.addAll
  apply h.inContext
  apply h.bind (h.requireAlive hget)
  intro _
  apply h.bind (h.mapM (h.root hget hdraw hprecheck) raws)
  intro plans
  apply h.bind (h.bootstrapOps hget _)
  intro servers
  apply h.bind (hcommit _)
  intro _
  exact h.pure _

theorem add (raw : Template) : property (Machine.add raw) := by
  unfold Machine.add
  apply h.bind (h.addAll hget hdraw hprecheck hcommit [raw])
  intro machines
  split
  · exact h.pure _
  · exact h.throw _

theorem addInsideNew (raw rawParent : Template) (kind : ContainerType) :
    property (Machine.addInsideNew raw rawParent kind) := by
  unfold Machine.addInsideNew
  apply h.bind (h.requireAlive hget)
  intro _
  apply h.bind (h.insideNew hget hdraw hprecheck raw rawParent kind)
  intro plan
  apply h.bind (hcommit plan.ops)
  intro _
  exact h.pure _

theorem ensureAvailability (controller : Controller) (target : Nat) (constraints : Constraints)
    (series : String) : property (controller.ensureAvailability target constraints series) := by
  unfold Controller.ensureAvailability
  apply h.bind (h.liftM _)
  intro _
  apply h.bind (h.requireAlive hget)
  intro _
  apply h.bind (h.stateServers hget)
  intro current
  apply h.bind (h.liftM _)
  intro missing
  split
  · exact h.pure ()
  · apply h.bind (h.mapM (h.root hget hdraw hprecheck) _)
    intro plans
    apply h.check
    exact h.inContext (hcommit _) _

end Planning

end Reading

end Procedure.Closed

end ControlPlane
