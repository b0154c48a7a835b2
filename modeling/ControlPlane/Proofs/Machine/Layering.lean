import ControlPlane.Proofs.Environment.Replacing
import ControlPlane.Proofs.Machine.Creating
import ControlPlane.Proofs.Machine.Vetting

/-!
# The constraints that new machines get

A template is checked against the constraints of the environment as they are
read, and what is stored of a new machine are the constraints of the template
as its check has left it.  In a sequential run nothing comes between the two,
so a new machine gets the constraints of its template layered over those that
the environment was given last.
-/

namespace ControlPlane

open Json Store

/-- A machine that a task makes, by what it results in, with its template. -/
inductive Task.Makes : (task : Task) → task.Result → Machine → Template → Prop where
  | addMachines (controller : Controller) {raws : List Template} {machines : List Machine}
      {raw : Template} {machine : Machine} (h : (raw, machine) ∈ raws.zip machines) :
      Makes (.request controller (.addMachines raws)) machines machine raw
  | addMachine (controller : Controller) (raw : Template) (machine : Machine) :
      Makes (.request controller (.addMachine raw)) machine machine raw
  | addInside (controller : Controller) (raw : Template) (parent : String)
      (kind : ContainerType) (machine : Machine) :
      Makes (.request controller (.addInside raw parent kind)) machine machine raw
  | addInsideNew (controller : Controller) (raw rawParent : Template) (kind : ContainerType)
      (machine : Machine) :
      Makes (.request controller (.addInsideNew raw rawParent kind)) machine machine raw
  /-- The host of a container that is made with it. -/
  | host (controller : Controller) (raw rawParent : Template) (kind : ContainerType)
      {container machine : Machine} (h : container.parent? = some machine.id) :
      Makes (.request controller (.addInsideNew raw rawParent kind)) container machine rawParent
  | server (controller : Controller) (target : Nat) (constraints : Constraints) (series : String)
      (machine : Machine) :
      Makes (.request controller (.ensureAvailability target constraints series)) () machine
        (Controller.serverTemplate series constraints)

/-- The machines that have come to be between two stores are made from templates, and have the
constraints of these layered over those of the environment. -/
def Store.Layers (store after : Store) (makes : Machine → Template → Prop) : Prop :=
  ∀ (id : String) (document : Value), store.get? Layout.machines id = none →
    after.get? Layout.machines id = some document →
      ∃ (constraints : Constraints) (machine : Machine) (raw : Template),
        store.constraints? = some constraints ∧ makes machine raw ∧
          document = machine.toValue ∧ machine.id = id ∧
          after.get? Layout.constraints (Layout.machineKey id) =
            some (raw.layered constraints).toValue

variable {store after : Store} {past : History} {ops : List Op} {raw template : Template}
  {rawParent parentTemplate : Template} {kind : ContainerType}
  {makes : Machine → Template → Prop}

/-! ## Transactions -/

theorem Store.Alike.layers (h : store.Alike after) : store.Layers after makes := by
  have hmachines : Layout.machines ≠ Layout.sequence := by decide
  intro id document hfresh hget
  rw [h hmachines, hfresh] at hget
  cases hget

namespace Store.Applied

/-- Templates are layered over the constraints that the environment has at the beginning. -/
theorem exists_layered {allowed : Bool} (h : store.Applied past ops after)
    (haccepted : raw.Accepted allowed past template) :
    ∃ constraints, store.constraints? = some constraints ∧
      template.constraints = raw.layered constraints := by
  obtain ⟨constraints, ⟨document, hmem, hdecode⟩, hvalidate⟩ := haccepted
  have hconstraints : Layout.constraints ≠ Layout.sequence := by decide
  cases h with
  | intro hfound hbefore hcommit hafter =>
    exact ⟨constraints, record?_eq_some_iff.mpr ⟨document, hfound hconstraints hmem, hdecode⟩,
      congrArg Template.constraints (Template.eq_normalised_of_validate hvalidate)⟩

theorem layers_of_not_inserted (h : store.Applied past ops after)
    (hops : Op.inserted Layout.machines ops = []) : store.Layers after makes := by
  have hmachines : Layout.machines ≠ Layout.sequence := by decide
  intro id document hfresh hget
  cases h with
  | intro hfound hbefore hcommit hafter =>
    rw [← hbefore hmachines] at hfresh
    rw [hafter hmachines] at hget
    have hmem := mem_inserted_of_created (transact_eq_ok_iff.mp hcommit).2 hfresh
      (Option.isSome_of_mem hget)
    rw [hops] at hmem
    cases hmem

/-- A batch layers the machines that it adds, if it creates each of them with the constraints of a
template that was accepted. -/
theorem layers {added : List Machine} {current : StateServers}
    (h : store.Applied past (Environment.checkAliveOp :: ops) after)
    (hbatch : Batch added current ops)
    (hmade : ∀ machine ∈ added, ∃ raw template allowed, makes machine raw ∧
      raw.Accepted allowed past template ∧
        ∀ {before later : Store},
          before.transact (Environment.checkAliveOp :: ops) = .ok later →
            before.Creates later machine template.constraints) : store.Layers after makes := by
  have hcollections : Layout.machines ≠ Layout.sequence ∧
      Layout.constraints ≠ Layout.sequence := by decide
  have happlied := h
  intro id document hfresh hget
  cases h with
  | intro hfound hbefore hcommit hafter =>
    rw [← hbefore hcollections.1] at hfresh
    rw [hafter hcollections.1] at hget
    obtain ⟨machine, hmem, rfl, rfl⟩ := hbatch.exists_machine hcommit hfresh hget
    obtain ⟨raw, template, allowed, hmakes, haccepted, hcreates⟩ := hmade machine hmem
    obtain ⟨constraints, hconstraints, heq⟩ := happlied.exists_layered haccepted
    refine ⟨constraints, machine, raw, hconstraints, hmakes, rfl, rfl, ?_⟩
    rw [hafter hcollections.2, (hcreates hcommit).constrained, heq]

theorem layers_roots {plans : List CreationPlan} {current : StateServers}
    (h : store.Applied past (Environment.checkAliveOp :: (plans.flatMap (·.ops) ++
      (StateServers.addOp? (plans.map (·.machine)) current).toList)) after)
    (hplans : ∀ plan ∈ plans, ∃ raw, makes plan.machine raw ∧ plan.IsRoot raw past) :
    store.Layers after makes := by
  have hroot := CreationPlan.exists_ofRoot fun plan hplan =>
    (hplans plan hplan).imp fun _ hraw => hraw.2
  apply h.layers (CreationPlan.batch_of_roots hroot current)
  intro machine hmachine
  obtain ⟨plan, hplan, rfl⟩ := List.mem_map.mp hmachine
  obtain ⟨raw, hmakes, template, number, haccepted, -, rfl⟩ := hplans plan hplan
  exact ⟨raw, template, true, hmakes, haccepted,
    fun hcommit => CreationPlan.creates_root hroot hcommit hplan⟩

theorem layers_inside {parent id : String}
    (h : store.Applied past (Environment.checkAliveOp ::
      (CreationPlan.ofInside template parent kind id).ops) after)
    (haccepted : raw.Accepted false past template)
    (hmakes : makes (template.machine id (some kind)) raw) : store.Layers after makes := by
  have hserver := haccepted.isStateServer_eq_false id (some kind)
  apply h.layers (CreationPlan.batch_of_inside parent hserver)
  intro machine hmachine
  rw [List.mem_singleton.mp hmachine]
  exact ⟨raw, template, false, hmakes, haccepted,
    fun hcommit => CreationPlan.creates_inside hserver hcommit⟩

theorem layers_insideNew {parentId id : String}
    (h : store.Applied past (Environment.checkAliveOp ::
      (CreationPlan.ofInsideNew template parentTemplate kind parentId id).ops) after)
    (haccepted : raw.Accepted false past template)
    (hparent : rawParent.Accepted false past parentTemplate)
    (hmakes : makes (template.machine id (some kind)) raw)
    (hmakesParent : makes (parentTemplate.machine parentId none) rawParent) :
    store.Layers after makes := by
  have hserver := haccepted.isStateServer_eq_false id (some kind)
  have hparentServer := hparent.isStateServer_eq_false parentId none
  apply h.layers (CreationPlan.batch_of_insideNew hparentServer hserver)
  intro machine hmachine
  simp only [List.mem_cons, List.not_mem_nil, or_false] at hmachine
  rcases hmachine with rfl | rfl
  · exact ⟨rawParent, parentTemplate, false, hmakesParent, hparent,
      fun hcommit => (CreationPlan.creates_insideNew hparentServer hserver hcommit).1⟩
  · exact ⟨raw, template, false, hmakes, haccepted,
      fun hcommit => (CreationPlan.creates_insideNew hparentServer hserver hcommit).2⟩

end Store.Applied

/-! ## Tasks -/

namespace Machine

variable {controller : Controller} {machine : Machine}

theorem addAll_layers {raws : List Template} {machines : List Machine}
    (h : (Task.request controller (.addMachines raws)).Performed store (.ok machines) after) :
    store.Layers after ((Task.request controller (.addMachines raws)).Makes machines) := by
  have hcareful : Procedure.Meets (Careful (fun _ => True) fun _ _ => True) [] (addAll raws) _ :=
    addAll_careful (fun _ _ => trivial) fun _ _ _ _ => trivial
  obtain ⟨later, ⟨asked, plans, current, -, hroots, rfl, hlater⟩, happlied⟩ :=
    h.applied_last hcareful
  apply (happlied _ _ hlater).layers_roots
  intro plan hplan
  -- The machines are those of the plans, in the order of the templates.
  have hzip : (raws.zip plans).map Prod.snd = plans :=
    List.map_snd_zip (Nat.le_of_eq hroots.length_eq.symm)
  rw [← hzip] at hplan
  obtain ⟨⟨raw, plan⟩, hmem, rfl⟩ := List.mem_map.mp hplan
  refine ⟨raw, .addMachines controller ?_, List.forall₂_zip hroots hmem⟩
  rw [List.zip_map_right]
  exact List.mem_map_of_mem hmem

theorem add_layers
    (h : (Task.request controller (.addMachine raw)).Performed store (.ok machine) after) :
    store.Layers after ((Task.request controller (.addMachine raw)).Makes machine) := by
  have hcareful : Procedure.Meets (Careful (fun _ => True) fun _ _ => True) [] (add raw) _ :=
    add_careful (fun _ _ => trivial) fun _ _ _ _ => trivial
  obtain ⟨later, ⟨asked, plan, current, hroot, rfl, hlater⟩, happlied⟩ := h.applied_last hcareful
  apply (happlied _ _ hlater).layers_roots
  intro other hother
  rw [List.mem_singleton.mp hother]
  exact ⟨raw, .addMachine controller raw plan.machine, hroot⟩

theorem addInside_layers {parent : String}
    (h : (Task.request controller (.addInside raw parent kind)).Performed store (.ok machine)
      after) :
    store.Layers after ((Task.request controller (.addInside raw parent kind)).Makes machine) := by
  obtain ⟨later, ⟨asked, template, number, haccepted, rfl, hlater⟩, happlied⟩ :=
    h.applied_last (addInside_careful raw parent kind)
  exact (happlied _ _ hlater).layers_inside haccepted (.addInside controller raw parent kind _)

theorem addInsideNew_layers
    (h : (Task.request controller (.addInsideNew raw rawParent kind)).Performed store
      (.ok machine) after) :
    store.Layers after
      ((Task.request controller (.addInsideNew raw rawParent kind)).Makes machine) := by
  obtain ⟨later, ⟨asked, template, parentTemplate, parentNumber, number, haccepted, hparent, rfl,
    hlater⟩, happlied⟩ := h.applied_last (addInsideNew_careful raw rawParent kind)
  exact (happlied _ _ hlater).layers_insideNew haccepted hparent
    (.addInsideNew controller raw rawParent kind _)
    (.host controller raw rawParent kind (MachineId.parent?_container _ _ _))

end Machine

/-- A request that is not to add machines inserts none. -/
theorem Request.Submits.inserted_eq_nil {controller : Controller} {asked : Request}
    (h : asked.Submits controller past ops) (hadds : ¬asked.AddsMachines) :
    Op.inserted Layout.machines ops = [] := by
  cases h with
  | setEnvironmentConstraints constraints => rfl
  | destroyEnvironment => rfl
  | setSupportedContainers id kinds => rfl
  | _ => exact absurd trivial hadds

/-- The machines that a task creates get the constraints of their templates layered over those that
the environment has when the task is begun. -/
theorem Task.Performed.layers {task : Task} {value : task.Result}
    (h : task.Performed store (.ok value) after) : store.Layers after (task.Makes value) := by
  have hother : (∀ {past ops}, task.Submits past ops → Op.inserted Layout.machines ops = []) →
      store.Layers after (task.Makes value) := by
    intro hops
    rcases h.alike_or_applied with halike | ⟨past, ops, hsubmits, happlied⟩
    · exact halike.layers
    · exact happlied.layers_of_not_inserted (hops hsubmits)
  cases task with
  | establish quorum uuid constraints =>
    apply hother
    intro past ops hsubmits
    cases hsubmits
    rfl
  | request controller asked =>
    cases asked with
    | ensureAvailability target constraints series =>
      rcases h.alike_or_applied with halike | ⟨past, ops, hsubmits, happlied⟩
      · exact halike.layers
      · cases hsubmits with
        | request hsubmits =>
          cases hsubmits with
          | ensureAvailability hread hmissing hsome hplans =>
            apply happlied.layers_roots
            intro plan hplan
            obtain ⟨raw, hraw, hroot⟩ := hplans.exists_raw plan hplan
            rw [List.eq_of_mem_replicate hraw] at hroot
            exact ⟨_, .server controller target constraints series plan.machine, hroot⟩
    | addMachines raws => exact Machine.addAll_layers h
    | addMachine raw => exact Machine.add_layers h
    | addInside raw parent kind => exact Machine.addInside_layers h
    | addInsideNew raw rawParent kind => exact Machine.addInsideNew_layers h
    | _ =>
      apply hother
      intro past ops hsubmits
      cases hsubmits with
      | request hsubmits => exact hsubmits.inserted_eq_nil id

/-! ## In a sequential run -/

/-- After a sequential run the constraints of the environment are read as they were given last,
when it was made or when they were set, and an environment that is alive has constraints.  To set
them changes no other document.  Every machine that a task creates next has the constraints of the
template that it is made from layered over exactly those that were given last. -/
theorem constraints_are_replaced {world : World} {performances : List Performance} {store : Store}
    (hworld : Reachable world) (h : world.store.Undergoes performances store) :
    (∀ constraints,
      Performance.latest performances world.store.constraints? = some constraints →
        store.Reads Environment.constraints (.ok constraints)) ∧
      (world.store.life? = some .alive → ∃ constraints,
        Performance.latest performances world.store.constraints? = some constraints) ∧
      (∀ (controller : Controller) (constraints : Constraints) (result : Except Error Unit)
        (after : Store),
        (Task.request controller (.setEnvironmentConstraints constraints)).Performed store result
            after →
          ∀ collection id, (collection, id) ≠ (Layout.constraints, Layout.environmentKey) →
            after.get? collection id = store.get? collection id) ∧
      ∀ (task : Task) (result : Except Error task.Result) (after : Store),
        task.Performed store result after →
          ∀ (id : String) (document : Value), store.get? Layout.machines id = none →
            after.get? Layout.machines id = some document →
              ∃ (constraints : Constraints) (value : task.Result) (machine : Machine)
                (raw : Template),
                Performance.latest performances world.store.constraints? = some constraints ∧
                  result = .ok value ∧ task.Makes value machine raw ∧
                  document = machine.toValue ∧ machine.id = id ∧
                  after.get? Layout.constraints (Layout.machineKey id) =
                    some (raw.layered constraints).toValue := by
  have hlatest := hworld.constraints?_eq_latest h
  refine ⟨?_, ?_, ?_, ?_⟩
  · intro constraints hconstraints
    exact Store.reads_constraints (hlatest.trans hconstraints)
  · intro halive
    obtain ⟨-, -, defaults, -, -, hdefaults⟩ := hworld.regular_of_alive halive
    rw [hdefaults, Performance.latest, Option.or_some]
    exact ⟨_, rfl⟩
  · intro controller constraints result after hperformed collection id hplace
    exact Environment.get?_eq_of_setConstraints hperformed hplace
  · intro task result after hperformed id document hfresh hget
    cases result with
    | error error =>
      have hmachines : Layout.machines ≠ Layout.sequence := by decide
      rw [hperformed.alike_of_error hmachines, hfresh] at hget
      cases hget
    | ok value =>
      obtain ⟨constraints, machine, raw, hconstraints, hmakes, hdocument, hid, hstored⟩ :=
        hperformed.layers id document hfresh hget
      exact ⟨constraints, value, machine, raw, hlatest.symm.trans hconstraints, rfl, hmakes,
        hdocument, hid, hstored⟩

/-- A request for a machine with constraints of its own. -/
def Task.adding : Task :=
  .request World.usual (.addMachine
    { series := "jammy", jobs := [.hostUnits], constraints := { mem := some 2048 } })

namespace World

/-- An environment that is made with constraints. -/
def outfitted : World :=
  initial.perform none (.establish {} uuid { cpuCores := some 4, tags := some ["ssd"] })

/-- The outfitted world, after the constraints of the environment have been replaced. -/
def refitted : World :=
  outfitted.perform none (.request usual
    (.setEnvironmentConstraints { mem := some 1024, rootDisk := some 8192 }))

/-- The refitted world, after the constraints of the environment have been replaced once more. -/
def reequipped : World :=
  refitted.perform none (.request usual
    (.setEnvironmentConstraints { arch := some "arm64", tags := some [] }))

theorem undergoes_reequipped :
    ∃ performances, initial.store.Undergoes performances reequipped.store ∧
      Performance.latest performances initial.store.constraints? =
        some { arch := some "arm64", tags := some [] } := by
  obtain ⟨controller, houtfitted⟩ := initial.exists_performed none
    (.establish {} uuid { cpuCores := some 4, tags := some ["ssd"] }) (by decide +kernel)
  obtain ⟨_, hrefitted⟩ := outfitted.exists_performed none (.request usual
    (.setEnvironmentConstraints { mem := some 1024, rootDisk := some 8192 })) (by decide +kernel)
  obtain ⟨_, hreequipped⟩ := refitted.exists_performed none (.request usual
    (.setEnvironmentConstraints { arch := some "arm64", tags := some [] })) (by decide +kernel)
  exact ⟨_, ((Store.Undergoes.nil.snoc houtfitted).snoc hrefitted).snoc hreequipped, rfl⟩

end World

/-- The constraints that an environment is made with are replaced twice, and a machine that is
added then has nothing of the earlier ones. -/
theorem constraints_are_replaced_twice :
    ∃ (store after : Store) (machine : Machine),
      (Task.request World.usual (.addMachine
          { series := "jammy", jobs := [.hostUnits],
            constraints := { mem := some 2048 } })).Performed store (.ok machine) after ∧
        store.Reads Environment.constraints
          (.ok { arch := some "arm64", tags := some [] }) ∧
        after.get? Layout.constraints (Layout.machineKey machine.id) =
          some (Constraints.toValue
            { arch := some "arm64", mem := some 2048, tags := some [] }) := by
  obtain ⟨performances, hundergoes, hgiven⟩ := World.undergoes_reequipped
  obtain ⟨machine, hadding⟩ := World.reequipped.exists_performed none .adding (by decide +kernel)
  have hfresh : (World.reequipped.store.get? Layout.machines "0").isNone = true := by
    decide +kernel
  have hadded : ((World.reequipped.perform none .adding).store.get? Layout.machines "0").isSome =
      true := by decide +kernel
  obtain ⟨document, hget⟩ := Option.isSome_iff_exists.mp hadded
  obtain ⟨hreads, -, -, hmakes⟩ := constraints_are_replaced reachable_initial hundergoes
  obtain ⟨constraints, value, made, raw, hlatest, hvalue, hmade, -, hid, hstored⟩ :=
    hmakes .adding _ _ hadding "0" document (Option.isNone_iff_eq_none.mp hfresh) hget
  obtain rfl := Option.some.inj (hgiven.symm.trans hlatest)
  obtain rfl := Except.ok.inj hvalue
  rw [← hid] at hstored
  change (Task.request World.usual (.addMachine _)).Makes _ made raw at hmade
  cases hmade
  exact ⟨_, _, machine, hadding, hreads _ hgiven, hstored⟩

end ControlPlane
