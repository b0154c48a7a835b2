import ControlPlane.Proofs.Machine.Creating
import ControlPlane.Proofs.Machine.Vetting
import ControlPlane.Proofs.Run.Retrying

/-!
# No root machine without a precheck

Where the policy has a prechecker, every root machine without an instance that
a request creates was accepted by it before, with the series and the
constraints that are stored.  This holds whatever is in the store and whatever
others write between the calls: the template is checked once, and what the
prechecker has seen is what the plan is made of.
-/

namespace ControlPlane

open Json Store Procedure

variable {allowed : Bool} {raw template : Template} {raws : List Template} {number : Nat}
  {part trace past : History} {series : String} {constraints : Constraints}

/-! ## What has been asked -/

namespace Template

/-- The prechecker has accepted a template without an instance, if there is a prechecker. -/
theorem Admitted.mem_precheck (h : raw.Admitted allowed template number part)
    (hinstance : template.knownInstance? = none)
    (hpolicy : (⟨.prechecker, .ok false⟩ : Exchange) ∉ part) :
    (⟨.precheck template.series template.constraints, .ok ()⟩ : Exchange) ∈ part := by
  cases h with
  | intro hvalidate hcleared number =>
    cases hcleared with
    | known hknown =>
      rw [hinstance] at hknown
      cases hknown
    | unchecked _ => exact absurd List.mem_cons_self hpolicy
    | prechecked _ => simp

/-- The prechecker is asked about templates without an instance only, as their check leaves them. -/
theorem Begun.of_mem_precheck (h : raw.Begun allowed trace) {answer : Except Causes Unit}
    (hmem : (⟨.precheck series constraints, answer⟩ : Exchange) ∈ trace) :
    raw.knownInstance? = none ∧ ∃ defaults template, raw.validate defaults allowed = .ok template ∧
      series = template.series ∧ constraints = template.constraints := by
  have hraw : ∀ {defaults : Constraints} {template : Template},
      raw.validate defaults allowed = .ok template → template.knownInstance? = none →
        raw.knownInstance? = none := fun hvalidate hinstance =>
    (knownInstance?_of_validate hvalidate).symm.trans hinstance
  cases h with
  | unasked => cases hmem
  | asked hvalidate hinstance answer => simp at hmem
  | prechecked hvalidate hinstance answer =>
    simp only [List.mem_cons, List.not_mem_nil, or_false, Exchange.mk.injEq, reduceCtorEq,
      false_and, false_or, Call.precheck.injEq] at hmem
    exact ⟨hraw hvalidate hinstance, _, _, hvalidate, hmem.1⟩
  | drawn hvalidate hcleared answer =>
    cases hcleared with
    | known _ => simp at hmem
    | unchecked hinstance => simp at hmem
    | prechecked hinstance =>
      simp only [List.cons_append, List.nil_append, List.mem_cons, List.not_mem_nil, or_false,
        Exchange.mk.injEq, reduceCtorEq, false_and, false_or, Call.precheck.injEq] at hmem
      exact ⟨hraw hvalidate hinstance, _, _, hvalidate, hmem.1⟩

end Template

theorem Vetting.of_mem_precheck (h : Vetting allowed raws trace) {answer : Except Causes Unit}
    (hmem : (⟨.precheck series constraints, answer⟩ : Exchange) ∈ trace) :
    ∃ raw ∈ raws, raw.knownInstance? = none ∧
      ∃ defaults template, raw.validate defaults allowed = .ok template ∧
        series = template.series ∧ constraints = template.constraints := by
  induction h with
  | nil => cases hmem
  | begun hbegun rest => exact ⟨_, List.mem_cons_self, hbegun.of_mem_precheck hmem⟩
  | next hadmitted _ ih =>
    rcases List.mem_append.mp hmem with hmem | hmem
    · exact ⟨_, List.mem_cons_self, hadmitted.begun.of_mem_precheck hmem⟩
    · obtain ⟨raw, hraw, hprecheck⟩ := ih hmem
      exact ⟨raw, List.mem_cons_of_mem _ hraw, hprecheck⟩

theorem Vetted.exists_admitted {plans : List CreationPlan} (h : Vetted raws plans trace) :
    ∀ plan ∈ plans, ∃ (raw template : Template) (number : Nat) (part : History),
      raw.Admitted true template number part ∧
        plan = .ofRoot template (MachineId.root number) ∧ part ⊆ trace := by
  induction h with
  | nil => exact List.forall_mem_nil _
  | next hadmitted _ ih =>
    refine List.forall_mem_cons.mpr ⟨?_, ?_⟩
    · exact ⟨_, _, _, _, hadmitted, rfl, List.subset_append_left _ _⟩
    · intro plan hplan
      obtain ⟨raw, template, number, part, hadmitted, heq, hsubset⟩ := ih plan hplan
      exact ⟨raw, template, number, part, hadmitted, heq,
        List.subset_append_of_subset_right _ hsubset⟩

/-- What the prechecker was asked in an exchange, and what it said. -/
def Exchange.precheck? : Exchange → Option (String × Constraints × Except Causes Unit)
  | ⟨.precheck series constraints, verdict⟩ => some (series, constraints, verdict)
  | _ => none

/-- What the prechecker was asked, and what it said. -/
def History.prechecks (past : History) : List (String × Constraints × Except Causes Unit) :=
  past.filterMap Exchange.precheck?

theorem History.prechecks_append (past later : History) :
    prechecks (past ++ later) = past.prechecks ++ later.prechecks :=
  List.filterMap_append ..

theorem History.prechecks_admissions (past : History) :
    past.admissions.prechecks = past.prechecks := by
  rw [prechecks, admissions, List.filterMap_filter]
  apply List.filterMap_congr
  rintro ⟨call, answer⟩ -
  cases call with
  | prechecker => rfl
  | precheck series constraints => rfl
  | increment collection counter field => exact ite_self none
  | _ => rfl

/-- A prechecker has been asked exactly once about each template without an instance, in their
order, and has accepted them all. -/
theorem Vetted.prechecks_eq {plans : List CreationPlan} (h : Vetted raws plans trace)
    (hpolicy : (⟨.prechecker, .ok false⟩ : Exchange) ∉ trace) :
    ∃ templates : List Template,
      List.Forall₂ (fun raw template => ∃ defaults, raw.validate defaults true = .ok template)
        (raws.filter (·.knownInstance?.isNone)) templates ∧
      trace.prechecks =
        templates.map fun template => (template.series, template.constraints, .ok ()) := by
  induction h with
  | nil => exact ⟨[], .nil, rfl⟩
  | @next raw template number part trace rest plans hadmitted _ ih =>
    rw [List.mem_append, not_or] at hpolicy
    obtain ⟨templates, hrest, hprechecks⟩ := ih hpolicy.2
    rw [History.prechecks_append, hprechecks]
    cases hadmitted with
    | @intro defaults _ _ hvalidate hcleared number =>
      have hsame := Template.knownInstance?_of_validate hvalidate
      cases hcleared with
      | known hknown =>
        rw [hsame] at hknown
        have hdropped : ¬raw.knownInstance?.isNone = true := by
          rw [Option.isNone_iff_eq_none]
          exact Option.isSome_iff_ne_none.mp hknown
        rw [List.filter_cons, if_neg hdropped]
        exact ⟨templates, hrest, rfl⟩
      | unchecked _ => exact absurd List.mem_cons_self hpolicy.1
      | prechecked hinstance =>
        rw [hsame] at hinstance
        rw [List.filter_cons, if_pos (Option.isNone_iff_eq_none.mpr hinstance)]
        exact ⟨template :: templates, .cons ⟨defaults, hvalidate⟩ hrest, rfl⟩

theorem History.admissions_subset (past : History) : past.admissions ⊆ past :=
  List.filter_subset_self past

/-! ## What is created -/

/-- Every root machine without an instance that comes to be was accepted by the prechecker before,
with the series and the constraints that are stored of it. -/
def Moment.Prechecked (past : History) (moment : Moment) : Prop :=
  ∀ (id : String) (document : Value) (machine : Machine),
    moment.before.get? Layout.machines id = none →
      moment.after.get? Layout.machines id = some document →
        Machine.decode document = .ok machine → machine.containerType = none →
          machine.instanceId = none → ∃ (document' : Value) (constraints : Constraints),
            moment.after.get? Layout.constraints (Layout.machineKey id) = some document' ∧
              Constraints.decode document' = .ok constraints ∧
                ⟨.precheck machine.series constraints, .ok ()⟩ ∈ past

/-- A root machine that was admitted is stored as the prechecker has seen it. -/
theorem Store.Creates.prechecked {store after : Store} {id : String}
    (h : store.Creates after (template.machine id none) template.constraints)
    (hadmitted : raw.Admitted allowed template number part) (hpart : part ⊆ past)
    (hpolicy : (⟨.prechecker, .ok false⟩ : Exchange) ∉ past)
    (hinstance : (template.machine id none).instanceId = none) :
    ∃ (document : Value) (constraints : Constraints),
      after.get? Layout.constraints (Layout.machineKey id) = some document ∧
        Constraints.decode document = .ok constraints ∧
          ⟨.precheck template.series constraints, .ok ()⟩ ∈ past :=
  ⟨_, template.constraints, h.constrained, Constraints.decode_toValue _,
    hpart (hadmitted.mem_precheck hinstance fun hmem => hpolicy (hpart hmem))⟩

theorem Request.Provides.prechecked {asked : Request} {ops : List Op} {moment : Moment}
    (h : asked.Provides past ops) (happlies : moment.Applies ops)
    (hpolicy : (⟨.prechecker, .ok false⟩ : Exchange) ∉ past) : moment.Prechecked past := by
  have hcommit := happlies.2
  intro id document machine hfresh hget hdecode hroot hinstance
  cases h with
  | roots hroots hvetted current =>
    have hplans := hvetted.exists_admitted
    have hof : ∀ plan ∈ _, ∃ template number,
        plan = CreationPlan.ofRoot template (MachineId.root number) := fun plan hplan =>
      let ⟨_, template, number, _, _, heq, _⟩ := hplans plan hplan
      ⟨template, number, heq⟩
    obtain ⟨_, hadded, rfl, rfl⟩ :=
      (CreationPlan.batch_of_roots hof current).exists_machine hcommit hfresh hget
    obtain rfl := Except.ok.inj ((Machine.decode_toValue _).symm.trans hdecode)
    obtain ⟨plan, hplan, rfl⟩ := List.mem_map.mp hadded
    obtain ⟨raw, template, number, part, hadmitted, rfl, hpart⟩ := hplans plan hplan
    exact (CreationPlan.creates_root hof hcommit hplan).prechecked hadmitted
      (List.Subset.trans hpart (History.admissions_subset past)) hpolicy hinstance
  | @inside raw template parent kind number _ haccepted =>
    have hserver := haccepted.isStateServer_eq_false (MachineId.container parent kind number)
      (some kind)
    obtain ⟨_, hadded, -, rfl⟩ :=
      (CreationPlan.batch_of_inside parent hserver).exists_machine hcommit hfresh hget
    obtain rfl := Except.ok.inj ((Machine.decode_toValue _).symm.trans hdecode)
    rw [List.mem_singleton.mp hadded] at hroot
    cases hroot
  | @insideNew raw rawParent template parentTemplate kind parentNumber _ haccepted hparent
      hadmitted number =>
    have hparentServer := hparent.isStateServer_eq_false (MachineId.root parentNumber) none
    have hserver := haccepted.isStateServer_eq_false
      (MachineId.container (MachineId.root parentNumber) kind number) (some kind)
    obtain ⟨_, hadded, rfl, rfl⟩ :=
      (CreationPlan.batch_of_insideNew hparentServer hserver).exists_machine hcommit hfresh hget
    obtain rfl := Except.ok.inj ((Machine.decode_toValue _).symm.trans hdecode)
    simp only [List.mem_cons, List.not_mem_nil, or_false] at hadded
    rcases hadded with rfl | rfl
    · exact (CreationPlan.creates_insideNew hparentServer hserver hcommit).1.prechecked hadmitted
        (History.admissions_subset past) hpolicy hinstance
    · cases hroot

/-! ## Whole requests -/

section Requests

variable {controller : Controller} {asked : Request} {moments : List Moment}
  {rest : Session (Except Error asked.Result)}

/-- The admissions of a request are at one of its stages, whenever it is looked at. -/
theorem Request.stage_of_converses (hadds : asked.AddsMachines)
    (h : (asked.procedure controller).run.Converses moments rest) :
    asked.Stage (exchanges moments).admissions := by
  have hstart : asked.Stage (History.admissions []) := by
    cases asked with
    | ensureAvailability target constraints series =>
      exact .roots (.ensureAvailability target constraints series 0) .nil
    | addMachines raws => exact .roots (.addMachines raws) (.start true raws)
    | addMachine raw => exact .roots (.addMachine raw) (.start true [raw])
    | addInside raw parent kind => exact .inside raw parent kind
    | addInsideNew raw rawParent kind =>
      exact .roots (.addInsideNew raw rawParent kind) (.start false [rawParent])
    | _ => cases hadds
  have hstage := h.keeps (fun later => asked.Stage later.admissions)
    (asked.procedure_careful hadds controller) hstart fun _ _ answer _ hcall => hcall.1 answer
  rwa [List.nil_append] at hstage

/-- A request to add machines that has its result has applied the plans of all its templates, in
the last of its calls. -/
theorem Machine.addAll_vetted {machines : List Machine}
    (h : (Machine.addAll raws).run.Converses moments (.done (.ok machines))) :
    ∃ (plans : List CreationPlan) (current : StateServers) (earlier : List Moment)
      (moment : Moment), Vetted raws plans (exchanges moments).admissions ∧
        machines = plans.map (·.machine) ∧ moments = earlier ++ [moment] ∧
          moment.Applies (Environment.checkAliveOp :: (plans.flatMap (·.ops) ++
            (StateServers.addOp? (plans.map (·.machine)) current).toList)) := by
  have hcareful : Meets (Careful (fun _ => True) fun _ _ => True) [] (Machine.addAll raws) _ :=
    addAll_careful (fun _ _ => trivial) fun _ _ _ _ => trivial
  obtain ⟨asked, plans, current, hvetted, -, rfl, hpast⟩ := h.conforms hcareful machines rfl
  obtain ⟨earlier, moment, hlast, -, happlies⟩ := h.exists_last hpast
  rw [List.nil_append] at hpast
  refine ⟨plans, current, earlier, moment, ?_, rfl, hlast, happlies⟩
  rw [hpast, History.admissions_append_of_not _ rfl]
  exact hvetted

/-- The prechecker is asked about the templates of root machines without an instance only, as their
check leaves them. -/
theorem Request.of_mem_precheck {verdict : Except Causes Unit} (hadds : asked.AddsMachines)
    (h : (asked.procedure controller).run.Converses moments rest)
    (hmem : (⟨.precheck series constraints, verdict⟩ : Exchange) ∈ exchanges moments) :
    ∃ allowed raws, asked.Roots allowed raws ∧ ∃ raw ∈ raws, raw.knownInstance? = none ∧
      ∃ defaults template, raw.validate defaults allowed = .ok template ∧
        series = template.series ∧ constraints = template.constraints := by
  have hstage := Request.stage_of_converses hadds h
  have hadmission : (⟨.precheck series constraints, verdict⟩ : Exchange) ∈
      (exchanges moments).admissions := List.mem_filter.mpr ⟨hmem, rfl⟩
  generalize (exchanges moments).admissions = trace at hstage hadmission
  cases hstage with
  | roots hroots hvetting => exact ⟨_, _, hroots, hvetting.of_mem_precheck hadmission⟩
  | inside raw parent kind => cases hadmission

theorem Request.AddsMachines.not_isReport (h : asked.AddsMachines) :
    ¬(Task.request controller asked).IsReport := by
  intro hreport
  cases asked with
  | setSupportedContainers id kinds => exact h
  | _ => exact hreport

/-- A refusal of the prechecker is the last that a request hears, and nothing but counters was
written before it. -/
theorem Request.ends_of_refusal {moment : Moment} {causes : Causes} (hadds : asked.AddsMachines)
    (h : (asked.procedure controller).run.Converses moments rest) (hmem : moment ∈ moments)
    (hrefused : moment.exchange = ⟨.precheck series constraints, .error causes⟩) :
    (∃ earlier, moments = earlier ++ [moment]) ∧
      ∀ other ∈ moments, other.Idle ∨ other.Counts := by
  have hblame : moment.exchange.blame? =
      some (.provisioningRejected (Causes.render causes)) := by
    rw [hrefused]
    rfl
  have htask : (Task.request controller asked).procedure.run.Converses moments rest := h
  obtain ⟨hlast, error, rfl, -⟩ :=
    htask.last_of_blame (Task.prompt_procedure hadds.not_isReport) hmem hblame
  exact ⟨hlast, (Task.nothing_applied htask).2⟩

section Policy

variable (hpolicy : (⟨.prechecker, .ok false⟩ : Exchange) ∉ exchanges moments)

include hpolicy

/-- Whatever a request applies creates no root machine without a precheck. -/
theorem Request.prechecked_of_applies {earlier later : List Moment} {moment : Moment}
    {ops : List Op} (hadds : asked.AddsMachines)
    (h : (asked.procedure controller).run.Converses moments rest)
    (hmoments : moments = earlier ++ moment :: later) (happlies : moment.Applies ops) :
    moment.Prechecked (exchanges earlier) := by
  subst hmoments
  have hcall := h.call_allowed (asked.procedure_careful hadds controller)
  rw [List.nil_append, happlies.1] at hcall
  apply (hcall.2 ops rfl).prechecked happlies
  intro hmem
  apply hpolicy
  rw [exchanges, List.map_append]
  exact List.mem_append_left _ hmem

/-- A request to add machines that has its result has had one precheck for each of its templates
without an instance. -/
theorem Machine.addAll_prechecks {machines : List Machine}
    (h : (Machine.addAll raws).run.Converses moments (.done (.ok machines))) :
    ∃ templates : List Template,
      List.Forall₂ (fun raw template => ∃ defaults, raw.validate defaults true = .ok template)
        (raws.filter (·.knownInstance?.isNone)) templates ∧
      (exchanges moments).prechecks =
        templates.map fun template => (template.series, template.constraints, .ok ()) := by
  obtain ⟨plans, -, -, -, hvetted, -⟩ := Machine.addAll_vetted h
  obtain ⟨templates, htemplates, hprechecks⟩ := hvetted.prechecks_eq fun hmem =>
    hpolicy (History.admissions_subset _ hmem)
  rw [History.prechecks_admissions] at hprechecks
  exact ⟨templates, htemplates, hprechecks⟩

end Policy

/-- Where there is a prechecker, every root machine without an instance that a request creates was
accepted by it before, with the series and the constraints that are stored.  The templates of a
request for root machines are admitted in their order, as far as it comes; it has its result only
when all are, and then the prechecker was asked once about each one without an instance, and about
nothing else.  It is never asked about a container or about a machine whose instance is known.  A
refusal is the last that is heard, and nothing but counters was written before it. -/
theorem root_machines_are_prechecked (hadds : asked.AddsMachines)
    (h : (asked.procedure controller).run.Converses moments rest)
    (hpolicy : ∀ answer, (⟨.prechecker, answer⟩ : Exchange) ∈ exchanges moments →
      answer = .ok true) :
    (∀ (earlier : List Moment) (moment : Moment) (later : List Moment) (ops : List Op),
      moments = earlier ++ moment :: later → moment.Applies ops →
        moment.Prechecked (exchanges earlier)) ∧
      (∀ raws, asked = .addMachines raws →
        Vetting true raws (exchanges moments).admissions ∧
          ((∃ result, rest = .done (.ok result)) →
            ∃ (plans : List CreationPlan) (current : StateServers) (earlier : List Moment)
              (moment : Moment) (templates : List Template),
              Vetted raws plans (exchanges moments).admissions ∧ moments = earlier ++ [moment] ∧
                moment.Applies (Environment.checkAliveOp :: (plans.flatMap (·.ops) ++
                  (StateServers.addOp? (plans.map (·.machine)) current).toList)) ∧
                List.Forall₂
                  (fun raw template => ∃ defaults, raw.validate defaults true = .ok template)
                  (raws.filter (·.knownInstance?.isNone)) templates ∧
                (exchanges moments).prechecks = templates.map fun template =>
                  (template.series, template.constraints, .ok ()))) ∧
      (∀ series constraints verdict,
        (⟨.precheck series constraints, verdict⟩ : Exchange) ∈ exchanges moments →
          ∃ allowed raws, asked.Roots allowed raws ∧ ∃ raw ∈ raws, raw.knownInstance? = none ∧
            ∃ defaults template, raw.validate defaults allowed = .ok template ∧
              series = template.series ∧ constraints = template.constraints) ∧
      ∀ moment ∈ moments, ∀ series constraints causes,
        moment.exchange = ⟨.precheck series constraints, .error causes⟩ →
          (∃ earlier, moments = earlier ++ [moment]) ∧
            ∀ other ∈ moments, other.Idle ∨ other.Counts := by
  have hprechecker : (⟨.prechecker, .ok false⟩ : Exchange) ∉ exchanges moments :=
    fun hmem => nomatch hpolicy _ hmem
  refine ⟨?_, ?_, ?_, ?_⟩
  · intro earlier moment later ops hmoments happlies
    exact Request.prechecked_of_applies hprechecker hadds h hmoments happlies
  · rintro raws rfl
    constructor
    · cases Request.stage_of_converses hadds h with
      | roots hroots hvetting =>
        cases hroots
        exact hvetting
    · rintro ⟨machines, rfl⟩
      obtain ⟨plans, current, earlier, moment, hvetted, -, hlast, happlies⟩ :=
        Machine.addAll_vetted h
      obtain ⟨templates, htemplates, hprechecks⟩ := Machine.addAll_prechecks hprechecker h
      exact ⟨plans, current, earlier, moment, templates, hvetted, hlast, happlies, htemplates,
        hprechecks⟩
  · intro series constraints verdict hmem
    exact Request.of_mem_precheck hadds h hmem
  · intro moment hmem series constraints causes hrefused
    exact Request.ends_of_refusal hadds h hmem hrefused

end Requests

/-- What the policy has said on whether it has a prechecker. -/
def Exchange.prechecker? : Exchange → Option (Except Causes Bool)
  | ⟨.prechecker, answer⟩ => some answer
  | _ => none

/-- A request for two machines, the second of which has its instance. -/
def Request.pair : Request :=
  .addMachines
    [ { series := "jammy", jobs := [.hostUnits] },
      { series := "noble", jobs := [.hostUnits], instanceId := some ⟨"i-1"⟩, nonce := some "n" } ]

/-- Two machines are asked for, and only one of them has an instance: the prechecker is asked about
the other one. -/
theorem root_machines_are_prechecked_one_of_two :
    ∃ (moments : List Moment) (machines : List Machine) (constraints : Constraints),
      (Machine.addAll
          [ { series := "jammy", jobs := [.hostUnits] },
            { series := "noble", jobs := [.hostUnits], instanceId := some ⟨"i-1"⟩,
              nonce := some "n" } ]).run.Converses moments (.done (.ok machines)) ∧
        (exchanges moments).prechecks = [("jammy", constraints, .ok ())] := by
  obtain ⟨moments, hmoments, hpast, -⟩ :=
    (Request.pair.procedure World.usual).run.exists_converses_answered (some (.refusing []))
      (fun _ => false) World.founded.store []
  have hends : ((Request.pair.procedure World.usual).run.converse (some (.refusing []))
      (fun _ => false) World.founded.store []).1.endsWith Except.isOk = true := by decide +kernel
  have hasked : (((Request.pair.procedure World.usual).run.converse (some (.refusing []))
      (fun _ => false) World.founded.store []).2.2.filterMap Exchange.prechecker?).all
        (fun answer => answer.toOption == some true) = true := by decide +kernel
  obtain ⟨result, hresult, hok⟩ := Session.exists_of_endsWith hends
  rw [List.nil_append] at hpast
  cases result with
  | error error => cases hok
  | ok machines =>
    have hadds : Request.pair.AddsMachines := trivial
    rw [hresult] at hmoments
    have hpolicy : ∀ answer, (⟨.prechecker, answer⟩ : Exchange) ∈ exchanges moments →
        answer = .ok true := by
      intro answer hmem
      rw [hpast] at hmem
      have htest := List.all_eq_true.mp hasked answer (List.mem_filterMap.mpr ⟨_, hmem, rfl⟩)
      cases answer with
      | error causes => cases htest
      | ok hasPrechecker =>
        cases hasPrechecker with
        | false => cases htest
        | true => rfl
    obtain ⟨-, hroots, -⟩ := root_machines_are_prechecked hadds hmoments hpolicy
    obtain ⟨-, hdone⟩ := hroots _ rfl
    obtain ⟨_, _, _, _, templates, -, -, -, htemplates, hprechecks⟩ := hdone ⟨machines, rfl⟩
    cases htemplates with
    | cons hvalidate hrest =>
      obtain ⟨defaults, hvalidate⟩ := hvalidate
      cases hrest
      have hseries := congrArg Template.series (Template.eq_normalised_of_validate hvalidate)
      rw [List.map_singleton, hseries] at hprechecks
      exact ⟨moments, machines, _, hmoments, hprechecks⟩

end ControlPlane
