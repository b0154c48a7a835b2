import ControlPlane.Proofs.Session.Admission
import ControlPlane.Proofs.Undisturbed.Planning

/-!
# Vetting the templates of root machines

The templates of a request are taken one after the other.  For each the policy
is asked unless its instance exists already, and then a number is drawn; the
next template is taken only when the number is there.  `Vetting` describes how
far a request has come with its templates, and `Vetted` that it is through with
them.
-/

namespace ControlPlane

open Json Store Procedure

/-- The number of a root machine is drawn, with an answer. -/
abbrev rootDraw (answer : Except StoreError Nat) : Exchange :=
  ⟨.increment Layout.sequence MachineId.rootCounter "counter", answer⟩

namespace Template

/-- The policy has been asked all there is to ask about a template that has passed its check, and
nothing stands in its way. -/
inductive Cleared (template : Template) : History → Prop where
  | known (hinstance : template.knownInstance?.isSome = true) : Cleared template []
  | unchecked (hinstance : template.knownInstance? = none) :
      Cleared template [⟨.prechecker, .ok false⟩]
  | prechecked (hinstance : template.knownInstance? = none) :
      Cleared template
        [⟨.prechecker, .ok true⟩, ⟨.precheck template.series template.constraints, .ok ()⟩]

/-- A template is admitted: it has passed its check as another one, which is cleared, and then a
number is drawn. -/
inductive Admitted (raw : Template) (allowed : Bool) : Template → Nat → History → Prop where
  | intro {defaults : Constraints} {template : Template} {questions : History}
      (hvalidate : raw.validate defaults allowed = .ok template)
      (hcleared : template.Cleared questions) (number : Nat) :
      Admitted raw allowed template number (questions ++ [rootDraw (.ok number)])

/-- How far the admission of a template may have come, with any answer to the last call. -/
inductive Begun (raw : Template) (allowed : Bool) : History → Prop where
  | unasked : Begun raw allowed []
  | asked {defaults : Constraints} {template : Template}
      (hvalidate : raw.validate defaults allowed = .ok template)
      (hinstance : template.knownInstance? = none) (answer : Except Causes Bool) :
      Begun raw allowed [⟨.prechecker, answer⟩]
  | prechecked {defaults : Constraints} {template : Template}
      (hvalidate : raw.validate defaults allowed = .ok template)
      (hinstance : template.knownInstance? = none) (answer : Except Causes Unit) :
      Begun raw allowed
        [⟨.prechecker, .ok true⟩, ⟨.precheck template.series template.constraints, answer⟩]
  | drawn {defaults : Constraints} {template : Template} {questions : History}
      (hvalidate : raw.validate defaults allowed = .ok template)
      (hcleared : template.Cleared questions) (answer : Except StoreError Nat) :
      Begun raw allowed (questions ++ [rootDraw answer])

end Template

/-- How far the admission of templates may have come: some of them, from the first one on, have
been admitted, and the next one is begun. -/
inductive Vetting (allowed : Bool) : List Template → History → Prop where
  | nil : Vetting allowed [] []
  | begun {raw : Template} {trace : History} (h : raw.Begun allowed trace) (rest : List Template) :
      Vetting allowed (raw :: rest) trace
  | next {raw template : Template} {number : Nat} {part trace : History} {rest : List Template}
      (h : raw.Admitted allowed template number part) (hrest : Vetting allowed rest trace) :
      Vetting allowed (raw :: rest) (part ++ trace)

/-- All templates have been admitted, and their plans have the numbers that were drawn. -/
inductive Vetted : List Template → List CreationPlan → History → Prop where
  | nil : Vetted [] [] []
  | next {raw template : Template} {number : Nat} {part trace : History} {rest : List Template}
      {plans : List CreationPlan} (h : raw.Admitted true template number part)
      (hrest : Vetted rest plans trace) :
      Vetted (raw :: rest) (.ofRoot template (MachineId.root number) :: plans) (part ++ trace)

variable {allowed : Bool} {raw template : Template} {past : History}
  {stage : History → Prop} {submits : History → List Op → Prop}

/-! ## Admitting one template -/

theorem Template.Admitted.begun {number : Nat} {part : History}
    (h : raw.Admitted allowed template number part) : raw.Begun allowed part := by
  cases h with
  | intro hvalidate hcleared => exact .drawn hvalidate hcleared (.ok number)

theorem Vetting.start (allowed : Bool) (raws : List Template) : Vetting allowed raws [] := by
  cases raws with
  | nil => exact .nil
  | cons raw rest => exact .begun .unasked rest

theorem Vetted.vetting {raws : List Template} {plans : List CreationPlan} {trace : History}
    (h : Vetted raws plans trace) : Vetting true raws trace := by
  induction h with
  | nil => exact .nil
  | next hadmitted _ ih => exact .next hadmitted ih

/-- Reading and drawing the numbers of containers have nothing to do with admissions. -/
theorem calls_aside_get (collection id : String) :
    (ask (.get collection id) >>= answered).Calls Call.IsAside :=
  calls_get (fun _ _ => trivial) collection id

theorem calls_aside_container (parent : String) (kind : ContainerType) :
    (nextNumber (MachineId.containerCounter parent kind)).Calls Call.IsAside :=
  calls_nextNumber (MachineId.containerCounter_ne_rootCounter parent kind)

theorem Template.knownInstance?_of_validate {defaults : Constraints}
    (h : raw.validate defaults allowed = .ok template) :
    template.knownInstance? = raw.knownInstance? := by
  rw [eq_normalised_of_validate h, knownInstance?_normalised]

section Admitting

variable (base : History) (hstage : ∀ trace, raw.Begun allowed trace → stage (base ++ trace))

include hstage

theorem Template.effective_careful (hpast : past.admissions = base) :
    Meets (Careful stage submits) past (raw.effective allowed) fun later template =>
      later.admissions = base ∧ raw.Accepted allowed later template := by
  have haside := (calls_closed Call.IsAside).effective (calls_get fun _ _ => trivial) raw allowed
  have hunasked := hstage [] .unasked
  rw [List.append_nil, ← hpast] at hunasked
  apply (haside.careful hunasked (raw.effective_meets allowed)).mono
  rintro later template - ⟨hsame, haccepted⟩
  exact ⟨hsame.trans hpast, haccepted⟩

theorem precheck_careful {defaults : Constraints} (hpast : past.admissions = base)
    (hvalidate : raw.validate defaults allowed = .ok template)
    (hinstance : template.knownInstance? = none) :
    Meets (Careful stage submits) past (precheck template.series template.constraints)
      fun later _ => ∃ questions, template.Cleared questions ∧
        later.admissions = base ++ questions := by
  have hprechecker : Careful stage submits past .prechecker := by
    refine ⟨fun answer => ?_, nofun⟩
    rw [History.admissions_append past rfl, hpast]
    exact hstage _ (.asked hvalidate hinstance answer)
  unfold precheck
  apply (meets_ask hprechecker).bind
  rintro asked answer - rfl
  have hasked : History.admissions (past ++ [⟨.prechecker, answer⟩]) =
      base ++ [⟨.prechecker, answer⟩] := by
    rw [History.admissions_append past rfl, hpast]
  split
  · exact meets_throw _
  · exact meets_pure ⟨_, .unchecked hinstance, hasked⟩
  · have hprecheck : Careful stage submits (past ++ [⟨.prechecker, .ok true⟩])
        (.precheck template.series template.constraints) := by
      refine ⟨fun answer => ?_, nofun⟩
      rw [History.admissions_append _ rfl, hasked, List.append_assoc]
      exact hstage _ (.prechecked hvalidate hinstance answer)
    apply (meets_ask hprecheck).bind
    rintro later verdict - rfl
    split
    · apply meets_pure
      refine ⟨_, .prechecked hinstance, ?_⟩
      rw [History.admissions_append _ rfl, hasked, List.append_assoc]
      rfl
    · exact meets_throw _

theorem MachineId.nextRoot_careful {defaults : Constraints} {questions : History}
    (hpast : past.admissions = base ++ questions)
    (hvalidate : raw.validate defaults allowed = .ok template)
    (hcleared : template.Cleared questions) :
    Meets (Careful stage submits) past nextRoot fun later id => ∃ number part,
      raw.Admitted allowed template number part ∧ id = root number ∧
        later.admissions = base ++ part := by
  have hdraw : Careful stage submits past
      (.increment Layout.sequence MachineId.rootCounter "counter") := by
    refine ⟨fun answer => ?_, nofun⟩
    rw [History.admissions_append past rfl, hpast, List.append_assoc]
    exact hstage _ (.drawn hvalidate hcleared answer)
  apply Meets.map
  apply Meets.inContext
  apply (meets_ask hdraw).bind
  rintro asked answer - rfl
  cases answer with
  | error failure => exact meets_throw _
  | ok number =>
    apply meets_pure
    refine ⟨number, _, .intro hvalidate hcleared number, rfl, ?_⟩
    rw [History.admissions_append past rfl, hpast, List.append_assoc]

end Admitting

namespace CreationPlan

theorem root_careful (base : History)
    (hstage : ∀ trace, raw.Begun true trace → stage (base ++ trace))
    (hpast : past.admissions = base) :
    Meets (Careful stage submits) past (root raw) fun later plan => ∃ template number part,
      raw.Admitted true template number part ∧ plan = ofRoot template (MachineId.root number) ∧
        later.admissions = base ++ part := by
  unfold root
  apply (Template.effective_careful base hstage hpast).bind
  rintro checked template - ⟨hchecked, defaults, -, hvalidate⟩
  have hdraw : ∀ (later : History) (questions : History), template.Cleared questions →
      later.admissions = base ++ questions →
        Meets (Careful stage submits) later (do return ofRoot template (← MachineId.nextRoot))
          fun later plan => ∃ template number part, raw.Admitted true template number part ∧
            plan = ofRoot template (MachineId.root number) ∧ later.admissions = base ++ part := by
    intro later questions hcleared hlater
    apply (MachineId.nextRoot_careful base hstage hlater hvalidate hcleared).bind
    rintro drawn id - ⟨number, part, hadmitted, rfl, hdrawn⟩
    exact meets_pure ⟨template, number, part, hadmitted, rfl, hdrawn⟩
  split
  · next hinstance =>
    have hinstance := Option.isNone_iff_eq_none.mp hinstance
    apply (precheck_careful base hstage hchecked hvalidate hinstance).bind
    rintro later _ - ⟨questions, hcleared, hlater⟩
    exact hdraw later questions hcleared hlater
  · next hinstance =>
    apply hdraw checked [] (.known (by simpa [Option.isSome_iff_ne_none] using hinstance))
    rw [hchecked, List.append_nil]

/-- The templates are admitted in their order, each before the next one is begun. -/
theorem roots_careful (raws : List Template) (base : History)
    (hstage : ∀ trace, Vetting true raws trace → stage (base ++ trace))
    (hpast : past.admissions = base) :
    Meets (Careful stage submits) past (raws.mapM root) fun later plans => ∃ trace,
      Vetted raws plans trace ∧ later.admissions = base ++ trace := by
  induction raws generalizing past base with
  | nil =>
    apply meets_pure
    exact ⟨[], .nil, hpast.trans (List.append_nil base).symm⟩
  | cons raw rest ih =>
    rw [List.mapM_cons]
    apply (root_careful base (fun trace hbegun => hstage trace (.begun hbegun rest)) hpast).bind
    rintro middle plan - ⟨template, number, part, hadmitted, rfl, hmiddle⟩
    have hrest : ∀ trace, Vetting true rest trace → stage (base ++ part ++ trace) := by
      intro trace htrace
      rw [List.append_assoc]
      exact hstage _ (.next hadmitted htrace)
    apply (ih _ hrest hmiddle).bind
    rintro later plans - ⟨trace, hvetted, hlater⟩
    apply meets_pure
    exact ⟨_, .next hadmitted hvetted, hlater.trans (List.append_assoc ..)⟩

/-- The host of a new container is admitted as every other root machine. -/
theorem insideNew_careful (raw rawParent : Template) (kind : ContainerType)
    (hstage : ∀ trace, rawParent.Begun false trace → stage trace) (hpast : past.admissions = []) :
    Meets (Careful stage submits) past (insideNew raw rawParent kind) fun later plan =>
      ∃ template parentTemplate parentNumber number, raw.Accepted false later template ∧
        rawParent.Accepted false later parentTemplate ∧
          rawParent.Admitted false parentTemplate parentNumber later.admissions ∧
            plan = ofInsideNew template parentTemplate kind (MachineId.root parentNumber)
              (MachineId.container (MachineId.root parentNumber) kind number) := by
  have haside := calls_closed Call.IsAside
  unfold insideNew
  apply (meets_decision raw.refuseInstance).bind
  rintro _ _ - ⟨rfl, -⟩
  apply (meets_decision rawParent.refuseInstance).bind
  rintro _ _ - ⟨rfl, hinstance⟩
  have hinstance := Template.knownInstance?_of_refuseInstance hinstance
  apply (Template.effective_careful [] hstage hpast).bind
  rintro parentChecked parentTemplate - ⟨hparentChecked, defaults, hfound, hvalidate⟩
  apply (meets_decision (requireContainer kind)).bind
  rintro _ _ - ⟨rfl, -⟩
  have hunasked := hstage [] .unasked
  rw [← hparentChecked] at hunasked
  apply ((haside.effective calls_aside_get raw false).careful hunasked
    (raw.effective_meets false)).bind
  rintro checked template hchecked ⟨hsame, haccepted⟩
  have hknown := (Template.knownInstance?_of_validate hvalidate).trans hinstance
  apply (precheck_careful [] hstage (hsame.trans hparentChecked) hvalidate hknown).bind
  rintro prechecked _ hprechecked ⟨questions, hcleared, hquestions⟩
  apply (MachineId.nextRoot_careful [] hstage hquestions hvalidate hcleared).bind
  rintro parentDrawn _ hparentDrawn ⟨parentNumber, part, hadmitted, rfl, hpart⟩
  rw [List.nil_append] at hpart
  subst hpart
  have hcontainer := haside.map
    (calls_aside_container (MachineId.root parentNumber) kind)
    (MachineId.container (MachineId.root parentNumber) kind)
  apply (hcontainer.careful (hstage _ hadmitted.begun)
    (MachineId.nextContainer_meets (MachineId.root parentNumber) kind)).bind
  rintro drawn _ hdrawn ⟨hsame', number, -, rfl⟩
  have hextend : checked <+: drawn := hprechecked.trans (hparentDrawn.trans hdrawn)
  apply meets_pure
  exact ⟨template, parentTemplate, parentNumber, number, haccepted.mono hextend,
    ⟨defaults, hfound.mono (hchecked.trans hextend), hvalidate⟩, hsame' ▸ hadmitted, rfl⟩

end CreationPlan

/-! ## Requests that add machines -/

/-- The request adds machines. -/
def Request.AddsMachines : Request → Prop
  | ensureAvailability _ _ _ => True
  | addMachines _ => True
  | addMachine _ => True
  | addInside _ _ _ => True
  | addInsideNew _ _ _ => True
  | _ => False

namespace Request

/-- The templates of the root machines that a request adds.  How many state servers are missing is
known only when their lists have been read. -/
inductive Roots : Request → Bool → List Template → Prop where
  | addMachines (raws : List Template) : Roots (.addMachines raws) true raws
  | addMachine (raw : Template) : Roots (.addMachine raw) true [raw]
  | ensureAvailability (target : Nat) (constraints : Constraints) (series : String)
      (missing : Nat) :
      Roots (.ensureAvailability target constraints series) true
        (List.replicate missing (Controller.serverTemplate series constraints))
  | addInsideNew (raw rawParent : Template) (kind : ContainerType) :
      Roots (.addInsideNew raw rawParent kind) false [rawParent]

/-- How far a request may have come with the admission of machines; containers need none. -/
inductive Stage : Request → History → Prop where
  | roots {asked : Request} {allowed : Bool} {raws : List Template} {trace : History}
      (hroots : asked.Roots allowed raws) (h : Vetting allowed raws trace) : Stage asked trace
  | inside (raw : Template) (parent : String) (kind : ContainerType) :
      Stage (.addInside raw parent kind) []

/-- The transaction of a request that adds machines, after their admission. -/
inductive Provides : Request → History → List Op → Prop where
  | roots {asked : Request} {raws : List Template} {plans : List CreationPlan} {past : History}
      (hroots : asked.Roots true raws) (hvetted : Vetted raws plans past.admissions)
      (current : StateServers) :
      Provides asked past
        (Environment.checkAliveOp :: (plans.flatMap (·.ops) ++
          (StateServers.addOp? (plans.map (·.machine)) current).toList))
  | inside (raw template : Template) (parent : String) (kind : ContainerType) (number : Nat)
      {past : History} (haccepted : raw.Accepted false past template) :
      Provides (.addInside raw parent kind) past
        (Environment.checkAliveOp ::
          (CreationPlan.ofInside template parent kind
            (MachineId.container parent kind number)).ops)
  | insideNew {raw rawParent template parentTemplate : Template} {kind : ContainerType}
      {parentNumber : Nat} {past : History} (haccepted : raw.Accepted false past template)
      (hparent : rawParent.Accepted false past parentTemplate)
      (hadmitted : rawParent.Admitted false parentTemplate parentNumber past.admissions)
      (number : Nat) :
      Provides (.addInsideNew raw rawParent kind) past
        (Environment.checkAliveOp ::
          (CreationPlan.ofInsideNew template parentTemplate kind (MachineId.root parentNumber)
            (MachineId.container (MachineId.root parentNumber) kind number)).ops)

end Request

namespace Machine

variable {raws : List Template}

/-- Root machines are added by one transaction, after all their templates have been admitted. -/
theorem addAll_careful
    (hstage : ∀ trace, Vetting true raws trace → stage trace)
    (hsubmits : ∀ (plans : List CreationPlan) (past : History) (current : StateServers),
      Vetted raws plans past.admissions →
        submits past (Environment.checkAliveOp :: (plans.flatMap (·.ops) ++
          (StateServers.addOp? (plans.map (·.machine)) current).toList))) :
    Meets (Careful stage submits) [] (addAll raws) fun later machines =>
      ∃ (asked : History) (plans : List CreationPlan) (current : StateServers),
        Vetted raws plans asked.admissions ∧
          List.Forall₂ (fun raw plan => plan.IsRoot raw asked) raws plans ∧
          machines = plans.map (·.machine) ∧
          later = asked ++ [⟨.transact (Environment.checkAliveOp :: (plans.flatMap (·.ops) ++
            (StateServers.addOp? (plans.map (·.machine)) current).toList)), .ok ()⟩] := by
  have haside := calls_closed Call.IsAside
  have hunasked : stage (History.admissions []) := hstage [] (.start true raws)
  unfold addAll
  apply Meets.inContext
  apply ((haside.requireAlive calls_aside_get).careful hunasked
    Environment.requireAlive_meets).bind
  rintro alive _ - ⟨halive, -⟩
  have hroots : Meets (Lawful 1) alive (raws.mapM CreationPlan.root) _ :=
    CreationPlan.roots_meets_each raws
  apply ((CreationPlan.roots_careful raws [] hstage halive).and_meets hroots.anyCall).bind
  rintro planned plans - ⟨⟨trace, hvetted, hplanned⟩, hroots⟩
  rw [List.nil_append] at hplanned
  subst hplanned
  have hthrough := hstage _ hvetted.vetting
  apply ((haside.bootstrapOps calls_aside_get _).careful hthrough
    (StateServers.bootstrapOps_meets_bootstraps _)).bind
  rintro later _ hlater ⟨hsame, current, rfl, -⟩
  rw [← hsame] at hvetted hthrough
  apply (commit_careful hthrough fun final _ hfinal =>
    hsubmits plans final current (hfinal ▸ hvetted)).bind
  rintro final _ - ⟨asked, hextend, hasked, hfinal⟩
  exact meets_pure ⟨asked, plans, current, hasked ▸ hvetted,
    hroots.imp fun _ _ hroot => hroot.mono (hlater.trans hextend), rfl, hfinal⟩

/-- One root machine is added as a list of one. -/
theorem add_careful {raw : Template}
    (hstage : ∀ trace, Vetting true [raw] trace → stage trace)
    (hsubmits : ∀ (plans : List CreationPlan) (past : History) (current : StateServers),
      Vetted [raw] plans past.admissions →
        submits past (Environment.checkAliveOp :: (plans.flatMap (·.ops) ++
          (StateServers.addOp? (plans.map (·.machine)) current).toList))) :
    Meets (Careful stage submits) [] (add raw) fun later machine =>
      ∃ (asked : History) (plan : CreationPlan) (current : StateServers),
        plan.IsRoot raw asked ∧ machine = plan.machine ∧
          later = asked ++ [⟨.transact (Environment.checkAliveOp :: ([plan].flatMap (·.ops) ++
            (StateServers.addOp? ([plan].map (·.machine)) current).toList)), .ok ()⟩] := by
  unfold add
  apply (addAll_careful hstage hsubmits).bind
  rintro later machines - ⟨asked, plans, current, -, hroots, rfl, hlater⟩
  cases hroots with
  | cons hroot hrest =>
    cases hrest
    exact meets_pure ⟨asked, _, current, hroot, rfl, hlater⟩

theorem addInside_careful (raw : Template) (parent : String) (kind : ContainerType) :
    Meets (Careful (Request.Stage (.addInside raw parent kind))
        (Request.Provides (.addInside raw parent kind))) [] (addInside raw parent kind)
      fun later machine => ∃ (asked : History) (template : Template) (number : Nat),
        raw.Accepted false asked template ∧
          machine = template.machine (MachineId.container parent kind number) (some kind) ∧
          later = asked ++ [⟨.transact (Environment.checkAliveOp ::
            (CreationPlan.ofInside template parent kind
              (MachineId.container parent kind number)).ops), .ok ()⟩] := by
  have haside := calls_closed Call.IsAside
  have hstage : Request.Stage (.addInside raw parent kind) (History.admissions []) :=
    .inside raw parent kind
  unfold addInside
  apply ((haside.requireAlive calls_aside_get).careful hstage
    Environment.requireAlive_meets).bind
  rintro alive _ - ⟨halive, -⟩
  rw [← halive] at hstage
  apply ((haside.inside calls_aside_get calls_aside_container raw parent kind).careful hstage
    (CreationPlan.inside_meets raw parent kind)).bind
  rintro later _ - ⟨hlater, template, number, host, hplan, rfl⟩
  rw [← hlater] at hstage
  apply (commit_careful hstage fun final hextend _ =>
    .inside raw template parent kind number (hplan.accepted.mono hextend)).bind
  rintro final _ - ⟨asked, hextend, -, hfinal⟩
  exact meets_pure ⟨asked, template, number, hplan.accepted.mono hextend, rfl, hfinal⟩

theorem addInsideNew_careful (raw rawParent : Template) (kind : ContainerType) :
    Meets (Careful (Request.Stage (.addInsideNew raw rawParent kind))
        (Request.Provides (.addInsideNew raw rawParent kind))) []
      (addInsideNew raw rawParent kind) fun later machine =>
        ∃ (asked : History) (template parentTemplate : Template) (parentNumber number : Nat),
          raw.Accepted false asked template ∧ rawParent.Accepted false asked parentTemplate ∧
            machine = template.machine
              (MachineId.container (MachineId.root parentNumber) kind number) (some kind) ∧
            later = asked ++ [⟨.transact (Environment.checkAliveOp ::
              (CreationPlan.ofInsideNew template parentTemplate kind (MachineId.root parentNumber)
                (MachineId.container (MachineId.root parentNumber) kind number)).ops),
                  .ok ()⟩] := by
  have haside := calls_closed Call.IsAside
  have hbegun : ∀ trace, rawParent.Begun false trace →
      Request.Stage (.addInsideNew raw rawParent kind) trace := fun trace hbegun =>
    .roots (.addInsideNew raw rawParent kind) (.begun hbegun [])
  unfold addInsideNew
  apply ((haside.requireAlive calls_aside_get).careful (hbegun _ .unasked)
    Environment.requireAlive_meets).bind
  rintro alive _ - ⟨halive, -⟩
  apply (CreationPlan.insideNew_careful raw rawParent kind hbegun halive).bind
  rintro later _ - ⟨template, parentTemplate, parentNumber, number, haccepted, hparent, hadmitted,
    rfl⟩
  apply (commit_careful (hbegun _ hadmitted.begun) fun final hextend hfinal =>
    .insideNew (haccepted.mono hextend) (hparent.mono hextend) (hfinal ▸ hadmitted) number).bind
  rintro final _ - ⟨asked, hextend, -, hfinal⟩
  exact meets_pure ⟨asked, template, parentTemplate, parentNumber, number,
    haccepted.mono hextend, hparent.mono hextend, rfl, hfinal⟩

end Machine

theorem Controller.ensureAvailability_careful (controller : Controller) (target : Nat)
    (constraints : Constraints) (series : String) :
    Meets (Careful (Request.Stage (.ensureAvailability target constraints series))
        (Request.Provides (.ensureAvailability target constraints series))) []
      (controller.ensureAvailability target constraints series) fun _ _ => True := by
  have haside := calls_closed Call.IsAside
  have hroots := Request.Roots.ensureAvailability target constraints series
  have hunasked : Request.Stage (.ensureAvailability target constraints series)
      (History.admissions []) := .roots (hroots 0) .nil
  unfold ensureAvailability
  apply (meets_decision _).bind
  rintro _ _ - ⟨rfl, -⟩
  apply ((haside.requireAlive calls_aside_get).careful hunasked
    Environment.requireAlive_meets).bind
  rintro alive _ - ⟨halive, -⟩
  rw [← halive] at hunasked
  apply ((haside.stateServers calls_aside_get).careful hunasked StateServers.fetch_meets).bind
  rintro read current - ⟨hread, -⟩
  apply (meets_decision _).bind
  rintro _ missing - ⟨rfl, -⟩
  split
  · exact meets_pure trivial
  · apply (CreationPlan.roots_careful _ [] (fun trace => .roots (hroots missing))
      (hread.trans halive)).bind
    rintro planned plans - ⟨trace, hvetted, hplanned⟩
    rw [List.nil_append] at hplanned
    subst hplanned
    apply Meets.unless
    intro _
    apply Meets.inContext
    have hcommit := commit_careful (Request.Stage.roots (hroots missing) hvetted.vetting)
      fun final _ hfinal => Request.Provides.roots (hroots missing) (hfinal ▸ hvetted) current
    exact hcommit.mono fun _ _ _ _ => trivial

theorem Request.procedure_careful {asked : Request} (hadds : asked.AddsMachines)
    (controller : Controller) :
    Meets (Careful asked.Stage asked.Provides) [] (asked.procedure controller)
      fun _ _ => True := by
  cases asked with
  | ensureAvailability target constraints series =>
    exact controller.ensureAvailability_careful target constraints series
  | addMachines raws =>
    apply (Machine.addAll_careful (fun trace => .roots (.addMachines raws))
      fun plans past current hvetted => .roots (.addMachines raws) hvetted current).mono
    exact fun _ _ _ _ => trivial
  | addMachine raw =>
    apply (Machine.add_careful (fun trace => .roots (.addMachine raw))
      fun plans past current hvetted => .roots (.addMachine raw) hvetted current).mono
    exact fun _ _ _ _ => trivial
  | addInside raw parent kind =>
    apply (Machine.addInside_careful raw parent kind).mono
    exact fun _ _ _ _ => trivial
  | addInsideNew raw rawParent kind =>
    apply (Machine.addInsideNew_careful raw rawParent kind).mono
    exact fun _ _ _ _ => trivial
  | _ => cases hadds

end ControlPlane
