import ControlPlane.Proofs.Session.Conduct

/-!
# What a procedure ends with

`Procedure.Meets` is about the results of a procedure and lets its errors be.
`Procedure.Ends` is about both: the facts that hold when there is a result,
and those that hold when there is an error.  An error passes through whatever
was to follow, so the facts about errors are the same along a whole procedure.
-/

namespace ControlPlane

namespace Session

variable {α : Type} {allowed allowed' : History → Call → Prop} {post post' : History → α → Prop}
  {past : History} {session : Session α}

theorem Conforms.and (h : session.Conforms allowed post past)
    (h' : session.Conforms allowed' post' past) :
    session.Conforms (fun later call => allowed later call ∧ allowed' later call)
      (fun later a => post later a ∧ post' later a) past := by
  induction session generalizing past with
  | done result => exact ⟨h, h'⟩
  | ask call next ih => exact ⟨⟨h.1, h'.1⟩, fun answer => ih answer (h.2 answer) (h'.2 answer)⟩

/-- A property of histories that every allowed call keeps, whatever it is answered, holds at every
call and at the end. -/
theorem Conforms.keeps (property : History → Prop) (h : session.Conforms allowed post past)
    (hpast : property past)
    (hstep : ∀ later call answer, property later → allowed later call →
      property (later ++ [⟨call, answer⟩])) :
    session.Conforms (fun later call => property later ∧ allowed later call)
      (fun later a => property later ∧ post later a) past := by
  induction session generalizing past with
  | done result => exact ⟨hpast, h⟩
  | ask call next ih =>
    refine ⟨⟨hpast, h.1⟩, fun answer => ih answer (h.2 answer) ?_⟩
    exact hstep past call answer hpast h.1

end Session

namespace Procedure

variable {α β : Type} {allowed allowed' : History → Call → Prop} {past : History}

/-- What is known of a result, or of an error. -/
def Outcome (post : History → α → Prop) (fault : History → Error → Prop) (later : History) :
    Except Error α → Prop
  | .ok a => post later a
  | .error error => fault later error

/-- Every call of a procedure is allowed, and its result or its error is as described. -/
def Ends (allowed : History → Call → Prop) (past : History) (procedure : Procedure α)
    (post : History → α → Prop) (fault : History → Error → Prop) : Prop :=
  procedure.run.Conforms allowed (Outcome post fault) past

variable {post middle : History → α → Prop} {final : History → β → Prop}
  {fault fault' : History → Error → Prop} {procedure : Procedure α}

theorem ends_pure {a : α} (h : post past a) : Ends allowed past (pure a) post fault :=
  h

theorem ends_throw {error : Error} (h : fault past error) :
    Ends allowed past (throw error : Procedure α) post fault :=
  h

theorem Ends.bind {next : α → Procedure β} (h : Ends allowed past procedure middle fault)
    (hnext : ∀ later a, past <+: later → middle later a →
      Ends allowed later (next a) final fault) :
    Ends allowed past (procedure >>= next) final fault := by
  apply Session.Conforms.bind h
  intro later result hextend hresult
  cases result with
  | ok a => exact hnext later a hextend hresult
  | error error => exact ends_throw hresult

theorem Ends.mono {post' : History → α → Prop} (h : Ends allowed past procedure post fault)
    (hallowed : ∀ later call, past <+: later → allowed later call → allowed' later call)
    (hpost : ∀ later a, past <+: later → post later a → post' later a)
    (hfault : ∀ later error, past <+: later → fault later error → fault' later error) :
    Ends allowed' past procedure post' fault' := by
  apply Session.Conforms.mono h hallowed
  intro later result hextend hresult
  cases result with
  | ok a => exact hpost later a hextend hresult
  | error error => exact hfault later error hextend hresult

theorem Ends.weaken {post' : History → α → Prop} (h : Ends allowed past procedure post fault)
    (hpost : ∀ later a, past <+: later → post later a → post' later a) :
    Ends allowed past procedure post' fault :=
  h.mono (fun _ _ _ hcall => hcall) hpost fun _ _ _ hfault => hfault

theorem Ends.map {f : α → β}
    (h : Ends allowed past procedure (fun later a => final later (f a)) fault) :
    Ends allowed past (f <$> procedure) final fault := by
  rw [map_eq_pure_bind]
  exact h.bind fun _ _ _ hfinal => ends_pure hfinal

/-- Context is put on errors whose facts do not depend on it. -/
theorem Ends.inContext (h : Ends allowed past procedure post fault) (context : String)
    (hcontext : ∀ later error, fault later error → fault later (error.inContext context)) :
    Ends allowed past (inContext context procedure) post fault := by
  apply Session.Conforms.bind h
  intro later result _ hresult
  cases result with
  | ok a => exact hresult
  | error error => exact hcontext later error hresult

/-- An attempt has a result, which is that of the procedure or its error. -/
theorem Ends.attempt (h : Ends allowed past procedure post fault) :
    Ends allowed past (attempt procedure) (Outcome post fault) fault' := by
  apply Session.Conforms.bind h
  intro later result _ hresult
  exact hresult

/-- A call that is allowed adds one exchange to the history. -/
theorem ends_ask {call : Call} (hallowed : allowed past call) :
    Ends allowed past (ask call) (fun later answer => later = past ++ [⟨call, answer⟩]) fault :=
  ⟨hallowed, fun _ => rfl⟩

/-- What holds of the results by themselves may be added. -/
theorem Ends.and_meets (h : Ends allowed past procedure post fault)
    (hmeets : Meets (fun _ _ => True) past procedure middle) :
    Ends allowed past procedure (fun later a => post later a ∧ middle later a) fault := by
  apply Session.Conforms.mono (Session.Conforms.and h hmeets)
  · intro later call _ hcall
    exact hcall.1
  · intro later result _ hresult
    cases result with
    | ok a => exact ⟨hresult.1, hresult.2 a rfl⟩
    | error error => exact hresult.1

/-- The calls that are allowed do not matter for what is known of the results. -/
theorem Meets.anyCall (h : Meets allowed past procedure post) :
    Meets (fun _ _ => True) past procedure post :=
  Session.Conforms.mono h (fun _ _ _ _ => trivial) fun _ _ _ hresult => hresult

theorem Meets.and_meets {post' : History → α → Prop} (h : Meets allowed past procedure post)
    (hmeets : Meets (fun _ _ => True) past procedure post') :
    Meets allowed past procedure fun later a => post later a ∧ post' later a := by
  apply Session.Conforms.mono (Session.Conforms.and h hmeets)
  · intro later call _ hcall
    exact hcall.1
  · intro later result _ hresult a ha
    exact ⟨hresult.1 a ha, hresult.2 a ha⟩

theorem Meets.and {post' : History → α → Prop} (h : Meets allowed past procedure post)
    (h' : Meets allowed past procedure post') :
    Meets allowed past procedure fun later a => post later a ∧ post' later a :=
  h.and_meets h'.anyCall

end Procedure

end ControlPlane
