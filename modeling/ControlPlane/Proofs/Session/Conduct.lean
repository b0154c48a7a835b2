import ControlPlane.Procedure
import Mathlib.Data.List.Forall2

/-!
# The conduct of a session

A session is judged by what it calls, whatever it is answered.  `Conforms`
says that every call is allowed after the exchanges that came before it and
that the result fits the exchanges that led to it.  Facts about earlier
exchanges stay true as more of them follow, which is why the rules speak of a
later history as an extension of the one before.
-/

namespace ControlPlane

/-- A call with its answer. -/
structure Exchange where
  call : Call
  answer : call.Answer

/-- The exchanges of a session so far, the first one first. -/
abbrev History := List Exchange

namespace Session

variable {α β : Type} {allowed allowed' : History → Call → Prop}

/-- Every call of a session is allowed and its result is as described. -/
def Conforms (allowed : History → Call → Prop) (post : History → α → Prop) :
    Session α → History → Prop
  | done result, past => post past result
  | ask call next, past =>
    allowed past call ∧
      ∀ answer, (next answer).Conforms allowed post (past ++ [⟨call, answer⟩])

theorem Conforms.bind {session : Session α} {next : α → Session β} {past : History}
    {middle : History → α → Prop} {post : History → β → Prop}
    (h : session.Conforms allowed middle past)
    (hnext : ∀ later a, past <+: later → middle later a → (next a).Conforms allowed post later) :
    (session.bind next).Conforms allowed post past := by
  induction session generalizing past with
  | done result => exact hnext past result (List.prefix_refl past) h
  | ask call rest ih =>
    refine ⟨h.1, fun answer => ih answer (h.2 answer) ?_⟩
    intro later a hextend hmiddle
    exact hnext later a ((List.prefix_append _ _).trans hextend) hmiddle

theorem Conforms.mono {session : Session α} {past : History} {post post' : History → α → Prop}
    (h : session.Conforms allowed post past)
    (hallowed : ∀ later call, past <+: later → allowed later call → allowed' later call)
    (hpost : ∀ later a, past <+: later → post later a → post' later a) :
    session.Conforms allowed' post' past := by
  induction session generalizing past with
  | done result => exact hpost past result (List.prefix_refl past) h
  | ask call next ih =>
    refine ⟨hallowed past call (List.prefix_refl past) h.1,
      fun answer => ih answer (h.2 answer) ?_ ?_⟩
    · intro later call hextend
      exact hallowed later call ((List.prefix_append _ _).trans hextend)
    · intro later a hextend
      exact hpost later a ((List.prefix_append _ _).trans hextend)

end Session

namespace Procedure

variable {α β : Type} {allowed : History → Call → Prop} {past : History}

/-- Every call of a procedure is allowed, and its result is as described if it has one. -/
def Meets (allowed : History → Call → Prop) (past : History) (procedure : Procedure α)
    (post : History → α → Prop) : Prop :=
  procedure.run.Conforms allowed (fun later result => ∀ a, result = .ok a → post later a) past

variable {post : History → α → Prop}

theorem meets_pure {a : α} (h : post past a) : Meets allowed past (pure a) post := by
  intro b hb
  obtain rfl : a = b := Except.ok.inj hb
  exact h

theorem meets_throw (error : Error) : Meets allowed past (throw error) post :=
  fun _ h => nomatch h

theorem Meets.mono {procedure : Procedure α} {post' : History → α → Prop}
    (h : Meets allowed past procedure post)
    (hpost : ∀ later a, past <+: later → post later a → post' later a) :
    Meets allowed past procedure post' :=
  Session.Conforms.mono h (fun _ _ _ hcall => hcall)
    fun later _ hextend hresult a ha => hpost later a hextend (hresult a ha)

theorem Meets.bind {procedure : Procedure α} {next : α → Procedure β}
    {final : History → β → Prop} (h : Meets allowed past procedure post)
    (hnext : ∀ later a, past <+: later → post later a → Meets allowed later (next a) final) :
    Meets allowed past (procedure >>= next) final := by
  apply Session.Conforms.bind h
  intro later result hextend hresult
  cases result with
  | ok a => exact hnext later a hextend (hresult a rfl)
  | error error => exact meets_throw error

theorem Meets.map {procedure : Procedure α} {f : α → β} {final : History → β → Prop}
    (h : Meets allowed past procedure fun later a => final later (f a)) :
    Meets allowed past (f <$> procedure) final := by
  rw [map_eq_pure_bind]
  exact h.bind fun _ _ _ hfinal => meets_pure hfinal

/-- A call that is allowed adds one exchange to the history. -/
theorem meets_ask {call : Call} (hallowed : allowed past call) :
    Meets allowed past (ask call) fun later answer => later = past ++ [⟨call, answer⟩] := by
  refine ⟨hallowed, fun answer => ?_⟩
  intro result hresult
  obtain rfl : answer = result := Except.ok.inj hresult
  rfl

theorem meets_answered (answer : Except StoreError α) :
    Meets allowed past (answered answer) fun _ a => answer = .ok a := by
  cases answer with
  | ok a => exact meets_pure rfl
  | error error => exact meets_throw error.toError

theorem meets_decoded (decode : Json.Decoder α) (document : Json.Value) :
    Meets allowed past (decoded decode document) fun _ a => decode document = .ok a := by
  unfold decoded
  split
  · next a ha => exact meets_pure ha
  · exact meets_throw _

/-- What follows a check may rely on its outcome. -/
theorem Meets.unless {condition : Prop} [Decidable condition] {error : Error}
    {rest : PUnit → Procedure α} (h : ¬condition → Meets allowed past (rest ⟨⟩) post) :
    Meets allowed past (if condition then throw error >>= rest else rest ⟨⟩) post := by
  split
  · exact meets_throw error
  · next hcondition => exact h hcondition

theorem meets_liftM (decision : Except Error α) :
    Meets allowed past (liftM decision : Procedure α) fun _ a => decision = .ok a := by
  cases decision with
  | ok a => exact meets_pure rfl
  | error error => exact meets_throw error

theorem Meets.inContext {procedure : Procedure α} (h : Meets allowed past procedure post)
    (context : String) : Meets allowed past (inContext context procedure) post := by
  apply Session.Conforms.bind h
  intro later result _ hresult
  cases result with
  | ok a => exact meets_pure (hresult a rfl)
  | error error => exact meets_throw _

/-- An attempt always has a result, which is that of the procedure or its error. -/
theorem Meets.attempt {procedure : Procedure α} (h : Meets allowed past procedure post) :
    Meets allowed past (attempt procedure) fun later result =>
      ∀ a, result = .ok a → post later a := by
  apply Session.Conforms.bind h
  intro later result _ hresult
  exact meets_pure hresult

/-- A procedure for each item of a list, where what is known of each result stays true. -/
theorem meets_mapM {f : α → Procedure β} {items : List α} {result : α → History → β → Prop}
    (hstable : ∀ item past later b, past <+: later → result item past b → result item later b)
    (h : ∀ item ∈ items, ∀ later, past <+: later → Meets allowed later (f item) (result item)) :
    Meets allowed past (items.mapM f) fun later results =>
      List.Forall₂ (fun item b => result item later b) items results := by
  induction items generalizing past with
  | nil => exact meets_pure .nil
  | cons first rest ih =>
    rw [List.mapM_cons]
    apply (h first List.mem_cons_self past (List.prefix_refl past)).bind
    intro later b hextend hb
    have hrest : Meets allowed later (rest.mapM f) _ := ih fun item hitem after hafter =>
      h item (List.mem_cons_of_mem _ hitem) after (hextend.trans hafter)
    apply hrest.bind
    intro final results hfinal hresults
    exact meets_pure (.cons (hstable first later final b hfinal hb) hresults)

end Procedure

end ControlPlane
