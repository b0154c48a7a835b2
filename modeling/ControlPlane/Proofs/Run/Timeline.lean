import ControlPlane.Proofs.Run.Basic

/-!
# When things happen in a run

What a thread has asked it has asked in the course of the run, one exchange
after the other and each of them in a step of its own.  So a run can be cut
where a thread has had an exchange, and at that moment the store was as the
answer says.
-/

namespace ControlPlane

open Json Store

variable {world middle later : World} {event : Event} {events events' : List Event}
  {index : Nat} {thread : Thread} {exchange : Exchange} {past rest : History}

theorem Run.trans (h : Run world events middle) (h' : Run middle events' later) :
    Run world (events ++ events') later := by
  induction h' with
  | nil => simpa using h
  | snoc _ hlast ih =>
    rw [← List.append_assoc]
    exact ih.snoc hlast

theorem Run.cons (h : Step world event middle) (h' : Run middle events later) :
    Run world (event :: events) later :=
  (Run.nil.snoc h).trans h'

/-- In one step a thread stays as it is, is begun, or has one exchange. -/
theorem Step.thread_cases (h : Step world event later)
    (hthread : later.threads[index]? = some thread) :
    world.threads[index]? = some thread ∨
      world.threads.length ≤ index ∧ thread = .start thread.task ∨
      ∃ before exchange, world.threads[index]? = some before ∧
        event = .exchanged index exchange ∧ thread.task = before.task ∧
        thread.past = before.past ++ [exchange] := by
  have hbegin : ∀ task, (world.begin task).threads[index]? = some thread →
      world.threads[index]? = some thread ∨
        world.threads.length ≤ index ∧ thread = .start thread.task := by
    intro task hthread
    rcases Nat.lt_or_ge index world.threads.length with hold | hnew
    · exact .inl ((List.getElem?_append_left hold).symm.trans hthread)
    · have hmem := (List.getElem?_append_right hnew).symm.trans hthread
      obtain rfl : thread = .start task :=
        List.mem_singleton.mp (List.mem_of_getElem? hmem)
      exact .inr ⟨hnew, rfl⟩
  cases h with
  | attach _ => exact .inl hthread
  | established _ => exact .inl hthread
  | establish _ _ _ => exact (hbegin _ hthread).imp_right .inl
  | request _ _ => exact (hbegin _ hthread).imp_right .inl
  | @exchange asking before call next answer after hbefore hrest hanswer =>
    by_cases hindex : asking = index
    · subst hindex
      rw [List.getElem?_set_self (List.getElem?_eq_some_iff.mp hbefore).1] at hthread
      obtain rfl := Option.some.inj hthread
      exact .inr (.inr ⟨before, _, hbefore, rfl, rfl, rfl⟩)
    · rw [List.getElem?_set_ne hindex] at hthread
      exact .inl hthread

/-- The exchange that a thread has in an event. -/
def Event.exchange? (index : Nat) : Event → Option Exchange
  | exchanged other exchange => if other = index then some exchange else none
  | _ => none

/-- What the thread with an index has asked so far, which is nothing before it is begun. -/
def World.pastOf (world : World) (index : Nat) : History :=
  (world.threads[index]?.map (·.past)).getD []

theorem World.pastOf_eq (hthread : world.threads[index]? = some thread) :
    world.pastOf index = thread.past := by
  rw [pastOf, hthread]
  rfl

theorem World.pastOf_begin (world : World) (task : Task) (index : Nat) :
    (world.begin task).pastOf index = world.pastOf index := by
  unfold pastOf begin
  rcases Nat.lt_or_ge index world.threads.length with hold | hnew
  · rw [List.getElem?_append_left hold]
  · rw [List.getElem?_append_right hnew, List.getElem?_eq_none hnew]
    cases hother : [Thread.start task][index - world.threads.length]? with
    | none => rfl
    | some thread =>
      rw [List.mem_singleton.mp (List.mem_of_getElem? hother)]
      rfl

theorem Step.pastOf_eq (h : Step world event later) (index : Nat) :
    later.pastOf index = world.pastOf index ++ (event.exchange? index).toList := by
  cases h with
  | attach _ => exact (List.append_nil _).symm
  | established _ => exact (List.append_nil _).symm
  | establish _ _ _ => exact (world.pastOf_begin _ index).trans (List.append_nil _).symm
  | request _ _ => exact (world.pastOf_begin _ index).trans (List.append_nil _).symm
  | @exchange asking thread call next answer after hthread hrest hanswer =>
    by_cases hindex : asking = index
    · subst hindex
      have hlength := (List.getElem?_eq_some_iff.mp hthread).1
      rw [World.pastOf_eq hthread, Event.exchange?, if_pos rfl, World.pastOf,
        List.getElem?_set_self hlength]
      rfl
    · rw [Event.exchange?, if_neg hindex, Option.toList_none, List.append_nil, World.pastOf,
        World.pastOf, List.getElem?_set_ne hindex]

/-- What a thread asks in the course of a run is what it has asked by its end. -/
theorem Run.pastOf_eq (hrun : Run world events later) (index : Nat) :
    later.pastOf index = world.pastOf index ++ events.filterMap (·.exchange? index) := by
  induction hrun with
  | nil => exact (List.append_nil _).symm
  | @snoc events event middle later _ hlast ih =>
    have hevent : [event].filterMap (·.exchange? index) = (event.exchange? index).toList := by
      rw [List.filterMap_cons]
      cases event.exchange? index with
      | none => rfl
      | some exchange => rfl
    rw [hlast.pastOf_eq, ih, List.append_assoc, List.filterMap_append, hevent]

/-- What holds of a thread when it is begun and is kept by each of its exchanges holds of the
threads of every reachable world. -/
theorem Reachable.threads_induct (property : Thread → Prop)
    (hstart : ∀ task, property (.start task))
    (hadvance : ∀ {thread : Thread} {call : Call}
      {next : call.Answer → Session (Except Error thread.task.Result)} (answer : call.Answer),
      property thread → thread.rest = .ask call next →
        property (thread.advance ⟨call, answer⟩ (next answer)))
    (h : Reachable world) : ∀ thread ∈ world.threads, property thread := by
  apply h.induct
  · intro thread hthread
    cases hthread
  · intro world event later _ hworld hstep
    have hbegin : ∀ task, ∀ thread ∈ (world.begin task).threads, property thread := by
      intro task thread hthread
      rcases List.mem_append.mp hthread with hthread | hthread
      · exact hworld thread hthread
      · exact List.mem_singleton.mp hthread ▸ hstart task
    cases hstep with
    | attach _ => exact hworld
    | established _ => exact hworld
    | establish quorum uuid constraints => exact hbegin _
    | request _ asked => exact hbegin _
    | @exchange index before call next answer after hbefore hrest hanswer =>
      intro thread hthread
      rcases List.mem_or_eq_of_mem_set hthread with hthread | rfl
      · exact hworld thread hthread
      · exact hadvance answer (hworld before (List.mem_of_getElem? hbefore)) hrest

/-- A step of a thread answers its call. -/
theorem Step.answers (h : Step world (.exchanged index exchange) later) :
    Answers world.store exchange.call exchange.answer later.store := by
  cases h with
  | exchange _ _ hanswer => exact hanswer

/-- A moment of a run at which a thread, after some exchanges, has one more. -/
structure Occurs (world later : World) (index : Nat) (task : Task) (past : History)
    (exchange : Exchange) (before after : List Event) (found left : World) : Prop where
  earlier : Run world before found
  thread : ∃ thread, found.threads[index]? = some thread ∧ thread.task = task ∧
    thread.past = past
  step : Step found (.exchanged index exchange) left
  later : Run left after later

/-- What a thread has asked in a run it has asked at some moment of the run. -/
theorem Run.exists_exchange (hrun : Run world events later)
    (hthread : later.threads[index]? = some thread)
    (hpast : thread.past = past ++ exchange :: rest)
    (hnew : ∀ before, world.threads[index]? = some before → before.past.length ≤ past.length) :
    ∃ before after found left,
      Occurs world later index thread.task past exchange before after found left ∧
        events = before ++ .exchanged index exchange :: after := by
  induction hrun generalizing thread rest with
  | nil =>
    have hlength := hnew thread hthread
    rw [hpast, List.length_append, List.length_cons] at hlength
    omega
  | @snoc events event middle later hbefore hlast ih =>
    have hextend : ∀ before rest, middle.threads[index]? = some before →
        before.task = thread.task → before.past = past ++ exchange :: rest →
        ∃ before after found left,
          Occurs world later index thread.task past exchange before after found left ∧
            events ++ [event] = before ++ .exchanged index exchange :: after := by
      intro before rest hmiddle htask hold
      obtain ⟨earlier, after, found, left, hoccurs, rfl⟩ := ih hmiddle hold
      refine ⟨earlier, after ++ [event], found, left, ?_, by simp⟩
      exact ⟨hoccurs.earlier, htask ▸ hoccurs.thread, hoccurs.step, hoccurs.later.snoc hlast⟩
    rcases hlast.thread_cases hthread with
      hsame | ⟨-, hstart⟩ | ⟨before, last, hmiddle, rfl, htask, hadvance⟩
    · exact hextend thread rest hsame rfl hpast
    · rw [hstart] at hpast
      exact absurd hpast.symm (by simp [Thread.start])
    · rw [hpast] at hadvance
      rcases List.eq_nil_or_concat rest with rfl | ⟨others, final, rfl⟩
      · -- The exchange is that of the last step.
        obtain ⟨hsame, hlastExchange⟩ := List.append_inj' hadvance rfl
        cases hlastExchange
        exact ⟨events, [], middle, later,
          ⟨hbefore, ⟨before, hmiddle, htask.symm, hsame.symm⟩, hlast, .nil⟩, rfl⟩
      · apply hextend before others hmiddle htask.symm
        rw [List.concat_eq_append, ← List.cons_append, ← List.append_assoc] at hadvance
        exact (List.append_inj' hadvance rfl).1.symm

/-- In a run from the beginning every exchange of a thread has its moment. -/
theorem Run.exists_exchange_of_initial (hrun : Run .initial events later)
    (hthread : later.threads[index]? = some thread)
    (hpast : thread.past = past ++ exchange :: rest) :
    ∃ before after found left,
      Occurs .initial later index thread.task past exchange before after found left ∧
        events = before ++ .exchanged index exchange :: after := by
  apply hrun.exists_exchange hthread hpast
  intro before hbefore
  have hnone : World.initial.threads[index]? = none := List.getElem?_nil
  rw [hnone] at hbefore
  cases hbefore

theorem Run.exists_exchange_of_mem (hrun : Run .initial events later)
    (hthread : later.threads[index]? = some thread) (hmem : exchange ∈ thread.past) :
    ∃ past before after found left,
      Occurs .initial later index thread.task past exchange before after found left ∧
        events = before ++ .exchanged index exchange :: after := by
  obtain ⟨past, rest, hpast⟩ := List.append_of_mem hmem
  exact ⟨past, hrun.exists_exchange_of_initial hthread hpast⟩

/-- A view that is different in the end has changed in one of the steps. -/
theorem Run.exists_change {β : Type} (view : World → β) (hrun : Run world events later)
    (hview : view world ≠ view later) :
    ∃ before event after found left, Run world before found ∧ Step found event left ∧
      Run left after later ∧ events = before ++ event :: after ∧
      view found = view world ∧ view left ≠ view world := by
  induction hrun with
  | nil => exact absurd rfl hview
  | @snoc events event middle later hbefore hlast ih =>
    by_cases hmiddle : view world = view middle
    · exact ⟨events, event, [], middle, later, hbefore, hlast, .nil, rfl, hmiddle.symm,
        hview.symm⟩
    · obtain ⟨before, changing, after, found, left, hearlier, hstep, hlater, rfl, hsame, hchange⟩ :=
        ih hmiddle
      exact ⟨before, changing, after ++ [event], found, left, hearlier, hstep, hlater.snoc hlast,
        by simp, hsame, hchange⟩

end ControlPlane
