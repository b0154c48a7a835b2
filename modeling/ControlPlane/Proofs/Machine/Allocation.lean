import ControlPlane.Proofs.Run.Alone
import ControlPlane.Proofs.Run.Counters

/-!
# Ids are handed out once

A counter gives 0, 1, 2 and so on in the order in which it is asked, whoever
asks and whatever else happens in between.  An id has one number of one
counter, and whoever is handed out an id draws that number.  So no id is handed
out a second time, whether or not a machine with the id ever came to be.
-/

namespace ControlPlane

open Json Store Procedure

/-- An id is handed out: the number that it has is drawn from its counter. -/
def Exchange.HandsOut (exchange : Exchange) (id : String) : Prop :=
  ∃ counter number, exchange.drawn? counter = some number ∧ MachineId.Numbered counter number id

/-- An id is handed out to some thread. -/
def Event.HandsOut (event : Event) (id : String) : Prop :=
  ∃ index exchange, event = .exchanged index exchange ∧ exchange.HandsOut id

variable {world : World} {events : List Event} {limit : Nat} {past : History}

/-! ## What is handed out by the procedures -/

theorem exchange_handsOut {counter id : String} {number : Nat}
    (h : MachineId.Numbered counter number id) :
    Exchange.HandsOut ⟨.increment Layout.sequence counter "counter", .ok number⟩ id :=
  ⟨counter, number, by simp [Exchange.drawn?], h⟩

/-- The number that a counter is asked for is drawn from it, in the only exchange. -/
theorem nextNumber_meets_drawn (counter : String) :
    Meets (Lawful limit) past (nextNumber counter) fun later number =>
      ∃ exchange, later = past ++ [exchange] ∧ exchange.drawn? counter = some number := by
  apply (nextNumber_meets_last counter).mono
  rintro later number - rfl
  exact ⟨_, rfl, by simp [Exchange.drawn?]⟩

/-- The next id of a root machine is handed out in the only exchange. -/
theorem MachineId.nextRoot_meets_handsOut :
    Meets (Lawful limit) past nextRoot fun later id =>
      ∃ exchange, later = past ++ [exchange] ∧ exchange.HandsOut id := by
  apply nextRoot_meets_last.mono
  rintro later id - ⟨number, rfl, rfl⟩
  exact ⟨_, rfl, exchange_handsOut (.inl ⟨rfl, rfl⟩)⟩

/-- The next id of a container is handed out in the only exchange. -/
theorem MachineId.nextContainer_meets_handsOut (parent : String) (kind : ContainerType) :
    Meets (Lawful limit) past (nextContainer parent kind) fun later id =>
      ∃ exchange, later = past ++ [exchange] ∧ exchange.HandsOut id := by
  apply Meets.map
  apply (nextNumber_meets_last _).mono
  rintro later number - rfl
  exact ⟨_, rfl, exchange_handsOut (.inr ⟨parent, kind, rfl, rfl⟩)⟩

/-! ## What is handed out in a run -/

theorem Event.HandsOut.exists_draw {event : Event} {id : String} (h : event.HandsOut id) :
    ∃ counter index number, event.draw? counter = some (index, number) ∧
      MachineId.Numbered counter number id := by
  obtain ⟨index, exchange, rfl, counter, number, hdrawn, hnumbered⟩ := h
  refine ⟨counter, index, number, ?_, hnumbered⟩
  rw [Event.draw?, hdrawn]
  rfl

/-- Of two events of a run that draw from one counter, the later one draws another number. -/
theorem Run.draws_pairwise (hrun : Run .initial events world) (counter : String) :
    events.Pairwise fun event event' => ∀ draw, event.draw? counter = some draw →
      ∀ draw', event'.draw? counter = some draw' → draw.2 ≠ draw'.2 := by
  have hnodup := hrun.draws_nodup counter
  rw [List.Nodup, List.pairwise_map, draws, List.pairwise_filterMap] at hnodup
  exact hnodup

/-- No id is handed out in two events of a run. -/
theorem Run.handsOut_pairwise (hrun : Run .initial events world) :
    events.Pairwise fun event event' => ∀ id, event.HandsOut id → ¬event'.HandsOut id := by
  rw [List.pairwise_iff_getElem]
  intro i j hi hj hlt id hfirst hsecond
  obtain ⟨counter, index, number, hdraw, hnumbered⟩ := hfirst.exists_draw
  obtain ⟨counter', index', number', hdraw', hnumbered'⟩ := hsecond.exists_draw
  obtain ⟨rfl, rfl⟩ := hnumbered.unique hnumbered'
  have hpairwise := List.pairwise_iff_getElem.mp (hrun.draws_pairwise counter) i j hi hj hlt
  exact hpairwise _ hdraw _ hdraw' rfl

/-- The id of a machine has been handed out. -/
theorem Run.exists_handsOut (hrun : Run .initial events world) {id : String}
    (hmachine : (world.store.get? Layout.machines id).isSome = true) :
    ∃ event ∈ events, event.HandsOut id := by
  have hreachable : Reachable world := ⟨events, hrun⟩
  obtain ⟨index, ⟨counter, number, hnumbered, hdrew⟩, -⟩ := hreachable.reserved id hmachine
  rw [History.Drew, pastOf_initial hrun] at hdrew
  obtain ⟨event, hevent, hexchange⟩ := List.mem_filterMap.mp hdrew
  cases event with
  | exchanged other exchange =>
    rw [Event.exchange?] at hexchange
    split at hexchange
    · obtain rfl := Option.some.inj hexchange
      exact ⟨_, hevent, other, _, rfl, exchange_handsOut hnumbered⟩
    · cases hexchange
  | _ => cases hexchange

/-- In the course of a run the numbers that are drawn from a counter are 0, 1, 2 and so on, and no
id is handed out twice; the machines have ids that were handed out.  To ask for a number is to draw
it, and to ask for an id is to be handed it out. -/
theorem numbers_never_repeat (hrun : Run .initial events world) :
    (∀ counter,
      (draws events counter).map (·.2) = List.range (draws events counter).length) ∧
    (events.Pairwise fun event event' => ∀ id, event.HandsOut id → ¬event'.HandsOut id) ∧
    (∀ id, (world.store.get? Layout.machines id).isSome = true →
      ∃ event ∈ events, event.HandsOut id) ∧
    ∀ (limit : Nat) (past : History),
      (∀ counter, Meets (Lawful limit) past (nextNumber counter) fun later number =>
        ∃ exchange, later = past ++ [exchange] ∧ exchange.drawn? counter = some number) ∧
      (Meets (Lawful limit) past MachineId.nextRoot fun later id =>
        ∃ exchange, later = past ++ [exchange] ∧ exchange.HandsOut id) ∧
      ∀ parent kind, Meets (Lawful limit) past (MachineId.nextContainer parent kind)
        fun later id => ∃ exchange, later = past ++ [exchange] ∧ exchange.HandsOut id := by
  refine ⟨?_, hrun.handsOut_pairwise, fun id hid => hrun.exists_handsOut hid, ?_⟩
  · intro counter
    have hdraws := hrun.draws_eq_range counter
    have hlength := congrArg List.length hdraws
    rw [List.length_map, List.length_range] at hlength
    rw [hdraws, hlength]
  · intro limit past
    exact ⟨nextNumber_meets_drawn, MachineId.nextRoot_meets_handsOut,
      MachineId.nextContainer_meets_handsOut⟩

/-- On the way to the settled world the numbers 0, 1 and 2 are drawn for its root machines and 0
for the container on the first of them, and the id of the container is handed out in one event. -/
theorem numbers_never_repeat_settled :
    ∃ events, Run .initial events World.settled ∧
      (draws events "machine").map (·.2) = [0, 1, 2] ∧
      (draws events "machine0lxcContainer").map (·.2) = [0] ∧
      (∃ event ∈ events, event.HandsOut "0/lxc/0") ∧
      events.Pairwise fun event event' => ∀ id, event.HandsOut id → ¬event'.HandsOut id := by
  obtain ⟨events, hrun⟩ := World.reachable_settled
  obtain ⟨hnumbers, hpairwise, hmachines, -⟩ := numbers_never_repeat hrun
  have hlength : ∀ counter,
      (draws events counter).length = World.settled.store.count counter := by
    intro counter
    rw [← List.length_map (·.2), hrun.draws_eq_range, List.length_range]
  obtain ⟨hroots, hcontainers, hcontainer⟩ : World.settled.store.count "machine" = 3 ∧
      World.settled.store.count "machine0lxcContainer" = 1 ∧
      (World.settled.store.get? Layout.machines "0/lxc/0").isSome = true := by
    decide +kernel
  refine ⟨events, hrun, ?_, ?_, hmachines _ hcontainer, hpairwise⟩
  · rw [hnumbers, hlength, hroots]
    rfl
  · rw [hnumbers, hlength, hcontainers]
    rfl

end ControlPlane
