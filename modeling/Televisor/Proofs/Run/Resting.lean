import Televisor.Proofs.Discovery.History
import Televisor.Proofs.Run.Elapsing

namespace Televisor.Run

open Controller Discovery Network Rendering Telemetry

/-! Whoever begins to wait for the list of applications, and how states are between operations: nobody
waits, and what is to happen by itself is in order. -/

theorem mem_insertArrival {arrival other : Arrival} {list : List Arrival} :
    other ∈ insertArrival arrival list ↔ other = arrival ∨ other ∈ list := by
  induction list with
  | nil => simp [insertArrival]
  | cons first rest ih =>
      unfold insertArrival
      split
      · rw [List.mem_cons, ih, List.mem_cons]
        exact or_left_comm
      · rw [List.mem_cons]

theorem insertArrival_ordered (arrival : Arrival) {list : List Arrival}
    (ordered : list.Pairwise fun first second => first.due ≤ second.due) :
    (insertArrival arrival list).Pairwise fun first second => first.due ≤ second.due := by
  induction list with
  | nil => exact List.pairwise_singleton _ _
  | cons first rest ih =>
      unfold insertArrival
      split
      · rename_i before
        refine .cons (fun other member => ?_) (ih ordered.of_cons)
        rcases mem_insertArrival.mp member with rfl | member
        · exact before
        · exact List.rel_of_pairwise_cons ordered member
      · rename_i after
        refine .cons (fun other member => ?_) ordered
        rcases List.mem_cons.mp member with rfl | member
        · exact Nat.le_of_not_le after
        · exact Nat.le_trans (Nat.le_of_not_le after) (List.rel_of_pairwise_cons ordered member)

/-- Whoever goes before all others is put in front. -/
theorem insertArrival_first {arrival : Arrival} {list : List Arrival}
    (before : ∀ other ∈ list, arrival.due < other.due) :
    insertArrival arrival list = arrival :: list := by
  cases list with
  | nil => rfl
  | cons first rest =>
      rw [insertArrival, if_neg (Nat.not_le.mpr (before first List.mem_cons_self))]

/-- Whoever looks at some arrivals only sees a new one come between them as it does. -/
theorem insertArrival_filter (keeps : Arrival → Bool) {arrival : Arrival} {list : List Arrival}
    (ordered : list.Pairwise fun first second => first.due ≤ second.due)
    (kept : keeps arrival = true) :
    (insertArrival arrival list).filter keeps = insertArrival arrival (list.filter keeps) := by
  induction list with
  | nil => simp [insertArrival, kept]
  | cons first rest ih =>
      by_cases before : first.due ≤ arrival.due
      · rw [insertArrival, if_pos before, List.filter_cons, ih ordered.of_cons, List.filter_cons]
        split
        · rw [insertArrival, if_pos before]
        · rfl
      · have ahead : ∀ other ∈ first :: rest, arrival.due < other.due := by
          intro other member
          rcases List.mem_cons.mp member with rfl | member
          · exact Nat.lt_of_not_le before
          · exact Nat.lt_of_lt_of_le (Nat.lt_of_not_le before)
              (List.rel_of_pairwise_cons ordered member)
        rw [insertArrival_first ahead, List.filter_cons_of_pos kept,
          insertArrival_first fun other member => ahead other (List.mem_filter.mp member).1]

theorem insertArrival_hidden (keeps : Arrival → Bool) {arrival : Arrival} (list : List Arrival)
    (hidden : keeps arrival = false) :
    (insertArrival arrival list).filter keeps = list.filter keeps := by
  induction list with
  | nil => simp [insertArrival, hidden]
  | cons first rest ih =>
      unfold insertArrival
      split
      · rw [List.filter_cons, ih, List.filter_cons]
      · rw [List.filter_cons_of_neg (by simp [hidden])]

namespace State

variable {state : State}

theorem Punctual.arrival (punctual : state.Punctual) {arrival : Arrival}
    (comes : arrival ∈ state.arrivals) : state.now ≤ arrival.due := by
  obtain ⟨ordered, calm⟩ := punctual
  cases all : state.arrivals with
  | nil => simp [all] at comes
  | cons first later =>
      have now := calm _ (.arrival all)
      rw [Ordered, all] at ordered
      rw [all] at comes
      rcases List.mem_cons.mp comes with rfl | member
      · exact now
      · exact Nat.le_trans now (List.rel_of_pairwise_cons ordered member)

/-- Something more is going to happen, in its turn. -/
theorem Punctual.expect (punctual : state.Punctual) {arrival : Arrival}
    (ahead : state.now ≤ arrival.due) :
    Punctual { state with arrivals := insertArrival arrival state.arrivals } where
  ordered := insertArrival_ordered arrival punctual.ordered
  calm := by
    intro due pending
    cases pending with
    | discovery running => exact punctual.calm _ (.discovery running)
    | @arrival first later comes =>
        have same : insertArrival arrival state.arrivals = first :: later := comes
        have listed : first ∈ insertArrival arrival state.arrivals := same ▸ List.mem_cons_self
        rcases mem_insertArrival.mp listed with rfl | member
        · exact ahead
        · exact punctual.arrival member
    | renewal runs => exact punctual.calm _ (.renewal runs)

theorem Punctual.deliver (punctual : state.Punctual) (apps : Apps) :
    (state.deliver apps).Punctual where
  ordered := punctual.ordered
  calm := by
    intro due pending
    have happened : (state.happen (.apps apps)).Pending due := pending
    exact punctual.calm due (happen_pending happened)

theorem promiseApps_ordered (ordered : state.Ordered) : state.promiseApps.Ordered := by
  unfold promiseApps
  split
  · exact ordered
  · split
    · exact ordered
    · exact insertArrival_ordered _ ordered

theorem promiseApps_punctual (punctual : state.Punctual) : state.promiseApps.Punctual := by
  unfold promiseApps
  split
  · exact punctual
  · split
    · exact punctual.deliver _
    · exact punctual.expect (Nat.le_add_right _ _)

theorem beginDiscovery_ordered (ordered : state.Ordered) : state.beginDiscovery.Ordered := by
  unfold beginDiscovery
  split
  · exact ordered
  · have called : (state.call .requestAppList).Ordered := ordered
    exact promiseApps_ordered called

theorem beginDiscovery_timely (idle : state.discovery = none) : state.beginDiscovery.Timely := by
  cases resolved : state.gate.isResolved with
  | true =>
      rw [beginDiscovery_resolved resolved]
      exact timely_of_idle idle
  | false =>
      obtain ⟨due, later, begun⟩ := beginDiscovery_unresolved resolved
      rw [begun]
      refine ⟨due + (state.call .requestAppList).promiseApps.appListTimeout, fun phase waits => ?_⟩
      cases waits
      exact ⟨later, Nat.le_refl _⟩

theorem Punctual.call (punctual : state.Punctual) (call : Call) : (state.call call).Punctual where
  ordered := punctual.ordered
  calm := by
    intro due pending
    refine punctual.calm due ?_
    cases pending with
    | discovery running => exact .discovery running
    | arrival comes => exact .arrival comes
    | renewal runs => exact .renewal runs

theorem beginDiscovery_punctual (punctual : state.Punctual) : state.beginDiscovery.Punctual := by
  cases resolved : state.gate.isResolved with
  | true =>
      rw [beginDiscovery_resolved resolved]
      exact punctual
  | false =>
      have promised := promiseApps_punctual (punctual.call .requestAppList)
      obtain ⟨due, later, begun⟩ := beginDiscovery_unresolved resolved
      rw [begun]
      refine ⟨promised.ordered, fun _ pending => ?_⟩
      cases pending with
      | discovery running =>
          cases running
          exact later
      | arrival comes => exact promised.calm _ (.arrival comes)
      | renewal runs => exact promised.calm _ (.renewal runs)

/-- Between two operations nobody waits for the list. -/
structure Resting (state : State) : Prop where
  idle : state.discovery = none
  ordered : state.Ordered

theorem Resting.initial (options : Options) (television : Television) (host : Host)
    (replies : Replies) (patience : Option Nat) :
    (State.initial options television host replies patience).Resting :=
  ⟨rfl, .nil⟩

theorem Resting.elapsed {after : State} (resting : state.Resting) (elapsed : Elapsed state after)
    (meanwhile : Meanwhile state after) : after.Resting :=
  ⟨meanwhile.idle resting.idle, elapsed.ordered resting.ordered⟩

theorem Resting.answered (resting : state.Resting) : state.answered.Resting :=
  resting.elapsed state.answered_elapsed state.answered_meanwhile

/-- Both that are begun when the television is found on have come to their ends. -/
def joined (state : State) : State :=
  state.beginDiscovery.startTelemetry.awaitDiscovery

theorem Resting.begun_timely (resting : state.Resting) :
    state.beginDiscovery.startTelemetry.Timely :=
  state.beginDiscovery.startTelemetry_meanwhile.timely (beginDiscovery_timely resting.idle)

theorem Resting.begun_ordered (resting : state.Resting) :
    state.beginDiscovery.startTelemetry.Ordered :=
  state.beginDiscovery.startTelemetry_elapsed.ordered (beginDiscovery_ordered resting.ordered)

theorem Resting.joined (resting : state.Resting) : state.joined.Resting where
  idle := awaitDiscovery_done _ resting.begun_timely
  ordered := resting.begun_ordered.fewer (awaitDiscovery_arrivals resting.begun_timely)

theorem Resting.whileOn (resting : state.Resting) : state.whileOn.Resting :=
  resting.joined.elapsed (refresh_elapsed _) (refresh_meanwhile _)

theorem Resting.tick (resting : state.Resting) : state.tick.Resting := by
  have gathered : state.gather.Resting := by
    cases held : state.guards.hold with
    | true =>
        rw [gather_held _ held]
        exact resting
    | false =>
        cases isOpen : state.controller.isPoweringOff state.now with
        | true =>
            rw [gather_poweringOff _ held isOpen]
            exact resting.elapsed (.aside rfl rfl) (.aside rfl rfl rfl rfl rfl)
        | false =>
            rw [gather_asking _ held isOpen]
            split
            · exact resting.answered.whileOn
            · exact resting.answered
  rw [tick_eq_publish]
  exact gathered.elapsed (publish_elapsed _) (publish_meanwhile _)

theorem Resting.apply (resting : state.Resting) (operation : Operation) :
    (state.apply operation).Resting := by
  by_cases isPoll : operation = .poll
  · subst isPoll
    exact resting.tick
  · refine ⟨(state.apply_meanwhile operation isPoll).idle resting.idle, ?_⟩
    have ordered := resting.ordered
    cases operation with
    | poll => exact absurd rfl isPoll
    | command command => exact (state.execute_elapsed command).ordered ordered
    | event =>
        simp only [State.apply, handleFirst]
        split
        · exact ordered
        · exact (handleEvent_elapsed _ _).ordered ordered
    | shutdown => exact state.shutdown_elapsed.ordered ordered
    | pass duration => exact (state.wait_elapsed duration).ordered ordered
    | happen what =>
        rw [State.apply, Ordered, happen_arrivals]
        exact ordered
    | expect arrival => exact insertArrival_ordered arrival ordered
    | surround television host replies delays => exact ordered

theorem Resting.run (resting : state.Resting) (operations : List Operation) :
    (state.run operations).Resting := by
  induction operations generalizing state with
  | nil => exact resting
  | cons operation rest ih =>
      rw [run_cons]
      exact ih (resting.apply operation)

end State

end Televisor.Run
