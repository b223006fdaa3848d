import Televisor.Proofs.Discovery.Waiting

namespace Televisor.Run

open Controller Discovery Network Rendering Telemetry

/-! Two things that go on side by side, looked at one by one.  Whoever looks at one of them alone sees
it take the same course, whatever becomes of the other. -/

/-- A way of looking at a state.  What it does not show takes time and nothing else. -/
structure View where
  look : State → State
  shows : Activity → Bool
  reach (state : State) (instant : Nat) : look (state.reach instant) = (look state).reach instant
  pending {state : State} {due : Nat} (ordered : state.Ordered)
    (pending : (look state).Pending due) : ∃ earlier ≤ due, state.Pending earlier
  hidden {state : State} {activity : Activity} (next : state.nextActivity? = some activity)
    (unseen : shows activity = false) :
    look (state.perform activity) = (look state).reach activity.due
  shown {state : State} {activity : Activity} (ordered : state.Ordered)
    (next : state.nextActivity? = some activity) (seen : shows activity = true) :
    ∃ other, (look state).nextActivity? = some other ∧ other.due = activity.due ∧
      look (state.perform activity) = (look state).perform other

namespace View

variable (view : View) {state : State} {activity : Activity} {instant : Nat}

theorem calm (ordered : state.Ordered) (calm : state.CalmUntil instant) :
    (view.look state).CalmUntil instant := by
  intro due pending
  obtain ⟨earlier, early, pending⟩ := view.pending ordered pending
  exact Nat.le_trans (calm earlier pending) early

theorem passTo (ordered : state.Ordered) :
    view.look (state.passTo instant) = (view.look state).passTo instant := by
  refine State.passTo_induct (motive := fun state after => state.Ordered →
    view.look after = (view.look state).passTo instant) ?_ ?_ state ordered
  · intro state calm ordered
    rw [view.reach, State.passTo_calm (view.calm ordered calm)]
  · intro state activity after next soon ih ordered
    rw [ih (ordered.fewer (State.perform_arrivals next))]
    cases seen : view.shows activity with
    | false =>
        rw [view.hidden next seen,
          State.passTo_reach (Nat.le_of_lt soon) (view.calm ordered (.of_next next))]
    | true =>
        obtain ⟨other, first, due, same⟩ := view.shown ordered next seen
        rw [same, State.passTo_perform first (due ▸ soon)]

/-- The wait for the list is seen, and when it ends. -/
def Follows : Prop :=
  ∀ state, (view.look state).now = state.now ∧ (view.look state).discovery = state.discovery ∧
    (view.look state).appListTimeout = state.appListTimeout

variable {view}

theorem Follows.timely (follows : view.Follows) (timely : state.Timely) :
    (view.look state).Timely := by
  obtain ⟨now, discovery, timeout⟩ := follows state
  obtain ⟨bound, within⟩ := timely
  refine ⟨bound, fun phase running => ?_⟩
  rw [now, timeout]
  exact within phase (discovery ▸ running)

theorem Follows.awaitDiscovery (follows : view.Follows) (ordered : state.Ordered)
    (timely : state.Timely) :
    view.look state.awaitDiscovery = (view.look state).awaitDiscovery := by
  refine State.awaitDiscovery_induct (motive := fun state after => state.Ordered →
    view.look after = (view.look state).awaitDiscovery) ?_ ?_ timely ordered
  · intro state idle _
    rw [State.awaitDiscovery_idle ((follows state).2.1.trans idle)]
  · intro state activity after timely waits next ih ordered
    have waitsToo : (view.look state).discovery.isSome = true := by
      rw [(follows state).2.1, waits]
    rw [ih (ordered.fewer (State.perform_arrivals next))]
    cases seen : view.shows activity with
    | false =>
        rw [view.hidden next seen, State.awaitDiscovery_reach (follows.timely timely) waitsToo
          (view.calm ordered (.of_next next))]
    | true =>
        obtain ⟨other, first, -, same⟩ := view.shown ordered next seen
        rw [same, ← State.awaitDiscovery_perform (follows.timely timely) waitsToo first]

end View

end Televisor.Run
