import Televisor.Proofs.Discovery.Meanwhile

namespace Televisor.Run

open Controller Discovery Network Rendering Telemetry

/-! In which order things happen by themselves, and what it comes to if they are waited for at one
time or at several. -/

/-- The earliest of three, of those that are due together the first. -/
theorem Activity.earliest_eq_some {first second third : Option Activity} {activity : Activity} :
    Activity.earlier? (Activity.earlier? first second) third = some activity ↔
      (first = some activity ∧ (∀ other, second = some other → activity.due ≤ other.due) ∧
        ∀ other, third = some other → activity.due ≤ other.due) ∨
      (second = some activity ∧ (∀ other, first = some other → activity.due < other.due) ∧
        ∀ other, third = some other → activity.due ≤ other.due) ∨
      (third = some activity ∧ (∀ other, first = some other → activity.due < other.due) ∧
        ∀ other, second = some other → activity.due < other.due) := by
  rcases first with _ | first <;> rcases second with _ | second <;>
    rcases third with _ | third <;> simp only [Activity.earlier?] <;> grind

/-- The earliest of all, unless there are none. -/
theorem Activity.earliest?_least {activities : List Activity} {activity : Activity}
    (listed : activity ∈ activities) :
    ∃ first, Activity.earliest? activities = some first ∧ first.due ≤ activity.due := by
  induction activities with
  | nil => contradiction
  | cons head rest ih =>
      rcases List.mem_cons.mp listed with rfl | later
      · obtain ⟨first, chosen⟩ : ∃ first, Activity.earlier? (some activity)
            (Activity.earliest? rest) = some first := Activity.earlier?_isSome (.inl rfl)
        exact ⟨first, chosen, Activity.earlier?_due chosen _ (.inl rfl)⟩
      · obtain ⟨second, isSecond, early⟩ := ih later
        obtain ⟨first, chosen⟩ : ∃ first, Activity.earlier? (some head)
            (Activity.earliest? rest) = some first := Activity.earlier?_isSome (.inr isSecond)
        exact ⟨first, chosen,
          Nat.le_trans (Activity.earlier?_due chosen _ (.inr isSecond)) early⟩

namespace State

variable {state : State}

theorem pendingDiscovery?_eq_some {activity : Activity} :
    state.pendingDiscovery? = some activity ↔
      ∃ phase, state.discovery = some phase ∧ activity = .discovery phase := by
  simp only [pendingDiscovery?, Option.map_eq_some_iff, eq_comm]

theorem pendingArrival?_eq_some {activity : Activity} :
    state.pendingArrival? = some activity ↔
      ∃ arrival later, state.arrivals = arrival :: later ∧ activity = .arrival arrival later := by
  rcases comes : state.arrivals with _ | ⟨arrival, later⟩
  · simp [pendingArrival?, comes]
  · simp only [pendingArrival?, comes, Option.some.injEq, List.cons.injEq]
    grind

theorem mem_tasks {task : RenewalTask} :
    task ∈ state.tasks ↔ ∃ session, state.held = some session ∧ task ∈ session.control.tasks := by
  rcases isHeld : state.held with _ | session <;> simp [tasks, isHeld]

/-- What is next of the tasks is due no later than any of them. -/
theorem pendingRenewal?_least {task : RenewalTask} (runs : task ∈ state.tasks) :
    ∃ first, state.pendingRenewal? = some first ∧ first.due ≤ task.due := by
  obtain ⟨session, isHeld, runs⟩ := mem_tasks.mp runs
  have listed : Activity.renewal session task ∈ session.control.tasks.map (.renewal session) :=
    List.mem_map_of_mem runs
  rw [pendingRenewal?, isHeld]
  exact Activity.earliest?_least listed

/-- It is pending and goes before everything else that is. -/
def First (state : State) : Activity → Prop
  | .discovery phase =>
    state.discovery = some phase ∧
    (∀ first later, state.arrivals = first :: later → phase.due ≤ first.due) ∧
    ∀ other, state.pendingRenewal? = some other → phase.due ≤ other.due
  | .arrival arrival later =>
    state.arrivals = arrival :: later ∧
    (∀ phase, state.discovery = some phase → arrival.due < phase.due) ∧
    ∀ other, state.pendingRenewal? = some other → arrival.due ≤ other.due
  | .renewal session task =>
    state.pendingRenewal? = some (.renewal session task) ∧
    (∀ phase, state.discovery = some phase → task.due < phase.due) ∧
    ∀ first later, state.arrivals = first :: later → task.due < first.due

theorem nextActivity?_eq_some {activity : Activity} :
    state.nextActivity? = some activity ↔ state.First activity := by
  have isRenewal {other : Activity} (pending : state.pendingRenewal? = some other) :
      ∃ session task, other = .renewal session task := by
    obtain ⟨session, task, _, _, same⟩ := pendingRenewal?_mem pending
    exact ⟨session, task, same⟩
  simp only [nextActivity?, Activity.earliest_eq_some, pendingDiscovery?_eq_some,
    pendingArrival?_eq_some, forall_exists_index, and_imp]
  cases activity with
  | discovery phase => grind [First, Activity.due]
  | arrival arrival later => grind [First, Activity.due]
  | renewal session task => grind [First, Activity.due]

/-- Something is due at the instant. -/
inductive Pending (state : State) : Nat → Prop
  | discovery {phase} (running : state.discovery = some phase) : Pending state phase.due
  | arrival {first later} (comes : state.arrivals = first :: later) : Pending state first.due
  | renewal {task} (runs : task ∈ state.tasks) : Pending state task.due

theorem Pending.of_next {activity : Activity} (next : state.nextActivity? = some activity) :
    state.Pending activity.due := by
  rcases nextActivity?_cases next with ⟨phase, running, rfl⟩ | ⟨arrival, later, comes, rfl⟩ |
    ⟨session, task, isHeld, runs, rfl⟩
  · exact .discovery running
  · exact .arrival comes
  · exact .renewal (mem_tasks.mpr ⟨session, isHeld, runs⟩)

/-- What is next is due no later than anything else. -/
theorem Pending.next {due : Nat} (pending : state.Pending due) :
    ∃ activity, state.nextActivity? = some activity ∧ activity.due ≤ due := by
  have inner {first : Activity} (either : state.pendingDiscovery? = some first ∨
      state.pendingArrival? = some first) :
      ∃ activity, state.nextActivity? = some activity ∧ activity.due ≤ first.due := by
    obtain ⟨chosen, earlier⟩ := Activity.earlier?_isSome either
    obtain ⟨activity, next⟩ : ∃ activity, state.nextActivity? = some activity :=
      Activity.earlier?_isSome (.inl earlier)
    exact ⟨activity, next, Nat.le_trans (Activity.earlier?_due next _ (.inl earlier))
      (Activity.earlier?_due earlier _ either)⟩
  cases pending with
  | discovery running => exact inner (.inl (pendingDiscovery?_eq_some.mpr ⟨_, running, rfl⟩))
  | arrival comes => exact inner (.inr (pendingArrival?_eq_some.mpr ⟨_, _, comes, rfl⟩))
  | renewal runs =>
      obtain ⟨first, listed, early⟩ := pendingRenewal?_least runs
      obtain ⟨activity, next⟩ : ∃ activity, state.nextActivity? = some activity :=
        Activity.earlier?_isSome (.inr listed)
      exact ⟨activity, next, Nat.le_trans (Activity.earlier?_due next _ (.inr listed)) early⟩

/-- Nothing is due before the instant. -/
def CalmUntil (instant : Nat) (state : State) : Prop :=
  ∀ due, state.Pending due → instant ≤ due

theorem CalmUntil.of_next {activity : Activity} (next : state.nextActivity? = some activity) :
    state.CalmUntil activity.due := by
  intro due pending
  obtain ⟨first, isNext, early⟩ := pending.next
  cases isNext.symm.trans next
  exact early

theorem CalmUntil.le {instant : Nat} {activity : Activity} (calm : state.CalmUntil instant)
    (next : state.nextActivity? = some activity) : instant ≤ activity.due :=
  calm _ (.of_next next)

theorem calmUntil_iff {instant : Nat} : state.CalmUntil instant ↔
    ∀ activity, state.nextActivity? = some activity → instant ≤ activity.due := by
  refine ⟨fun calm activity => calm.le, fun late due pending => ?_⟩
  obtain ⟨activity, next, early⟩ := pending.next
  exact Nat.le_trans (late activity next) early

/-- Things that are to happen are listed in the order of their instants. -/
def Ordered (state : State) : Prop :=
  state.arrivals.Pairwise fun first second => first.due ≤ second.due

theorem Ordered.fewer {after : State} (ordered : state.Ordered)
    (fewer : after.arrivals <:+ state.arrivals) : after.Ordered :=
  List.Pairwise.sublist fewer.sublist ordered

/-- Nothing is overdue. -/
structure Punctual (state : State) : Prop where
  ordered : state.Ordered
  calm : state.CalmUntil state.now

/-! What an activity does to the clock and to what is pending. -/

section Happening

variable (state)

/-- What comes to a receiver reaches sessions and what is seen of them, and no task. -/
theorem receive_eq (number : Nat) (body : String) : ∃ held draft queue trace,
    state.receive number body =
      { state with held := held, draft := draft, queue := queue, trace := trace } ∧
    held.elim [] (·.control.tasks) = state.tasks := by
  unfold receive
  split
  · split
    · rename_i session found
      have isHeld : state.held = some session := (Option.filter_eq_some_iff.mp found).1
      have kept : (session.receive body).1.control.tasks = state.tasks := by
        rw [session.receive_tasks body, tasks, isHeld, Option.elim_some]
      unfold receiveBy
      simp only
      split
      · exact ⟨some (session.receive body).1, _, _, _, rfl, kept⟩
      · exact ⟨some (session.receive body).1, _, _, _, rfl, kept⟩
    · split
      · unfold receiveBy
        simp only
        split <;> exact ⟨_, _, _, _, rfl, rfl⟩
      · exact ⟨_, _, _, _, rfl, rfl⟩
  · exact ⟨_, _, _, _, rfl, rfl⟩

theorem delivery_eq (number : Nat) (delivery : Delivery) : ∃ held draft queue trace,
    state.happen (.delivery number delivery) =
      { state with held := held, draft := draft, queue := queue, trace := trace } ∧
    held.elim [] (·.control.tasks) = state.tasks :=
  state.happen_delivery number delivery ⟨_, _, _, _, rfl, rfl⟩ (state.receive_eq number)

theorem happen_now (what : Happening) : (state.happen what).now = state.now := by
  cases what with
  | body number body =>
      obtain ⟨held, draft, queue, trace, same, -⟩ := state.receive_eq number body
      rw [happen, same]
  | delivery number delivery =>
      obtain ⟨held, draft, queue, trace, same, -⟩ := state.delivery_eq number delivery
      rw [same]
  | _ => rfl

theorem happen_arrivals (what : Happening) : (state.happen what).arrivals = state.arrivals := by
  cases what with
  | body number body =>
      obtain ⟨held, draft, queue, trace, same, -⟩ := state.receive_eq number body
      rw [happen, same]
  | delivery number delivery =>
      obtain ⟨held, draft, queue, trace, same, -⟩ := state.delivery_eq number delivery
      rw [same]
  | _ => rfl

theorem happen_discovery {what : Happening} (other : ∀ apps, what ≠ .apps apps) :
    (state.happen what).discovery = state.discovery := by
  cases what with
  | apps apps => exact absurd rfl (other apps)
  | body number body =>
      obtain ⟨held, draft, queue, trace, same, -⟩ := state.receive_eq number body
      rw [happen, same]
  | delivery number delivery =>
      obtain ⟨held, draft, queue, trace, same, -⟩ := state.delivery_eq number delivery
      rw [same]
  | refusal => rfl

theorem continueDiscovery_now (phase : Phase) :
    (state.continueDiscovery phase).now = state.now := by
  cases phase with
  | requesting due =>
      simp only [continueDiscovery]
      split <;> rfl
  | waiting deadline => rfl

theorem continueDiscovery_arrivals (phase : Phase) :
    (state.continueDiscovery phase).arrivals = state.arrivals := by
  cases phase with
  | requesting due =>
      simp only [continueDiscovery]
      split <;> rfl
  | waiting deadline => rfl

theorem send_now (request : Request) : (state.send request).1.now = state.now := by
  unfold send
  split <;> rfl

theorem sendFor_kept (session : Session) (task : RenewalTask) (request : Request)
    (next : Exchange → Renewal) : (state.sendFor session task request next).now = state.now ∧
    (state.sendFor session task request next).discovery = state.discovery ∧
    (state.sendFor session task request next).arrivals = state.arrivals :=
  ⟨state.send_now request, state.send_discovery request, state.send_arrivals request⟩

theorem reported_kept (task : RenewalTask) : (state.reported task).now = state.now ∧
    (state.reported task).discovery = state.discovery ∧
    (state.reported task).arrivals = state.arrivals :=
  reported_cases state task ⟨rfl, rfl, rfl⟩ fun _ _ _ => ⟨rfl, rfl, rfl⟩

/-- A task that goes on takes no time, and nothing that waits is touched. -/
theorem continueRenewal_kept (session : Session) (task : RenewalTask) :
    (state.continueRenewal session task).now = state.now ∧
    (state.continueRenewal session task).discovery = state.discovery ∧
    (state.continueRenewal session task).arrivals = state.arrivals := by
  rw [← (state.reported_kept task).1, ← (state.reported_kept task).2.1,
    ← (state.reported_kept task).2.2]
  have turn := state.continueRenewal_turn session task
  generalize state.reported task = told at turn ⊢
  generalize state.continueRenewal session task = after at turn ⊢
  cases turn with
  | ends | sleeps _ | granted _ => exact ⟨rfl, rfl, rfl⟩
  | renews _ | subscribes _ => exact told.sendFor_kept session task _ _

end Happening

theorem perform_now (state : State) (activity : Activity) :
    (state.perform activity).now = max state.now activity.due := by
  cases activity with
  | discovery phase => exact continueDiscovery_now _ phase
  | arrival next later => exact happen_now _ next.what
  | renewal session task => exact (continueRenewal_kept _ session task).1

theorem perform_arrivals {activity : Activity} (next : state.nextActivity? = some activity) :
    (state.perform activity).arrivals <:+ state.arrivals := by
  cases activity with
  | discovery phase => exact (continueDiscovery_arrivals _ phase).symm ▸ List.suffix_refl _
  | arrival arrival later =>
      have comes := (nextActivity?_eq_some.mp next).1
      have left : (state.perform (.arrival arrival later)).arrivals = later :=
        happen_arrivals _ arrival.what
      rw [left, comes]
      exact List.suffix_cons _ _
  | renewal session task =>
      exact (continueRenewal_kept _ session task).2.2.symm ▸ List.suffix_refl _

/-- Time that has passed before an activity is due makes no difference to it. -/
theorem perform_reach (state : State) {instant : Nat} {activity : Activity}
    (early : instant ≤ activity.due) :
    (state.reach instant).perform activity = state.perform activity := by
  have same : (state.reach instant).reach activity.due = state.reach activity.due := by
    simp [reach, Nat.max_assoc, Nat.max_eq_right early]
  simp only [perform, same]

/-! Time that passes. -/

variable {instant : Nat}

theorem passTo_calm (calm : state.CalmUntil instant) :
    state.passTo instant = state.reach instant := by
  rw [passTo, passWhile]
  split
  · split
    · rename_i activity next
      rw [dif_neg (Nat.not_lt.mpr (calm.le next))]
    · rfl
  · rfl

theorem passTo_perform {activity : Activity} (next : state.nextActivity? = some activity)
    (before : activity.due < instant) :
    state.passTo instant = (state.perform activity).passTo instant := by
  rw [passTo, passWhile]
  simp only [if_true]
  split
  · rename_i other isNext
    cases isNext.symm.trans next
    rw [dif_pos before]
    rfl
  · rename_i idle
    cases idle.symm.trans next

/-- Until the instant is reached, one thing goes on after another. -/
theorem passTo_induct {motive : State → State → Prop}
    (calm : ∀ state, state.CalmUntil instant → motive state (state.reach instant))
    (performs : ∀ state activity after, state.nextActivity? = some activity →
      activity.due < instant → motive (state.perform activity) after → motive state after)
    (state : State) : motive state (state.passTo instant) := by
  unfold passTo
  fun_induction passWhile instant (fun _ => true) state with
  | case1 state _ activity next before ih => exact performs state activity _ next before ih
  | case2 state _ activity next late =>
      refine calm state (calmUntil_iff.mpr fun other isNext => ?_)
      cases isNext.symm.trans next
      exact Nat.not_lt.mp late
  | case3 state _ idle =>
      exact calm state (calmUntil_iff.mpr fun other isNext => by cases isNext.symm.trans idle)
  | case4 state done => exact absurd rfl done

theorem pending_reach {due : Nat} : (state.reach instant).Pending due ↔ state.Pending due := by
  constructor
  all_goals
    rintro (running | comes | runs)
    · exact .discovery running
    · exact .arrival comes
    · exact .renewal runs

theorem passTo_now (state : State) (instant : Nat) :
    (state.passTo instant).now = max state.now instant := by
  refine passTo_induct (motive := fun state after => after.now = max state.now instant) ?_ ?_ state
  · exact fun state calm => rfl
  · intro state activity after next before ih
    rw [ih, perform_now, Nat.max_assoc, Nat.max_eq_right (Nat.le_of_lt before)]

theorem passTo_arrivals (state : State) (instant : Nat) :
    (state.passTo instant).arrivals <:+ state.arrivals := by
  refine passTo_induct (motive := fun state after => after.arrivals <:+ state.arrivals) ?_ ?_ state
  · exact fun state calm => List.suffix_refl _
  · exact fun state activity after next before ih => ih.trans (perform_arrivals next)

theorem passTo_left (state : State) (instant : Nat) : (state.passTo instant).CalmUntil instant := by
  refine passTo_induct (motive := fun _ after => after.CalmUntil instant) ?_ ?_ state
  · exact fun state calm due pending => calm due (pending_reach.mp pending)
  · exact fun state activity after next before ih => ih

theorem passTo_punctual (ordered : state.Ordered) (early : state.now ≤ instant) :
    (state.passTo instant).Punctual where
  ordered := ordered.fewer (state.passTo_arrivals instant)
  calm := by
    rw [passTo_now, Nat.max_eq_right early]
    exact state.passTo_left instant

theorem passTo_reach {earlier : Nat} (before : earlier ≤ instant) (calm : state.CalmUntil earlier) :
    (state.reach earlier).passTo instant = state.passTo instant := by
  by_cases idle : state.CalmUntil instant
  · have still : (state.reach earlier).CalmUntil instant :=
      fun due pending => idle due (pending_reach.mp pending)
    rw [passTo_calm idle, passTo_calm still]
    simp [reach, Nat.max_assoc, Nat.max_eq_right before]
  · obtain ⟨activity, next, soon⟩ : ∃ activity, state.nextActivity? = some activity ∧
        activity.due < instant := by
      simpa [calmUntil_iff] using idle
    have nextThen : (state.reach earlier).nextActivity? = some activity := next
    rw [passTo_perform next soon, passTo_perform nextThen soon, state.perform_reach (calm.le next)]

theorem passTo_passTo {earlier : Nat} (before : earlier ≤ instant) (state : State) :
    (state.passTo earlier).passTo instant = state.passTo instant := by
  refine passTo_induct (motive := fun state after => after.passTo instant = state.passTo instant)
    ?_ ?_ state
  · exact fun state calm => passTo_reach before calm
  · intro state activity after next soon ih
    rw [ih, passTo_perform next (Nat.lt_of_lt_of_le soon before)]

/-- Where nothing is due and the instant has been reached, nothing passes. -/
theorem passTo_still (calm : state.CalmUntil instant) (reached : instant ≤ state.now) :
    state.passTo instant = state := by
  rw [passTo_calm calm, reach, Nat.max_eq_left reached]

/-- Whoever waits for an instant that is over waits for nothing. -/
theorem Punctual.passTo_max (punctual : state.Punctual) (instant : Nat) :
    state.passTo (max state.now instant) = state.passTo instant := by
  rcases Nat.le_total state.now instant with ahead | behind
  · rw [Nat.max_eq_right ahead]
  · have calm : state.CalmUntil instant :=
      fun due pending => Nat.le_trans behind (punctual.calm due pending)
    rw [Nat.max_eq_left behind, passTo_still calm behind,
      passTo_still punctual.calm (Nat.le_refl _)]

/-! Nothing gets overdue while time passes. -/

/-- Whatever comes to a receiver, what is pending was so before. -/
theorem pending_received {after : State} {due : Nat} (received : ∃ held draft queue trace,
      after = { state with held := held, draft := draft, queue := queue, trace := trace } ∧
      held.elim [] (·.control.tasks) = state.tasks)
    (pending : after.Pending due) : state.Pending due := by
  obtain ⟨held, draft, queue, trace, rfl, same⟩ := received
  cases pending with
  | discovery running => exact .discovery running
  | arrival comes => exact .arrival comes
  | renewal runs => exact .renewal (same ▸ runs)

theorem happen_pending {what : Happening} {due : Nat}
    (pending : (state.happen what).Pending due) : state.Pending due := by
  cases what with
  | apps apps =>
      cases pending with
      | discovery running =>
          obtain ⟨phase, waited, same⟩ := Option.bind_eq_some_iff.mp running
          cases phase <;> cases same
          exact .discovery waited
      | arrival comes => exact .arrival comes
      | renewal runs => exact .renewal runs
  | body number body => exact pending_received (state.receive_eq number body) pending
  | delivery number delivery => exact pending_received (state.delivery_eq number delivery) pending
  | refusal =>
      cases pending with
      | discovery running => exact .discovery running
      | arrival comes => exact .arrival comes
      | renewal runs => exact .renewal runs

theorem continueDiscovery_pending {phase : Phase} {due : Nat}
    (pending : (state.continueDiscovery phase).Pending due) :
    state.Pending due ∨ state.now ≤ due := by
  cases pending with
  | discovery running =>
      cases phase with
      | requesting returned =>
          simp only [continueDiscovery] at running
          split at running <;> cases running
          exact .inr (Nat.le_add_right _ _)
      | waiting deadline => cases running
  | arrival comes => exact .inl (.arrival (state.continueDiscovery_arrivals phase ▸ comes))
  | renewal runs =>
      have same : (state.continueDiscovery phase).tasks = state.tasks := by
        cases phase with
        | requesting returned =>
            simp only [continueDiscovery]
            split <;> rfl
        | waiting deadline => rfl
      exact .inl (.renewal (same ▸ runs))

/-- A task that goes on waits for something that is not over yet. -/
theorem continueRenewal_tasks {session : Session} {task other : RenewalTask}
    (isHeld : state.held = some session)
    (runs : other ∈ (state.continueRenewal session task).tasks) :
    other ∈ state.tasks ∨ state.now ≤ other.due := by
  have old {control : Control} (same : control.tasks = session.control.tasks)
      (listed : other ∈ control.tasks.erase task) : other ∈ state.tasks :=
    mem_tasks.mpr ⟨session, isHeld, List.mem_of_mem_erase (same ▸ listed)⟩
  have resumed (next : Renewal) {control : Control} (same : control.tasks = session.control.tasks)
      (ahead : state.now ≤ next.due) (listed : other ∈ (control.resume task (some next)).tasks) :
      other ∈ state.tasks ∨ state.now ≤ other.due := by
    rcases List.mem_cons.mp listed with rfl | listed
    · exact .inr ahead
    · exact .inl (old same listed)
  have turn := state.continueRenewal_turn session task
  have now := (state.reported_kept task).1
  generalize state.reported task = told at turn now
  generalize state.continueRenewal session task = after at turn runs
  rw [← now] at resumed ⊢
  cases turn with
  | ends => exact .inl (old rfl runs)
  | @sleeps wake ahead => exact resumed (.sleeping wake) rfl ahead runs
  | granted _ => exact resumed _ rfl (Nat.le_add_right _ _) runs
  | renews sid =>
      let asked := told.send (renew session.control.device.eventUrl sid)
      exact resumed (.renewing asked.2) rfl (told.send_due_ge _) runs
  | @subscribes callback _ =>
      let asked := told.send (subscribe session.control.device.eventUrl callback)
      exact resumed (.resubscribing asked.2) rfl (told.send_due_ge _) runs

theorem continueRenewal_pending {session : Session} {task : RenewalTask} {due : Nat}
    (isHeld : state.held = some session)
    (pending : (state.continueRenewal session task).Pending due) :
    state.Pending due ∨ state.now ≤ due := by
  have kept := state.continueRenewal_kept session task
  cases pending with
  | discovery running => exact .inl (.discovery (kept.2.1 ▸ running))
  | arrival comes => exact .inl (.arrival (kept.2.2 ▸ comes))
  | renewal runs => exact (continueRenewal_tasks isHeld runs).imp_left .renewal

theorem perform_punctual {activity : Activity} (punctual : state.Punctual)
    (next : state.nextActivity? = some activity) : (state.perform activity).Punctual where
  ordered := punctual.ordered.fewer (perform_arrivals next)
  calm := by
    have calm := CalmUntil.of_next next
    have reached : (state.reach activity.due).now = activity.due :=
      Nat.max_eq_right (punctual.calm.le next)
    rw [perform_now, Nat.max_eq_right (punctual.calm.le next)]
    intro due pending
    cases activity with
    | discovery phase =>
        obtain before | new := continueDiscovery_pending pending
        · exact calm due (pending_reach.mp before)
        · exact Nat.le_trans (Nat.le_of_eq reached.symm) new
    | arrival arrival later =>
        have comes := (nextActivity?_eq_some.mp next).1
        cases happen_pending pending with
        | discovery running => exact calm _ (.discovery running)
        | @arrival first _ left =>
            have ordered : (arrival :: later).Pairwise fun first second => first.due ≤ second.due :=
              comes ▸ punctual.ordered
            have listed : first ∈ later := by
              have same : later = first :: _ := left
              simp [same]
            exact List.rel_of_pairwise_cons ordered listed
        | renewal runs => exact calm _ (.renewal runs)
    | renewal session task =>
        obtain ⟨_, _, isHeld, _, same⟩ := pendingRenewal?_mem (nextActivity?_eq_some.mp next).1
        cases same
        have isHeldThen : (state.reach task.due).held = some session := isHeld
        obtain before | new := continueRenewal_pending isHeldThen pending
        · exact calm due (pending_reach.mp before)
        · exact Nat.le_trans (Nat.le_of_eq reached.symm) new

end State

end Televisor.Run
