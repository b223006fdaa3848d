import Televisor.Proofs.Run.Resting

namespace Televisor.Run

open Controller Discovery Network Rendering Telemetry

/-! When waiting for the list of applications comes to its end. -/

namespace State

variable {state : State}

/-- The list is waited for and nothing else goes on. -/
structure Bare (state : State) : Prop where
  unheld : state.held = none
  brings : ∀ arrival ∈ state.arrivals, arrival.bringsApps = true
  punctual : state.Punctual
  timely : state.Timely

/-- The instant of the next delivery, or of the deadline if that is earlier. -/
def nextList (state : State) (deadline : Nat) : Nat :=
  match state.arrivals with
  | [] => deadline
  | first :: _ => min first.due deadline

namespace Bare

theorem perform (bare : state.Bare) {activity : Activity}
    (next : state.nextActivity? = some activity) : (state.perform activity).Bare where
  unheld := by
    obtain ⟨seen, passage⟩ := state.perform_passage next
    exact passage.held_none bare.unheld
  brings := fun arrival member => bare.brings arrival ((perform_arrivals next).subset member)
  punctual := perform_punctual bare.punctual next
  timely := bare.timely.perform next

theorem apps (bare : state.Bare) {arrival : Arrival} (comes : arrival ∈ state.arrivals) :
    ∃ apps, arrival.what = .apps apps := by
  have brings := bare.brings arrival comes
  unfold Arrival.bringsApps at brings
  split at brings
  · exact ⟨_, ‹_›⟩
  · cases brings

/-- Either what is waited for is due next, or a list comes before it. -/
theorem first (bare : state.Bare) {phase : Phase} (running : state.discovery = some phase) :
    (state.nextActivity? = some (.discovery phase) ∧
      ∀ arrival later, state.arrivals = arrival :: later → phase.due ≤ arrival.due) ∨
    ∃ arrival later, state.arrivals = arrival :: later ∧ arrival.due < phase.due ∧
      state.nextActivity? = some (.arrival arrival later) := by
  have unheld (due : Nat) : ∀ other, state.pendingRenewal? = some other → due ≤ other.due := by
    simp [pendingRenewal?, bare.unheld]
  by_cases early : ∃ arrival later, state.arrivals = arrival :: later ∧ arrival.due < phase.due
  · obtain ⟨arrival, later, comes, early⟩ := early
    refine .inr ⟨arrival, later, comes, early,
      nextActivity?_eq_some.mpr ⟨comes, fun other waits => ?_, unheld _⟩⟩
    cases running.symm.trans waits
    exact early
  · have late : ∀ arrival later, state.arrivals = arrival :: later → phase.due ≤ arrival.due :=
      fun arrival later comes => Nat.le_of_not_lt fun before => early ⟨arrival, later, comes, before⟩
    exact .inl ⟨nextActivity?_eq_some.mpr ⟨running, late, unheld _⟩, late⟩

end Bare

theorem perform_apps {arrival : Arrival} {later : List Arrival} {apps : Apps}
    (what : arrival.what = .apps apps) : state.perform (.arrival arrival later) =
      { state.reach arrival.due with arrivals := later }.deliver apps := by
  simp only [perform, what, happen, Activity.due]

namespace Bare

theorem now_of_done (bare : state.Bare) {phase : Phase} {activity : Activity}
    (running : state.discovery = some phase) (next : state.nextActivity? = some activity)
    (done : (state.perform activity).discovery = none) :
    state.awaitDiscovery.now = activity.due := by
  have waits : state.discovery.isSome = true := by rw [running]; rfl
  rw [awaitDiscovery_perform bare.timely waits next, awaitDiscovery_idle done, perform_now,
    Nat.max_eq_right (bare.punctual.calm.le next)]

theorem waiting (bare : state.Bare) {deadline : Nat}
    (running : state.discovery = some (.waiting deadline)) :
    state.awaitDiscovery.now = state.nextList deadline := by
  obtain ⟨next, late⟩ | ⟨arrival, later, comes, early, next⟩ := bare.first running
  · rw [bare.now_of_done running next rfl]
    unfold nextList
    split
    · rfl
    · rename_i arrival later comes
      exact (Nat.min_eq_right (late arrival later comes)).symm
  · obtain ⟨apps, what⟩ := bare.apps (comes ▸ List.mem_cons_self)
    have done : (state.perform (.arrival arrival later)).discovery = none := by
      rw [perform_apps what]
      exact congrArg (Option.bind · Phase.delivered?) running
    rw [bare.now_of_done running next done, nextList, comes]
    exact (Nat.min_eq_left (Nat.le_of_lt early)).symm

/-- A list that comes while the request is under way does not end it. -/
theorem delivered (bare : state.Bare) {due : Nat} {arrival : Arrival} {later : List Arrival}
    (running : state.discovery = some (.requesting due)) (comes : state.arrivals = arrival :: later) :
    (state.perform (.arrival arrival later)).discovery = some (.requesting due) ∧
      (state.perform (.arrival arrival later)).gate.isResolved = true ∧
      (state.perform (.arrival arrival later)).arrivals = later := by
  obtain ⟨apps, what⟩ := bare.apps (comes ▸ List.mem_cons_self)
  rw [perform_apps what]
  exact ⟨congrArg (Option.bind · Phase.delivered?) running, rfl, rfl⟩

/-- Once there is a list, only the request is waited for. -/
theorem returned (bare : state.Bare) {due : Nat}
    (running : state.discovery = some (.requesting due)) (resolved : state.gate.isResolved = true) :
    state.awaitDiscovery.now = due := by
  induction arrivals : state.arrivals generalizing state with
  | nil =>
      obtain ⟨next, -⟩ | ⟨arrival, later, comes, -⟩ := bare.first running
      · refine bare.now_of_done running next ?_
        simp [State.perform, continueDiscovery, reach, resolved]
      · cases arrivals.symm.trans comes
  | cons head rest ih =>
      obtain ⟨next, -⟩ | ⟨arrival, later, comes, early, next⟩ := bare.first running
      · refine bare.now_of_done running next ?_
        simp [State.perform, continueDiscovery, reach, resolved]
      · cases arrivals.symm.trans comes
        have waits : state.discovery.isSome = true := by rw [running]; rfl
        obtain ⟨still, resolvedThen, left⟩ := bare.delivered running comes
        rw [awaitDiscovery_perform bare.timely waits next]
        exact ih (bare.perform next) still resolvedThen left

theorem requesting (bare : state.Bare) {due : Nat}
    (running : state.discovery = some (.requesting due))
    (unresolved : state.gate.isResolved = false) :
    state.awaitDiscovery.now = max due (state.nextList (due + state.appListTimeout)) := by
  have waits : state.discovery.isSome = true := by rw [running]; rfl
  obtain ⟨next, late⟩ | ⟨arrival, later, comes, early, next⟩ := bare.first running
  · have reached : max state.now due = due :=
      Nat.max_eq_right (bare.punctual.calm.le next)
    have waitsThen : (state.perform (.discovery (.requesting due))).discovery =
        some (.waiting (due + state.appListTimeout)) := by
      simp [State.perform, continueDiscovery, reach, unresolved, Activity.due, Phase.due, reached,
        appListTimeout]
    have same : (state.perform (.discovery (.requesting due))).nextList
        (due + state.appListTimeout) = state.nextList (due + state.appListTimeout) := by
      simp [nextList, State.perform, continueDiscovery_arrivals, reach]
    rw [awaitDiscovery_perform bare.timely waits next, (bare.perform next).waiting waitsThen, same]
    unfold nextList
    split
    · omega
    · rename_i arrival later comes
      have after : due ≤ arrival.due := late arrival later comes
      omega
  · obtain ⟨still, resolved, -⟩ := bare.delivered running comes
    have before : arrival.due < due := early
    rw [awaitDiscovery_perform bare.timely waits next, (bare.perform next).returned still resolved,
      nextList, comes]
    simp only
    omega

end Bare

/-! Somebody asks for the list now. -/

/-- When lists come that are on their way, and the one the television delivers if it is asked. -/
def deliveries (state : State) : List Nat :=
  (state.television.apps.toList.map fun _ => state.now + state.television.appsDelay) ++
    (state.arrivals.filter Arrival.bringsApps).map Arrival.due

/-- When whoever asks for the list has done waiting: at once if there is one; when the request returns
if a list has come by then; and otherwise with the next list, but no later than the timeout allows,
which is counted from the request's return. -/
def listEnd (state : State) : Nat :=
  let returned := state.now + state.television.appListDelay
  let deadline := returned + state.appListTimeout
  if state.gate.isResolved then state.now
  else
    match state.deliveries.min? with
    | some first => if first ≤ returned then returned else min first deadline
    | none => deadline

/-- The least depends on nothing but what there is. -/
theorem min?_congr {first second : List Nat} (same : ∀ number, number ∈ first ↔ number ∈ second) :
    first.min? = second.min? := by
  ext least
  simp [List.min?_eq_some_iff, same]

/-- Where arrivals are in order the first is due first. -/
theorem nextList_min? (ordered : state.Ordered) (deadline : Nat) :
    state.nextList deadline =
      (state.arrivals.map Arrival.due).min?.elim deadline (min · deadline) := by
  cases comes : state.arrivals with
  | nil => simp [nextList, comes]
  | cons first later =>
      rw [Ordered, comes] at ordered
      have least : ((first :: later).map Arrival.due).min? = some first.due := by
        rw [List.min?_eq_some_iff]
        refine ⟨by simp, fun due listed => ?_⟩
        obtain ⟨arrival, member, rfl⟩ := List.mem_map.mp listed
        rcases List.mem_cons.mp member with rfl | behind
        · exact Nat.le_refl _
        · exact List.rel_of_pairwise_cons ordered behind
      rw [least, nextList, comes]
      rfl

/-- A list is delivered at once, or it is put where it belongs. -/
theorem promiseApps_cases (state : State) :
    (∃ apps, state.television.apps = some apps ∧ state.television.appsDelay = 0 ∧
      state.promiseApps = state.deliver apps) ∨
    ∃ arrivals, state.promiseApps = { state with arrivals := arrivals } ∧
      ∀ arrival, arrival ∈ arrivals ↔ arrival ∈ state.arrivals ∨
        ∃ apps, state.television.apps = some apps ∧
          arrival = ⟨state.now + state.television.appsDelay, .apps apps⟩ := by
  cases delivers : state.television.apps with
  | none => exact .inr ⟨state.arrivals, by simp [promiseApps, delivers], by simp⟩
  | some apps =>
      by_cases atOnce : state.television.appsDelay = 0
      · exact .inl ⟨apps, rfl, atOnce, by simp [promiseApps, delivers, atOnce]⟩
      · refine .inr ⟨_, by simp only [promiseApps, delivers, if_neg atOnce]; rfl, fun arrival => ?_⟩
        rw [mem_insertArrival, or_comm]
        simp

/-- Whoever asks waits for the request to return, whatever becomes of the list. -/
theorem beginDiscovery_cases (unresolved : state.gate.isResolved = false) :
    let running := some (Phase.requesting (state.now + state.television.appListDelay))
    (∃ apps, state.television.apps = some apps ∧ state.television.appsDelay = 0 ∧
      state.beginDiscovery =
        { (state.call .requestAppList).deliver apps with discovery := running }) ∨
    ∃ arrivals, state.beginDiscovery =
        { state.call .requestAppList with arrivals := arrivals, discovery := running } ∧
      ∀ arrival, arrival ∈ arrivals ↔ arrival ∈ state.arrivals ∨
        ∃ apps, state.television.apps = some apps ∧
          arrival = ⟨state.now + state.television.appsDelay, .apps apps⟩ := by
  intro running
  rw [beginDiscovery, if_neg (by simp [unresolved])]
  rcases (state.call .requestAppList).promiseApps_cases with ⟨apps, delivers, atOnce, same⟩ |
    ⟨arrivals, same, listed⟩
  · simp only [same]
    exact .inl ⟨apps, delivers, atOnce, rfl⟩
  · simp only [same]
    exact .inr ⟨arrivals, rfl, listed⟩

theorem beginDiscovery_requests (unresolved : state.gate.isResolved = false) :
    state.beginDiscovery.discovery =
        some (.requesting (state.now + state.television.appListDelay)) ∧
      state.beginDiscovery.appListTimeout = state.appListTimeout := by
  rcases beginDiscovery_cases unresolved with ⟨apps, -, -, same⟩ | ⟨arrivals, same, -⟩
  all_goals
    rw [same]
    exact ⟨rfl, rfl⟩

/-- Either there is a list as soon as it has been asked for, or all that are to come are listed. -/
theorem beginDiscovery_deliveries (unresolved : state.gate.isResolved = false)
    (brings : ∀ arrival ∈ state.arrivals, arrival.bringsApps = true) :
    (state.beginDiscovery.gate.isResolved = true ∧ state.now ∈ state.deliveries) ∨
    (state.beginDiscovery.gate.isResolved = false ∧
      ∀ due, due ∈ state.beginDiscovery.arrivals.map Arrival.due ↔ due ∈ state.deliveries) := by
  have kept : state.arrivals.filter Arrival.bringsApps = state.arrivals :=
    List.filter_eq_self.mpr brings
  rw [deliveries, kept]
  rcases beginDiscovery_cases unresolved with ⟨apps, delivers, atOnce, same⟩ |
    ⟨arrivals, same, listed⟩
  · rw [same]
    exact .inl ⟨rfl, by simp [delivers, atOnce]⟩
  · rw [same]
    refine .inr ⟨unresolved, fun due => ?_⟩
    simp only [List.mem_map, List.mem_append, Option.mem_toList, listed]
    grind

namespace Bare

theorem beginDiscovery (bare : state.Bare) (idle : state.discovery = none) :
    state.beginDiscovery.Bare where
  unheld := by
    obtain ⟨seen, drift, -⟩ := state.beginDiscovery_drift
    exact drift.held_none bare.unheld
  brings := by
    intro arrival comes
    cases resolved : state.gate.isResolved with
    | true => exact bare.brings arrival (beginDiscovery_resolved resolved ▸ comes)
    | false =>
        rcases beginDiscovery_cases resolved with ⟨apps, -, -, same⟩ | ⟨arrivals, same, listed⟩
        · rw [same] at comes
          exact bare.brings arrival comes
        · rw [same] at comes
          rcases (listed arrival).mp comes with before | ⟨apps, -, rfl⟩
          · exact bare.brings arrival before
          · rfl
  punctual := beginDiscovery_punctual bare.punctual
  timely := beginDiscovery_timely idle

theorem discover_now (bare : state.Bare) (idle : state.discovery = none) :
    state.discover.now = state.listEnd := by
  cases unresolved : state.gate.isResolved with
  | true => simp [discover_resolved unresolved idle, listEnd, unresolved]
  | false =>
      obtain ⟨running, timeout⟩ := beginDiscovery_requests unresolved
      have asked := bare.beginDiscovery idle
      rw [discover, listEnd, unresolved]
      simp only [Bool.false_eq_true, if_false]
      rcases beginDiscovery_deliveries unresolved bare.brings with ⟨there, now⟩ | ⟨missing, listed⟩
      · rw [asked.returned running there]
        cases first : state.deliveries.min? with
        | none =>
            rw [List.min?_eq_none_iff.mp first] at now
            cases now
        | some earliest =>
            have early := (List.min?_eq_some_iff.mp first).2 _ now
            have before : earliest ≤ state.now + state.television.appListDelay :=
              Nat.le_trans early (Nat.le_add_right _ _)
            simp only [if_pos before]
      · rw [asked.requesting running missing, nextList_min? asked.punctual.ordered,
          min?_congr listed, timeout]
        cases state.deliveries.min? with
        | none =>
            simp only [Option.elim]
            omega
        | some first =>
            simp only [Option.elim]
            split <;> omega

end Bare

end State

end Televisor.Run
