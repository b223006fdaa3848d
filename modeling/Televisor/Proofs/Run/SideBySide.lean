import Televisor.Proofs.Discovery.Ending
import Televisor.Proofs.Run.Publication
import Televisor.Proofs.Telemetry.Beside

namespace Televisor.Run

open Controller Discovery Network Rendering Telemetry

/-! A poll that finds the television on waits for the list of applications and begins a session side
by side.  Each of the two goes as it would go alone, and the poll ends with the later of them. -/

namespace State

variable {state : State}

/-! What a poll does before and after, looked at from either side. -/

theorem queryPower_onlyApps (ordered : state.Ordered) :
    state.queryPower.1.onlyApps =
      state.onlyApps.passTo (state.now + state.television.onDelay) := by
  have other : Call.isOn ≠ .requestAppList := nofun
  have asked : (state.call .isOn).Ordered := ordered
  have waited : ((state.call .isOn).wait state.television.onDelay).onlyApps =
      state.onlyApps.passTo (state.now + state.television.onDelay) :=
    (View.apps.passTo asked).trans (congrArg (passTo · _) (call_onlyApps other))
  unfold queryPower
  simp only
  split
  · exact (refuse_onlyApps _).trans waited
  · exact waited

theorem setPower_onlyApps (state : State) (power : Media.Power) :
    (state.setPower power).onlyApps = state.onlyApps := rfl

theorem clearWindow_onlyApps (state : State) : state.clearWindow.onlyApps = state.onlyApps := rfl

theorem answered_onlyApps (ordered : state.Ordered) :
    state.answered.onlyApps = state.onlyApps.passTo (state.now + state.television.onDelay) := by
  rw [answered, clearWindow_onlyApps, setPower_onlyApps, queryPower_onlyApps ordered]

theorem queryPower_besidesApps (ordered : state.Ordered) :
    state.queryPower.1.besidesApps = state.besidesApps.queryPower.1 := by
  have other : Call.isOn ≠ .requestAppList := nofun
  have asked : (state.call .isOn).Ordered := ordered
  have waited := wait_besidesApps asked state.television.onDelay
  rw [call_besidesApps other] at waited
  have television : (state.call .isOn).television = state.television := rfl
  have same : (state.besidesApps.call .isOn).television = state.television := rfl
  unfold queryPower
  simp only [television, same]
  split
  · exact (refuse_besidesApps _).trans (congrArg refuse waited)
  · exact waited

theorem answered_besidesApps (ordered : state.Ordered) :
    state.answered.besidesApps = state.besidesApps.answered :=
  congrArg (fun queried => (queried.setPower (powerOf state.television.on)).clearWindow)
    (queryPower_besidesApps ordered)

theorem publish_besidesApps (state : State) : state.publish.besidesApps = state.besidesApps := by
  rcases state.publish_cases with ⟨-, same⟩ | ⟨-, same⟩
  · rw [same]
    rfl
  · rw [same]
    simp [note, besidesApps, Record.besidesApps, Record.published?]

theorem refresh_besidesApps (state : State) : state.refresh.besidesApps = state.besidesApps := by
  obtain ⟨volume, muted, same⟩ := state.refresh_eq
  rw [same]
  rfl

/-- Neither side sees what is published, nor what is taken over from a session before. -/
theorem published_onlyApps (state : State) : state.refresh.publish.onlyApps = state.onlyApps :=
  (publish_onlyApps _).trans (refresh_onlyApps _)

theorem published_besidesApps (state : State) :
    state.refresh.publish.besidesApps = state.besidesApps :=
  (publish_besidesApps _).trans (refresh_besidesApps _)

/-! The list is asked for on one side only. -/

theorem promiseApps_onlyApps (ordered : state.Ordered) :
    state.promiseApps.onlyApps = state.onlyApps.promiseApps := by
  have television : state.onlyApps.television = state.television := rfl
  unfold promiseApps
  rw [television]
  split
  · rfl
  · rename_i apps _
    split
    · exact state.deliver_onlyApps apps
    · have comes : (insertArrival ⟨state.now + state.television.appsDelay, .apps apps⟩
          state.arrivals).filter Arrival.bringsApps =
            insertArrival ⟨state.now + state.television.appsDelay, .apps apps⟩
              (state.arrivals.filter Arrival.bringsApps) :=
        insertArrival_filter _ ordered rfl
      simp only [onlyApps, comes]

theorem beginDiscovery_onlyApps (ordered : state.Ordered) :
    state.beginDiscovery.onlyApps = state.onlyApps.beginDiscovery := by
  have asked : (state.call .requestAppList).Ordered := ordered
  have called : (state.call .requestAppList).onlyApps = state.onlyApps.call .requestAppList := by
    simp [call, note, onlyApps, List.filter_cons, Record.ofApps]
  have promised := promiseApps_onlyApps asked
  rw [called] at promised
  have gate : state.onlyApps.gate = state.gate := rfl
  unfold beginDiscovery
  rw [gate]
  split
  · rfl
  · rw [← promised]
    rfl

theorem promiseApps_besidesApps (state : State) :
    state.promiseApps.besidesApps = state.besidesApps := by
  unfold promiseApps
  split
  · rfl
  · rename_i apps _
    split
    · exact state.deliver_besidesApps apps
    · have hidden : (insertArrival ⟨state.now + state.television.appsDelay, .apps apps⟩
          state.arrivals).filter (!·.bringsApps) = state.arrivals.filter (!·.bringsApps) :=
        insertArrival_hidden _ _ rfl
      simp only [besidesApps, hidden]

theorem beginDiscovery_besidesApps (state : State) :
    state.beginDiscovery.besidesApps = state.besidesApps := by
  have called : (state.call .requestAppList).besidesApps = state.besidesApps := by
    simp [call, note, besidesApps, Record.besidesApps, Record.ofApps]
  have promised := (state.call .requestAppList).promiseApps_besidesApps.trans called
  unfold beginDiscovery
  split
  · rfl
  · exact promised

theorem Resting.begun_besidesApps (resting : state.Resting) :
    state.beginDiscovery.startTelemetry.besidesApps = state.besidesApps.startTelemetry := by
  rw [startTelemetry_besidesApps (beginDiscovery_ordered resting.ordered),
    beginDiscovery_besidesApps]

/-! Both are done. -/

theorem tick_joined (state : State) (clear : state.guards.hold = false)
    (closed : state.controller.isPoweringOff state.now = false)
    (isOn : state.television.on = .ok true) :
    state.tick.onlyApps = state.answered.joined.onlyApps ∧
      state.tick.besidesApps = state.answered.joined.besidesApps := by
  have joined : state.tick = state.answered.joined.refresh.publish := by
    rw [tick_eq_publish, gather_asking _ clear closed, if_pos (powerOf_eq_on.mpr isOn)]
    rfl
  rw [joined]
  exact ⟨published_onlyApps _, published_besidesApps _⟩

theorem Resting.discover_onlyApps (resting : state.Resting) :
    state.discover.onlyApps = state.onlyApps.discover := by
  have follows : View.apps.Follows := fun _ => ⟨rfl, rfl, rfl⟩
  have awaited := follows.awaitDiscovery (beginDiscovery_ordered resting.ordered)
    (beginDiscovery_timely resting.idle)
  exact awaited.trans (congrArg awaitDiscovery (beginDiscovery_onlyApps resting.ordered))

/-- Once a session has been begun the list comes as if only time had passed. -/
theorem Resting.joined_onlyApps (resting : state.Resting) (punctual : state.onlyApps.Punctual) :
    state.joined.onlyApps =
      state.onlyApps.discover.passTo state.beginDiscovery.startTelemetry.now := by
  have follows : View.apps.Follows := fun _ => ⟨rfl, rfl, rfl⟩
  have asked := beginDiscovery_onlyApps resting.ordered
  have punctualAsked : state.beginDiscovery.onlyApps.Punctual := by
    rw [asked]
    exact beginDiscovery_punctual punctual
  have timelyAsked := follows.timely (beginDiscovery_timely resting.idle)
  have begun := state.beginDiscovery.startTelemetry_elapsed.apps
    (beginDiscovery_ordered resting.ordered) punctualAsked
  calc state.joined.onlyApps
      = state.beginDiscovery.startTelemetry.onlyApps.awaitDiscovery :=
        follows.awaitDiscovery resting.begun_ordered resting.begun_timely
    _ = (state.beginDiscovery.onlyApps.passTo
          state.beginDiscovery.startTelemetry.now).awaitDiscovery := by rw [begun]
    _ = state.beginDiscovery.onlyApps.awaitDiscovery.passTo
          state.beginDiscovery.startTelemetry.now :=
        passTo_awaitDiscovery timelyAsked punctualAsked _
    _ = state.onlyApps.discover.passTo state.beginDiscovery.startTelemetry.now := by
        rw [asked, discover]

/-- The list comes as it comes alone, and both are done when the later of them is. -/
theorem Resting.joined_apps (resting : state.Resting) (punctual : state.onlyApps.Punctual) :
    state.joined.onlyApps = state.onlyApps.discover.passTo state.joined.now ∧
      state.joined.now =
        max state.onlyApps.discover.now state.beginDiscovery.startTelemetry.now := by
  have joined := resting.joined_onlyApps punctual
  have now : state.joined.now =
      max state.onlyApps.discover.now state.beginDiscovery.startTelemetry.now :=
    (congrArg (·.now) joined).trans (passTo_now _ _)
  have waited : state.onlyApps.discover.Punctual :=
    awaitDiscovery_punctual (beginDiscovery_timely resting.idle) (beginDiscovery_punctual punctual)
  exact ⟨joined.trans (now ▸ (waited.passTo_max _).symm), now⟩

/-- Later it is as if a session had been begun and nobody had waited for the list. -/
theorem Resting.joined_later (resting : state.Resting) {instant : Nat}
    (past : state.joined.now < instant) : (state.joined.passTo instant).besidesApps =
      state.besidesApps.startTelemetry.passTo instant := by
  have waited : state.joined.passTo instant = state.beginDiscovery.startTelemetry.passTo instant :=
    awaitDiscovery_passTo resting.begun_timely past
  rw [waited, passTo_besidesApps resting.begun_ordered, resting.begun_besidesApps]

/-! The same poll with only one thing to do. -/

/-- There is no renderer to begin a session with. -/
def withoutLocation (state : State) : State :=
  { state with
    controller :=
      { state.controller with options := { state.controller.options with location := none } } }

/-- The gate is as given. -/
def withGate (state : State) (gate : Gate) : State :=
  { state with gate := gate }

theorem startTelemetry_nowhere (nowhere : state.controller.options.location = none) :
    state.startTelemetry = state := by
  unfold startTelemetry
  rw [nowhere]
  cases state.held <;> rfl

theorem withoutLocation_joined (state : State) :
    state.withoutLocation.answered.joined = state.withoutLocation.answered.discover := by
  obtain ⟨asking, asked⟩ := state.withoutLocation.queryPower_passage
  obtain ⟨seen, begun, -⟩ := state.withoutLocation.answered.beginDiscovery_drift
  have answered : state.withoutLocation.answered.controller.options.location = none :=
    congrArg Options.location asked.options
  have nowhere := (congrArg Options.location begun.options).trans answered
  rw [joined, startTelemetry_nowhere nowhere]
  rfl

theorem withGate_joined (resting : state.Resting) {gate : Gate} (resolved : gate.isResolved = true) :
    (state.withGate gate).answered.joined = (state.withGate gate).answered.startTelemetry := by
  have rested : (state.withGate gate).Resting := ⟨resting.idle, resting.ordered⟩
  have still : (state.withGate gate).answered.gate.isResolved = true :=
    (state.withGate gate).answered_meanwhile.resolved resolved
  have idle := (state.withGate gate).answered.startTelemetry_meanwhile.idle rested.answered.idle
  rw [joined, beginDiscovery_resolved still, awaitDiscovery_idle idle]

end State

/-- Of a poll `both` that has waited for the list and begun a session: the same poll without a
renderer comes to `apps`, and without a list to wait for it comes to `besides`. -/
structure SideBySide (both apps besides : State) : Prop where
  /-- What is known of the list is what is known without a renderer when the same time has passed. -/
  gate : both.gate = (apps.passTo both.now).gate
  lists : both.onlyApps = (apps.passTo both.now).onlyApps
  /-- The session is the one that is there without a list to wait for, but for what comes to it. -/
  held : both.held.map Session.still = besides.held.map Session.still
  receivers : both.receivers = besides.receivers
  /-- It was begun in the same way, and has gone on by itself. -/
  seen : ∃ meanwhile, (∀ record ∈ meanwhile, record.Spontaneous) ∧
    both.trace.filter Record.besidesApps = meanwhile ++ besides.trace.filter Record.besidesApps
  /-- Whoever looks later sees no difference at all. -/
  later : ∀ instant, both.now < instant →
    (both.passTo instant).held = (besides.passTo instant).held ∧
    (both.passTo instant).besidesApps = (besides.passTo instant).besidesApps
  /-- It ends with the later of the two. -/
  ends : both.now = max apps.now besides.now

namespace State

variable {state : State}

/-- Of what has a part in how the list comes, nothing is overdue when the television has answered. -/
theorem Resting.answered_bare (resting : state.Resting) : state.answered.onlyApps.Bare where
  unheld := rfl
  brings := fun _ member => (List.mem_filter.mp member).2
  punctual := by
    rw [answered_onlyApps resting.ordered]
    exact passTo_punctual (resting.ordered.filter _) (Nat.le_add_right _ _)
  timely := timely_of_idle resting.answered.idle

section Polls

variable (resting : state.Resting) (clear : state.guards.hold = false)
  (closed : state.controller.isPoweringOff state.now = false)
  (isOn : state.television.on = .ok true) {gate : Gate} (resolved : gate.isResolved = true)

include resting clear closed isOn

theorem tick_withoutLocation :
    state.withoutLocation.tick.onlyApps = state.answered.onlyApps.discover := by
  have rested : state.withoutLocation.Resting := ⟨resting.idle, resting.ordered⟩
  have answered : state.withoutLocation.answered.onlyApps = state.answered.onlyApps :=
    (answered_onlyApps rested.ordered).trans (answered_onlyApps resting.ordered).symm
  have joined : state.withoutLocation.tick.onlyApps =
      state.withoutLocation.answered.joined.onlyApps :=
    (state.withoutLocation.tick_joined clear closed isOn).1
  rw [joined, withoutLocation_joined, rested.answered.discover_onlyApps, answered]

/-- The list comes as it does without a renderer. -/
theorem tick_lists :
    state.tick.onlyApps = (state.withoutLocation.tick.passTo state.tick.now).onlyApps ∧
      state.tick.now =
        max state.withoutLocation.tick.now state.answered.beginDiscovery.startTelemetry.now := by
  have rested : state.withoutLocation.Resting := ⟨resting.idle, resting.ordered⟩
  obtain ⟨lists, ends⟩ := resting.answered.joined_apps resting.answered_bare.punctual
  have both := (state.tick_joined clear closed isOn).1
  have alone := tick_withoutLocation resting clear closed isOn
  constructor
  · rw [both, lists, now_of_onlyApps both, ← alone]
    exact (View.apps.passTo rested.tick.ordered).symm
  · rw [now_of_onlyApps both, ends, ← alone]
    rfl

include resolved

theorem tick_withGate : (state.withGate gate).tick.besidesApps =
    state.answered.beginDiscovery.startTelemetry.besidesApps := by
  have rested : (state.withGate gate).Resting := ⟨resting.idle, resting.ordered⟩
  have answered : (state.withGate gate).answered.besidesApps = state.answered.besidesApps :=
    (answered_besidesApps rested.ordered).trans (answered_besidesApps resting.ordered).symm
  have joined : (state.withGate gate).tick.besidesApps =
      (state.withGate gate).answered.joined.besidesApps :=
    ((state.withGate gate).tick_joined clear closed isOn).2
  rw [joined, withGate_joined resting resolved, startTelemetry_besidesApps rested.answered.ordered,
    answered, resting.answered.begun_besidesApps]

/-- The session goes on as it does without a list to wait for. -/
theorem tick_later {instant : Nat} (past : state.tick.now < instant) :
    (state.tick.passTo instant).besidesApps =
      ((state.withGate gate).tick.passTo instant).besidesApps := by
  have rested : (state.withGate gate).Resting := ⟨resting.idle, resting.ordered⟩
  have both := (state.tick_joined clear closed isOn).2
  have known := tick_withGate resting clear closed isOn resolved
  have joined := resting.answered.joined_later (now_of_besidesApps both ▸ past)
  rw [passTo_besidesApps resting.tick.ordered, both,
    ← passTo_besidesApps resting.answered.joined.ordered, joined,
    passTo_besidesApps rested.tick.ordered, known, resting.answered.begun_besidesApps]

theorem tick_sideBySide :
    SideBySide state.tick state.withoutLocation.tick (state.withGate gate).tick := by
  obtain ⟨lists, ends⟩ := tick_lists resting clear closed isOn
  have both := (state.tick_joined clear closed isOn).2
  have known := tick_withGate resting clear closed isOn resolved
  have later (instant : Nat) (past : state.tick.now < instant) :=
    tick_later resting clear closed isOn resolved past
  obtain ⟨meanwhile, waited⟩ := state.answered.beginDiscovery.startTelemetry.awaitDiscovery_passage
  refine {
    gate := congrArg (·.gate) lists
    lists := lists
    held := ?_
    receivers := ?_
    seen := ⟨meanwhile.filter Record.besidesApps, ?_, ?_⟩
    later := fun instant past =>
      ⟨held_of_besidesApps (later instant past), later instant past⟩
    ends := ?_ }
  · rw [held_of_besidesApps both, held_of_besidesApps known]
    exact waited.held
  · rw [receivers_of_besidesApps both, receivers_of_besidesApps known]
    exact waited.receivers
  · exact fun record member => waited.spontaneous record (List.mem_filter.mp member).1
  · rw [seen_of_besidesApps both, seen_of_besidesApps known, ← List.filter_append, ← waited.trace]
    rfl
  · rw [ends, now_of_besidesApps known]

end Polls

/-- Only the lists count for when a wait for them ends. -/
theorem listEnd_onlyApps (state : State) : state.onlyApps.listEnd = state.listEnd := by
  have filtered : (state.arrivals.filter Arrival.bringsApps).filter Arrival.bringsApps =
      state.arrivals.filter Arrival.bringsApps := by simp [List.filter_filter]
  have deliveries : state.onlyApps.deliveries = state.deliveries := by
    simp only [State.deliveries, onlyApps, filtered]
  simp only [listEnd, deliveries]
  rfl

theorem reconcile_on (clear : state.guards.hold = false)
    (on : (state.reconcile state.guards).controller.power = .on) :
    state.controller.isPoweringOff state.now = false ∧ state.television.on = .ok true := by
  cases isOpen : state.controller.isPoweringOff state.now with
  | true => simp [reconcile, clear, isOpen, setPower] at on
  | false =>
      have reconciled : state.reconcile state.guards = state.answered := by
        rw [reconcile, clear, isOpen]
        rfl
      rw [reconciled, answered_power] at on
      exact ⟨rfl, powerOf_eq_on.mp on⟩

/-- Polls publish last, whatever has become of anything before. -/
theorem tick_publishes (state : State) :
    state.tick.controller.published =
        state.tick.controller.mediaState state.tick.gate state.tick.now ∧
      state.tick.controller.publishedAt = state.tick.now := by
  have last : state.tick.controller.publishedAt = state.tick.now := by
    rw [tick_eq_publish, publish_controller, publish_publishedAt, publish_now]
  refine ⟨?_, last⟩
  rw [← last, tick_eq_publish]
  exact publish_current _

/-- Every poll that finds the television on lets the list come as if there was no renderer, and begins
its session as if there was no list to wait for; it is done when the later of both is.  The list is
waited for until its request has returned if it has come by then, and otherwise until it comes or
the timeout is over that begins with the return.  At the end of every poll what is observable then
is published. -/
theorem tick_side_by_side (options : Options) (television : Television) (host : Host)
    (replies : Replies) (patience : Option Nat) (operations : List Operation) (gate : Gate)
    (resolved : gate.isResolved = true) :
    let state := (State.initial options television host replies patience).run operations
    (state.guards.hold = false → (state.reconcile state.guards).controller.power = .on →
      SideBySide state.tick state.withoutLocation.tick (state.withGate gate).tick ∧
      state.withoutLocation.tick.now = state.answered.listEnd ∧
      state.tick.controller.power = .on) ∧
    state.tick.controller.published =
      state.tick.controller.mediaState state.tick.gate state.tick.now ∧
    state.tick.controller.publishedAt = state.tick.now := by
  intro state
  refine ⟨fun clear on => ?_, state.tick_publishes⟩
  have resting : state.Resting := (Resting.initial _ _ _ _ _).run operations
  have housed : state.Housed := (Housed.initial _ _ _ _ _).run operations
  obtain ⟨closed, isOn⟩ := reconcile_on clear on
  have alone := tick_withoutLocation resting clear closed isOn
  refine ⟨tick_sideBySide resting clear closed isOn resolved, ?_, ?_⟩
  · have ends : state.withoutLocation.tick.now = state.answered.onlyApps.discover.now :=
      congrArg (·.now) alone
    rw [ends, resting.answered_bare.discover_now resting.answered.idle, listEnd_onlyApps]
  · obtain ⟨guest, rest, asked⟩ := gather_asked clear closed housed.lodged housed.settled
    rw [tick_eq_publish, publish_controller, publish_power, asked.power, isOn]
    rfl

/-- A television that takes half a second to deliver its list, and whose renderer takes two seconds
to refuse a connection. -/
def tardy : State :=
  .initial ⟨"TV", "tv", none, none, some "http://10.0.0.2/tv", 10000, 3000⟩
    ⟨.ok true, 20, false, none, 0, none, true, none, none, 100, some (.ofPairs [("Music", "1")]), 500⟩
    (.unrouted 8058 "/notify/6f2c") [("GET", [⟨.breakdown (.connect "connection refused"), 2000⟩])] none

/-- The poll takes two seconds and not two and a half, and publishes although no session is begun. -/
theorem tardy_side_by_side :
    tardy.guards.hold = false ∧ (tardy.reconcile tardy.guards).controller.power = .on ∧
      Gate.empty.isResolved = true ∧
      SideBySide tardy.tick tardy.withoutLocation.tick (tardy.withGate .empty).tick ∧
      tardy.withoutLocation.tick.now = 520 ∧ (tardy.withGate .empty).tick.now = 2020 ∧
      tardy.tick.now = 2020 ∧ tardy.tick.held = none ∧ tardy.tick.controller.power = .on ∧
      tardy.tick.controller.publishedAt = 2020 := by
  have clear : tardy.guards.hold = false := rfl
  have on : (tardy.reconcile tardy.guards).controller.power = .on := rfl
  have resolved : Gate.empty.isResolved = true := rfl
  have listEnd : tardy.answered.listEnd = 520 := by decide +kernel
  have ⟨known, unheld⟩ : (tardy.withGate .empty).tick.now = 2020 ∧ tardy.tick.held = none := by
    decide +kernel
  obtain ⟨sides, -, publishedAt⟩ := tick_side_by_side _ _ _ _ _ [] .empty resolved
  obtain ⟨sideBySide, ends, power⟩ := sides clear on
  have alone : tardy.withoutLocation.tick.now = 520 := ends.trans listEnd
  have later : tardy.tick.now =
      max tardy.withoutLocation.tick.now (tardy.withGate .empty).tick.now := sideBySide.ends
  have both : tardy.tick.now = 2020 := by
    rw [later, alone, known]
    rfl
  exact ⟨clear, on, resolved, sideBySide, alone, known, both, unheld, power,
    publishedAt.trans both⟩

end State

end Televisor.Run
