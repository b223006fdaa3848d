import Televisor.Proofs.Telemetry.Housing

namespace Televisor.Run

open Controller Discovery Network Rendering Telemetry

/-! What becomes of the gate and of the wait for the list of applications while nobody asks for the
list: deliveries reach the gate, it stays resolved, and a wait comes to its end only by resolving
it. -/

/-- How often the television has been asked for its list of applications. -/
def requestsIn (trace : List Record) : Nat :=
  (callsIn trace).count .requestAppList

namespace State

/-- The gate has the list that was delivered last. -/
def Current (state : State) : Prop :=
  state.gate.apps? = deliveredIn state.trace

/-- Somebody waits for the list, or waiting for it is over. -/
def Pursued (state : State) : Prop :=
  state.discovery.isSome = true ∨ state.gate.isResolved = true

/-- What is waited for is not overdue, and the wait ends by the given instant. -/
def Within (bound : Nat) (state : State) : Prop :=
  ∀ phase, state.discovery = some phase →
    state.now ≤ phase.due ∧ phase.latest state.appListTimeout ≤ bound

def Timely (state : State) : Prop :=
  ∃ bound, state.Within bound

theorem Within.timely {state : State} {bound : Nat} (within : state.Within bound) : state.Timely :=
  ⟨bound, within⟩

theorem timely_of_idle {state : State} (idle : state.discovery = none) : state.Timely :=
  ⟨0, fun phase running => by simp [idle] at running⟩

end State

structure Meanwhile (before after : State) : Prop where
  trace : before.trace <:+ after.trace
  resolved : before.gate.isResolved = true → after.gate.isResolved = true
  current : before.Current → after.Current
  requests : requestsIn after.trace = requestsIn before.trace
  idle : before.discovery = none → after.discovery = none
  pursued : before.Pursued → after.Pursued
  within : ∀ bound, before.Within bound → after.Within bound

namespace Meanwhile

variable {before middle after : State}

theorem refl (state : State) : Meanwhile state state :=
  ⟨List.suffix_refl _, id, id, rfl, id, id, fun _ => id⟩

theorem trans (first : Meanwhile before middle) (second : Meanwhile middle after) :
    Meanwhile before after where
  trace := first.trace.trans second.trace
  resolved := second.resolved ∘ first.resolved
  current := second.current ∘ first.current
  requests := second.requests.trans first.requests
  idle := second.idle ∘ first.idle
  pursued := second.pursued ∘ first.pursued
  within := fun bound => second.within bound ∘ first.within bound

theorem timely (meanwhile : Meanwhile before after) (timely : before.Timely) : after.Timely :=
  timely.imp meanwhile.within

/-- Something that neither the gate nor the wait has a part in. -/
theorem aside (gate : after.gate = before.gate) (discovery : after.discovery = before.discovery)
    (now : after.now = before.now) (trace : after.trace = before.trace)
    (patience : after.appListTimeout = before.appListTimeout) : Meanwhile before after where
  trace := trace ▸ List.suffix_refl _
  resolved := by rw [gate]; exact id
  current := by rw [State.Current, State.Current, gate, trace]; exact id
  requests := by rw [trace]
  idle := by rw [discovery]; exact id
  pursued := by rw [State.Pursued, State.Pursued, gate, discovery]; exact id
  within := by
    intro bound
    rw [State.Within, State.Within, discovery, now, patience]
    exact id

end Meanwhile

namespace State

variable (state : State)

theorem note_meanwhile (what : Occurrence) (undelivered : Record.delivered? ⟨state.now, what⟩ = none)
    (unasked : what ≠ .called .requestAppList) : Meanwhile state (state.note what) where
  trace := List.suffix_cons _ _
  resolved := id
  current := by
    have same : deliveredIn (state.note what).trace = deliveredIn state.trace := by
      simp [note, deliveredIn, undelivered]
    rw [Current, Current, same]
    exact id
  requests := by
    cases what with
    | called call =>
        have other : call ≠ .requestAppList := fun same => unasked (congrArg _ same)
        simp [note, requestsIn, callsIn, Record.call?, other]
    | _ => rfl
  idle := id
  pursued := id
  within := fun _ => id

theorem call_meanwhile (call : Call) (other : call ≠ .requestAppList) :
    Meanwhile state (state.call call) :=
  state.note_meanwhile (.called call) rfl (by simpa using other)

theorem raise_meanwhile (event : Event) : Meanwhile state (state.raise event) :=
  (state.note_meanwhile (.raised event) rfl nofun).trans (.aside rfl rfl rfl rfl rfl)

theorem send_meanwhile (request : Request) : Meanwhile state (state.send request).1 := by
  unfold send
  split
  · exact .refl state
  · rename_i built _
    exact (state.call_meanwhile (.http built) nofun).trans (.aside rfl rfl rfl rfl rfl)

theorem deliver_meanwhile (apps : Apps) : Meanwhile state (state.deliver apps) where
  trace := (List.suffix_cons _ _).trans (List.suffix_cons _ _)
  resolved := fun _ => rfl
  current := fun _ => rfl
  requests := rfl
  idle := fun idle => by simp [deliver, raise, note, idle]
  pursued := fun _ => .inr rfl
  within := by
    intro bound within phase waits
    have still : state.discovery.bind Phase.delivered? = some phase := waits
    obtain ⟨before, waited, same⟩ := Option.bind_eq_some_iff.mp still
    cases before with
    | requesting due =>
        obtain rfl : Phase.requesting due = phase := Option.some.inj same
        exact within _ waited
    | waiting deadline => contradiction

theorem receiveBy_meanwhile (session : Session) (body : String) (put : Session → State)
    (aside : ∀ after, Meanwhile state (put after)) :
    Meanwhile state (receiveBy session body put) := by
  unfold receiveBy
  split
  split
  · exact ((aside _).trans (note_meanwhile _ (.took _ _) rfl nofun)).trans (raise_meanwhile _ _)
  · exact (aside _).trans (note_meanwhile _ (.took _ _) rfl nofun)

theorem refuse_meanwhile : Meanwhile state state.refuse := by
  have refused : Meanwhile state
      { state with controller := { state.controller with authFailed := true } } :=
    .aside rfl rfl rfl rfl rfl
  exact refused.trans (raise_meanwhile _ _)

theorem receive_meanwhile (number : Nat) (body : String) :
    Meanwhile state (state.receive number body) := by
  unfold receive
  split
  · split
    · exact state.receiveBy_meanwhile _ _ _ fun _ => .aside rfl rfl rfl rfl rfl
    · split
      · exact state.receiveBy_meanwhile _ _ _ fun _ => .aside rfl rfl rfl rfl rfl
      · exact .refl state
  · exact .refl state

theorem happen_meanwhile (what : Happening) : Meanwhile state (state.happen what) := by
  cases what with
  | apps apps => exact state.deliver_meanwhile apps
  | refusal => exact state.refuse_meanwhile
  | body number body => exact state.receive_meanwhile number body
  | delivery number delivery =>
      exact state.happen_delivery number delivery (.refl state) (state.receive_meanwhile number)

/-- A wait goes on from the request's return to the deadline, and ends with the gate resolved. -/
theorem continueDiscovery_meanwhile {phase : Phase} (running : state.discovery = some phase)
    (returned : state.Timely → state.now = phase.due) :
    Meanwhile state (state.continueDiscovery phase) := by
  have busy : state.discovery ≠ none := by simp [running]
  cases phase with
  | requesting due =>
      cases resolved : state.gate.isResolved with
      | true =>
          simp only [continueDiscovery, resolved, if_true]
          refine ⟨List.suffix_refl _, fun _ => resolved, id, rfl, fun _ => rfl, fun _ => .inr resolved, ?_⟩
          rintro bound within phase ⟨⟩
      | false =>
          simp only [continueDiscovery, resolved, Bool.false_eq_true, if_false]
          refine ⟨List.suffix_refl _, fun already => absurd already (by simp [resolved]), id, rfl,
            fun idle => absurd idle busy, fun _ => .inl rfl, fun bound within phase waits => ?_⟩
          obtain rfl : Phase.waiting (state.now + state.appListTimeout) = phase :=
            Option.some.inj waits
          have latest := (within _ running).2
          have now : state.now = due := returned within.timely
          simp only [Phase.latest] at latest
          exact ⟨Nat.le_add_right _ _, now ▸ latest⟩
  | waiting deadline =>
      have kept : state.gate.expire.apps? = state.gate.apps? := by
        cases state.gate <;> rfl
      have expired : state.gate.expire.isResolved = true := by
        cases state.gate <;> rfl
      refine ⟨List.suffix_refl _, fun _ => expired, fun current => kept.trans current, rfl, fun _ => rfl,
        fun _ => .inr expired, ?_⟩
      rintro bound within phase ⟨⟩

theorem hold_meanwhile (session : Session) : Meanwhile state (state.hold session) :=
  .aside rfl rfl rfl rfl rfl

theorem sendFor_meanwhile (session : Session) (task : RenewalTask) (request : Request)
    (next : Exchange → Renewal) : Meanwhile state (state.sendFor session task request next) :=
  (state.send_meanwhile request).trans (hold_meanwhile _ _)

theorem reported_meanwhile (task : RenewalTask) : Meanwhile state (state.reported task) := by
  refine reported_cases state task (.refl state) fun asker answer asked => ?_
  refine state.note_meanwhile (.answered asker answer) rfl ?_
  rintro ⟨⟩

theorem continueRenewal_meanwhile (session : Session) (task : RenewalTask) :
    Meanwhile state (state.continueRenewal session task) := by
  refine (state.reported_meanwhile task).trans ?_
  have turn := state.continueRenewal_turn session task
  generalize state.reported task = told at turn ⊢
  generalize state.continueRenewal session task = after at turn ⊢
  cases turn with
  | ends | sleeps _ | granted _ => exact told.hold_meanwhile _
  | renews _ | subscribes _ => exact told.sendFor_meanwhile session task _ _

/-- The clock may go on up to what the wait is about. -/
theorem reach_meanwhile (instant : Nat)
    (early : ∀ phase, state.discovery = some phase → instant ≤ phase.due) :
    Meanwhile state (state.reach instant) :=
  ⟨List.suffix_refl _, id, id, rfl, id, id, fun _ within phase running =>
    ⟨Nat.max_le.mpr ⟨(within phase running).1, early phase running⟩, (within phase running).2⟩⟩

end State

theorem Activity.earlier?_due {first second : Option Activity} {chosen : Activity}
    (earlier : Activity.earlier? first second = some chosen) (other : Activity)
    (either : first = some other ∨ second = some other) : chosen.due ≤ other.due := by
  unfold Activity.earlier? at earlier
  split at earlier
  · rcases either with none | same
    · contradiction
    · cases earlier.symm.trans same
      exact Nat.le_refl _
  · rcases either with same | none
    · cases earlier.symm.trans same
      exact Nat.le_refl _
    · contradiction
  · rename_i first second
    split at earlier
    · obtain rfl : first = chosen := Option.some.inj earlier
      rcases either with same | same
      · cases same
        exact Nat.le_refl _
      · cases same
        assumption
    · obtain rfl : second = chosen := Option.some.inj earlier
      rcases either with same | same
      · cases same
        omega
      · cases same
        exact Nat.le_refl _

theorem Activity.earlier?_isSome {first second : Option Activity} {other : Activity}
    (either : first = some other ∨ second = some other) :
    ∃ chosen, Activity.earlier? first second = some chosen := by
  rcases either with rfl | rfl
  · cases second with
    | none => exact ⟨_, rfl⟩
    | some second =>
        simp only [Activity.earlier?]
        split <;> exact ⟨_, rfl⟩
  · cases first with
    | none => exact ⟨_, rfl⟩
    | some first =>
        simp only [Activity.earlier?]
        split <;> exact ⟨_, rfl⟩

namespace State

variable {state : State}

/-- Nothing is due later than what the wait is about. -/
theorem nextActivity?_le {phase : Phase} (running : state.discovery = some phase) :
    ∃ activity, state.nextActivity? = some activity ∧ activity.due ≤ phase.due := by
  have pending : state.pendingDiscovery? = some (.discovery phase) := by
    rw [pendingDiscovery?, running, Option.map_some]
  obtain ⟨inner, chosen⟩ : ∃ inner, Activity.earlier? state.pendingDiscovery?
      state.pendingArrival? = some inner := Activity.earlier?_isSome (.inl pending)
  obtain ⟨activity, next⟩ : ∃ activity, state.nextActivity? = some activity :=
    Activity.earlier?_isSome (.inl chosen)
  have first : inner.due ≤ phase.due := Activity.earlier?_due chosen _ (.inl pending)
  have second : activity.due ≤ inner.due := Activity.earlier?_due next _ (.inl chosen)
  exact ⟨activity, next, Nat.le_trans second first⟩

theorem perform_meanwhile {activity : Activity} (next : state.nextActivity? = some activity) :
    Meanwhile state (state.perform activity) := by
  have early (phase : Phase) (running : state.discovery = some phase) :
      activity.due ≤ phase.due := by
    obtain ⟨first, isNext, due⟩ := nextActivity?_le running
    cases isNext.symm.trans next
    exact due
  have reached := state.reach_meanwhile activity.due early
  rcases nextActivity?_cases next with ⟨phase, running, rfl⟩ | ⟨arrival, later, _, rfl⟩ |
    ⟨session, task, _, _, rfl⟩
  · refine reached.trans (continueDiscovery_meanwhile (state.reach phase.due) running ?_)
    rintro ⟨bound, within⟩
    exact Nat.le_antisymm (within phase running).1 (reach_ge _ _)
  · have taken : Meanwhile (state.reach arrival.due)
        { state.reach arrival.due with arrivals := later } := .aside rfl rfl rfl rfl rfl
    exact (reached.trans taken).trans (happen_meanwhile _ _)
  · exact reached.trans (continueRenewal_meanwhile _ session task)

theorem onward_meanwhile (state : State) : Meanwhile state state.onward := by
  unfold onward
  split
  · rename_i activity next
    exact perform_meanwhile next
  · exact .refl state

variable (state)

theorem passWhile_meanwhile (instant : Nat) (more : State → Bool) :
    Meanwhile state (passWhile instant more state) :=
  passWhile_keeps (Meanwhile state)
    (fun _ _ meanwhile next => meanwhile.trans (perform_meanwhile next)) instant more (.refl state)

/-- As long as things are to go on, what is left is not due before the instant. -/
theorem passWhile_left {instant : Nat} {more : State → Bool}
    (goesOn : more (passWhile instant more state) = true) (activity : Activity)
    (next : (passWhile instant more state).nextActivity? = some activity) :
    instant ≤ activity.due := by
  fun_induction passWhile instant more state with
  | case1 state _ activity' next' before ih => exact ih goesOn next
  | case2 state _ activity' next' late =>
      obtain rfl : activity' = activity := Option.some.inj (next'.symm.trans next)
      omega
  | case3 state _ idle => cases idle.symm.trans next
  | case4 state done => exact absurd goesOn done

theorem passTo_meanwhile (instant : Nat) : Meanwhile state (state.passTo instant) := by
  refine (state.passWhile_meanwhile instant fun _ => true).trans (reach_meanwhile _ instant ?_)
  intro phase running
  obtain ⟨activity, next, due⟩ := nextActivity?_le running
  exact Nat.le_trans (state.passWhile_left rfl activity next) due

theorem wait_meanwhile (duration : Nat) : Meanwhile state (state.wait duration) :=
  state.passTo_meanwhile _

/-- Whoever waits for the list comes back, as long as nothing was overdue. -/
theorem awaitDiscovery_done (timely : state.Timely) : state.awaitDiscovery.discovery = none := by
  unfold awaitDiscovery
  split
  · rename_i phase running
    obtain ⟨_, due⟩ := timely
    have start : state.Within (phase.latest state.appListTimeout) := by
      intro other same
      obtain rfl : phase = other := Option.some.inj (running.symm.trans same)
      exact ⟨(due phase running).1, Nat.le_refl _⟩
    have meanwhile := state.passWhile_meanwhile (phase.latest state.appListTimeout + 1)
      (·.discovery.isSome)
    have end_ := meanwhile.within _ start
    cases left : (passWhile (phase.latest state.appListTimeout + 1) (·.discovery.isSome)
        state).discovery with
    | none => rfl
    | some last =>
        -- What is left would be due before the latest end, so it would not have been left.
        obtain ⟨activity, next, early⟩ := nextActivity?_le left
        have late := state.passWhile_left (by simp [left]) activity next
        have bound : last.due ≤ phase.latest state.appListTimeout :=
          Nat.le_trans (last.due_le_latest _) (end_ last left).2
        omega
  · assumption

theorem awaitDiscovery_meanwhile : Meanwhile state state.awaitDiscovery := by
  unfold awaitDiscovery
  split
  · exact state.passWhile_meanwhile _ _
  · exact .refl state

/-! The activities of sessions, commands and polls besides. -/

theorem exchange_meanwhile (request : Request) : Meanwhile state (state.exchange request).1 :=
  (state.send_meanwhile request).trans (passTo_meanwhile _ _)

theorem updateReceiver_meanwhile (number : Nat) (change : Receiver → Receiver) :
    Meanwhile state (state.updateReceiver number change) :=
  .aside rfl rfl rfl rfl rfl

theorem startReceiver_meanwhile : Meanwhile state state.startReceiver.1 := by
  have routed := state.wait_meanwhile state.delays.route
  unfold startReceiver
  generalize state.wait state.delays.route = found at routed
  have added : Meanwhile found found.addReceiver.1 :=
    (found.call_meanwhile (.receiver (Receiver.new found.host).source) nofun).trans
      (.aside rfl rfl rfl rfl rfl)
  have bound := wait_meanwhile (found.addReceiver.1.call .startReceiver)
    found.addReceiver.1.host.startDelay
  have ready := ((routed.trans added).trans (call_meanwhile _ .startReceiver nofun)).trans bound
  simp only
  split
  · exact ready
  · have listens := ready.trans (updateReceiver_meanwhile _ found.addReceiver.2
      Receiver.listen)
    exact listens.trans (note_meanwhile _ (.listening found.addReceiver.2) rfl nofun)

theorem stopReceiver_meanwhile (number : Nat) : Meanwhile state (state.stopReceiver number) := by
  have ended := wait_meanwhile (state.call .stopReceiver) state.delays.stop
  have silenced := (state.call_meanwhile .stopReceiver nofun).trans (ended.trans
    (updateReceiver_meanwhile _ number Receiver.stop))
  exact silenced.trans (note_meanwhile _ (.stopped number) rfl nofun)

theorem askForEvents_meanwhile (control : Control) (renewing : Bool) :
    Meanwhile state (state.askForEvents control renewing).1 := by
  have called := state.call_meanwhile (.subscribe renewing) nofun
  unfold askForEvents
  split
  · exact called
  · exact (called.trans (exchange_meanwhile _ _)).trans (note_meanwhile _ _ rfl nofun)

theorem updateControl_meanwhile (change : Control → Control) :
    Meanwhile state (state.updateControl change) :=
  .aside rfl rfl rfl rfl rfl

theorem setUp_meanwhile (device : Device) (number : Nat) :
    Meanwhile state (state.setUp device number).1 := by
  have attached : Meanwhile state
      ((state.updateReceiver number Receiver.consume).call .attach) :=
    (state.updateReceiver_meanwhile number _).trans (call_meanwhile _ .attach nofun)
  unfold setUp
  simp only
  generalize (state.updateReceiver number Receiver.consume).call .attach = attaching
    at attached ⊢
  generalize Session.fresh (.ofDevice device ((state.receivers[number]?).bind Receiver.callback?))
    number = session
  have drafted : Meanwhile attaching { attaching with draft := some session } :=
    .aside rfl rfl rfl rfl rfl
  have asked := (attached.trans drafted).trans (askForEvents_meanwhile _ session.control true)
  split
  · exact asked.trans (.aside rfl rfl rfl rfl rfl)
  · split
    · exact asked.trans (.aside rfl rfl rfl rfl rfl)
    · have detached := asked.trans (call_meanwhile _ .detach nofun)
      have released (quiet : State) : Meanwhile quiet { quiet with draft := none } :=
        .aside rfl rfl rfl rfl rfl
      exact (detached.trans (released _)).trans (stopReceiver_meanwhile _ number)

theorem startSession_meanwhile (location : String) :
    Meanwhile state (state.startSession location).1 := by
  have described := (state.note_meanwhile (.starting location) rfl nofun).trans
    (exchange_meanwhile _ (fetch location))
  unfold startSession
  simp only
  split
  · exact described
  · have started := described.trans (startReceiver_meanwhile _)
    split
    · rename_i refused
      rw [refused] at started
      exact started
    · rename_i device listens number listening
      rw [listening] at started
      exact started.trans (setUp_meanwhile _ _ number)

theorem startTelemetry_meanwhile : Meanwhile state state.startTelemetry := by
  unfold startTelemetry
  split
  · exact state.startSession_meanwhile _
  · exact .refl state

theorem unsubscribeHeld_meanwhile : Meanwhile state state.unsubscribeHeld.1 := by
  have forgotten : Meanwhile state ((state.call .unsubscribe).updateControl
      Control.forget) :=
    (state.call_meanwhile .unsubscribe nofun).trans (updateControl_meanwhile _ _)
  unfold unsubscribeHeld
  split
  · exact .refl state
  · simp only
    split
    · exact forgotten
    · exact forgotten.trans (exchange_meanwhile _ _)

theorem stopSession_meanwhile : Meanwhile state state.stopSession := by
  unfold stopSession
  split
  · exact .refl state
  · rename_i session _
    have detached := state.call_meanwhile .detach nofun
    have ended (quiet : State) (calm : Meanwhile state quiet) : Meanwhile state
        ((quiet.updateControl Control.stopRenewal).stopReceiver session.receiver) :=
      (calm.trans (updateControl_meanwhile _ _)).trans (stopReceiver_meanwhile _ _)
    have released := detached.trans (hold_meanwhile (state.call .detach) { session with
      control := { session.control with attached := false }
      status := .unsubscribed, alive := false })
    simp only
    split
    · exact ended _ (released.trans (unsubscribeHeld_meanwhile _))
    · exact ended _ released

theorem shutdown_meanwhile : Meanwhile state state.shutdown := by
  unfold shutdown
  split
  · exact .refl state
  · have ending : Meanwhile state state.ending := .aside rfl rfl rfl rfl rfl
    exact (ending.trans (stopSession_meanwhile _)).trans (.aside rfl rfl rfl rfl rfl)

theorem actionCall_ne (action : Action) : actionCall action ≠ .requestAppList := by
  cases action <;> nofun

theorem act_meanwhile (action : Action) : Meanwhile state (state.act action).1 := by
  have called := state.call_meanwhile (actionCall action) (actionCall_ne action)
  cases action with
  | setVolume level =>
      simp only [act, changeHeldVolume]
      cases state.held.filter (·.alive) with
      | none => exact .refl state
      | some session => exact called.trans (exchange_meanwhile _ _)
  | _ => exact called.trans (wait_meanwhile _ _)

theorem setController_meanwhile (controller : Controller)
    (options : controller.options = state.controller.options) :
    Meanwhile state (state.setController controller) := by
  have patience : controller.options.appListTimeout = state.controller.options.appListTimeout := by
    rw [options]
  unfold setController
  split
  · exact .aside rfl rfl rfl rfl patience
  · have shown := state.note_meanwhile (.published controller.published) rfl nofun
    exact shown.trans (.aside rfl rfl rfl rfl patience)

theorem publish_meanwhile : Meanwhile state state.publish :=
  state.setController_meanwhile _ (publish_options _ _ _)

theorem execute_meanwhile (command : Command) : Meanwhile state (state.execute command).1 := by
  have prepared : Meanwhile state (state.prepared command) :=
    state.setController_meanwhile _ (prepare_options _ _ _ _)
  unfold execute
  simp only
  split
  · exact prepared
  · exact prepared
  · exact prepared.trans (act_meanwhile _ _)

theorem refresh_meanwhile : Meanwhile state state.refresh := by
  obtain ⟨volume, muted, same⟩ := state.refresh_eq
  rw [same]
  exact .aside rfl rfl rfl rfl rfl

theorem handleEvent_meanwhile (event : Event) : Meanwhile state (state.handleEvent event) := by
  cases event with
  | telemetryChanged => exact state.refresh_meanwhile.trans (publish_meanwhile _)
  | _ => exact state.publish_meanwhile

theorem answered_meanwhile : Meanwhile state state.answered := by
  have asked := (state.call_meanwhile .isOn nofun).trans
    (wait_meanwhile _ state.television.onDelay)
  have queried : Meanwhile state state.queryPower.1 := by
    unfold queryPower
    simp only
    split
    · exact asked.trans (refuse_meanwhile _)
    · exact asked
  exact queried.trans (.aside rfl rfl rfl rfl rfl)

/-- Of all operations only a poll asks for the list. -/
theorem apply_meanwhile (operation : Operation) (other : operation ≠ .poll) :
    Meanwhile state (state.apply operation) := by
  cases operation with
  | poll => exact absurd rfl other
  | command command => exact state.execute_meanwhile command
  | event =>
      simp only [apply, handleFirst]
      split
      · exact .refl state
      · rename_i event rest _
        have popped : Meanwhile state { state with queue := rest } :=
          .aside rfl rfl rfl rfl rfl
        exact popped.trans (handleEvent_meanwhile _ event)
  | shutdown => exact state.shutdown_meanwhile
  | pass duration => exact state.wait_meanwhile duration
  | happen what => exact state.happen_meanwhile what
  | expect arrival => exact .aside rfl rfl rfl rfl rfl
  | surround television host replies delays => exact .aside rfl rfl rfl rfl rfl

end State

end Televisor.Run
