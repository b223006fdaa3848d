import Televisor.Proofs.Run.Execution
import Televisor.Proofs.Run.Poll

namespace Televisor.Run

open Controller Discovery Telemetry

/-! What lasts through a run.  What happens while somebody waits comes down to four things, all that
goes on besides beginning, using and ending sessions to one more, and what these keep is kept by
every function of the controller. -/

/-- What the television tells by itself. -/
def Occurrence.News : Occurrence → Prop
  | .delivered _ => True
  | .raised event => event ≠ .telemetryChanged
  | _ => False

/-- A call that no session makes. -/
def Call.Routine : Call → Prop
  | .isOn | .powerOff | .sendKeys _ | .requestAppList | .launchApp _ | .runProgram _ | .wake _ =>
    True
  | _ => False

/-- What the controller does by itself, as far as it shows. -/
def Occurrence.Routine : Occurrence → Prop
  | .called call => call.Routine
  | .published _ => True
  | _ => False

theorem actionCall_routine {action : Action} (other : ∀ level, action ≠ .setVolume level) :
    (actionCall action).Routine := by
  cases action with
  | setVolume level => exact absurd rfl (other level)
  | _ => trivial

/-- What lasts while time passes. -/
structure Passing (holds : State → Prop) : Prop where
  /-- What has to do with no session may be anything. -/
  aside : ∀ {before after : State}, holds before → after.held = before.held →
    after.draft = before.draft → after.receivers = before.receivers → after.trace = before.trace →
    after.controller.shuttingDown = before.controller.shuttingDown → after.host = before.host →
    holds after
  tell : ∀ {state : State} {what : Occurrence}, holds state → what.News → holds (state.note what)
  receive : ∀ {state : State} (number : Nat) (body : String), holds state →
    holds (state.receive number body)
  renew : ∀ {state : State} {session : Session} {task : Rendering.RenewalTask}, holds state →
    state.held = some session → task ∈ session.control.tasks →
    holds (state.continueRenewal session task)

structure Steady (holds : State → Prop) : Prop extends Passing holds where
  note : ∀ {state : State} {what : Occurrence}, holds state → what.Routine → holds (state.note what)

/-- What lasts through sessions that are begun, used and ended, too. -/
structure Lasting (holds : State → Prop) : Prop extends Steady holds where
  start : ∀ {state : State} (location : String), holds state → state.held = none →
    state.controller.shuttingDown = false → holds (state.startSession location).1
  volume : ∀ {state : State} (level : Media.Level), holds state →
    holds (state.changeHeldVolume level).1
  shutdown : ∀ {state : State}, holds state → holds state.shutdown

/-- What lasts whatever the surroundings become. -/
structure Enduring (holds : State → Prop) : Prop extends Lasting holds where
  surround : ∀ {state : State} (television : Television) (host : Host) (replies : Network.Replies)
    (delays : Delays), holds state → holds (state.apply (.surround television host replies delays))

namespace Passing

variable {holds : State → Prop} {state : State} (passing : Passing holds)
include passing

theorem raise {event : Event} (now : holds state) (other : event ≠ .telemetryChanged) :
    holds (state.raise event) := by
  have noted : holds (state.note (.raised event)) := passing.tell now other
  exact passing.aside noted rfl rfl rfl rfl rfl rfl

theorem deliver (now : holds state) (apps : Apps) : holds (state.deliver apps) := by
  have resolved : holds { state with
      gate := state.gate.deliver apps, discovery := state.discovery.bind Phase.delivered? } :=
    passing.aside now rfl rfl rfl rfl rfl rfl
  have told : holds ({ state with
      gate := state.gate.deliver apps, discovery := state.discovery.bind Phase.delivered? }.note
        (.delivered apps)) :=
    passing.tell resolved trivial
  exact passing.raise told nofun

theorem refuse (now : holds state) : holds state.refuse := by
  have failed : holds { state with controller := { state.controller with authFailed := true } } :=
    passing.aside now rfl rfl rfl rfl rfl rfl
  exact passing.raise failed nofun

theorem happen (now : holds state) (what : Happening) : holds (state.happen what) := by
  cases what with
  | apps apps => exact passing.deliver now apps
  | body number body => exact passing.receive number body now
  | delivery number delivery =>
      exact state.happen_delivery number delivery now fun body => passing.receive number body now
  | refusal => exact passing.refuse now

theorem reach (now : holds state) (instant : Nat) : holds (state.reach instant) :=
  passing.aside now rfl rfl rfl rfl rfl rfl

theorem continueDiscovery (now : holds state) (phase : Phase) :
    holds (state.continueDiscovery phase) := by
  cases phase with
  | requesting due =>
      simp only [State.continueDiscovery]
      split <;> exact passing.aside now rfl rfl rfl rfl rfl rfl
  | waiting deadline => exact passing.aside now rfl rfl rfl rfl rfl rfl

theorem perform (now : holds state) {activity : Activity}
    (next : state.nextActivity? = some activity) : holds (state.perform activity) := by
  have reached := passing.reach now activity.due
  rcases State.nextActivity?_cases next with ⟨phase, _, rfl⟩ | ⟨arrival, later, _, rfl⟩ |
    ⟨session, task, isHeld, runs, rfl⟩
  · exact passing.continueDiscovery reached phase
  · have taken : holds { state.reach arrival.due with arrivals := later } :=
      passing.aside reached rfl rfl rfl rfl rfl rfl
    exact passing.happen taken arrival.what
  · exact passing.renew reached isHeld runs

theorem passWhile (now : holds state) (instant : Nat) (more : State → Bool) :
    holds (State.passWhile instant more state) :=
  State.passWhile_keeps holds (fun _ _ held next => passing.perform held next) instant more now

theorem passTo (now : holds state) (instant : Nat) : holds (state.passTo instant) :=
  passing.reach (passing.passWhile now instant _) instant

theorem wait (now : holds state) (duration : Nat) : holds (state.wait duration) :=
  passing.passTo now _

theorem awaitDiscovery (now : holds state) : holds state.awaitDiscovery := by
  unfold State.awaitDiscovery
  split
  · exact passing.passWhile now _ _
  · exact now

end Passing

namespace Steady

variable {holds : State → Prop} {state : State} (steady : Steady holds)
include steady

theorem call {call : Call} (now : holds state) (routine : call.Routine) : holds (state.call call) :=
  steady.note now routine

theorem setController (now : holds state) {controller : Controller}
    (same : controller.shuttingDown = state.controller.shuttingDown) :
    holds (state.setController controller) := by
  unfold State.setController
  split
  · exact steady.aside now rfl rfl rfl rfl same rfl
  · have noted : holds (state.note (.published controller.published)) := steady.note now trivial
    exact steady.aside noted rfl rfl rfl rfl same rfl

theorem publish (now : holds state) : holds state.publish :=
  steady.setController now (publish_shuttingDown _ _ _)

theorem refresh (now : holds state) : holds state.refresh := by
  obtain ⟨volume, muted, same⟩ := state.refresh_eq
  rw [same]
  exact steady.aside now rfl rfl rfl rfl rfl rfl

theorem handleEvent (now : holds state) (event : Event) : holds (state.handleEvent event) := by
  cases event with
  | telemetryChanged => exact steady.publish (steady.refresh now)
  | _ => exact steady.publish now

theorem answered (now : holds state) : holds state.answered := by
  have asked : holds (state.call .isOn) := steady.call now trivial
  have waited := steady.wait asked state.television.onDelay
  have queried : holds state.queryPower.1 := by
    unfold State.queryPower
    simp only
    split
    · exact steady.refuse waited
    · exact waited
  exact steady.aside queried rfl rfl rfl rfl rfl rfl

theorem beginDiscovery (now : holds state) : holds state.beginDiscovery := by
  have called : holds (state.call .requestAppList) := steady.call now trivial
  have promised : holds (state.call .requestAppList).promiseApps := by
    unfold State.promiseApps
    split
    · exact called
    · split
      · exact steady.deliver called _
      · exact steady.aside called rfl rfl rfl rfl rfl rfl
  unfold State.beginDiscovery
  split
  · exact now
  · exact steady.aside promised rfl rfl rfl rfl rfl rfl

theorem prepared (now : holds state) (command : Command) : holds (state.prepared command) :=
  steady.setController now (prepare_shuttingDown _ _ _ _)

end Steady

/-- Nothing but the end itself makes the controller shut down. -/
theorem steady_shuttingDown (ending : Bool) :
    Steady fun state => state.controller.shuttingDown = ending where
  aside now _ _ _ _ same _ := same.trans now
  tell now _ := now
  note now _ := now
  receive := by
    intro state number body now
    obtain ⟨seen, received⟩ := state.receive_passage number body
    exact received.shuttingDown.trans now
  renew := by
    intro state session task now isHeld _
    obtain ⟨seen, renewed⟩ := state.continueRenewal_passage session task isHeld
    exact renewed.shuttingDown.trans now

namespace Lasting

variable {holds : State → Prop} {state : State} (lasting : Lasting holds)
include lasting

theorem whileOn (now : holds state) (running : state.controller.shuttingDown = false) :
    holds state.whileOn := by
  have asked := lasting.beginDiscovery now
  have runningStill := (steady_shuttingDown false).beginDiscovery running
  have started : holds state.beginDiscovery.startTelemetry := by
    unfold State.startTelemetry
    split
    · rename_i location unheld _
      exact lasting.start location asked unheld runningStill
    · exact asked
  exact lasting.refresh (lasting.awaitDiscovery started)

theorem tick (now : holds state) : holds state.tick := by
  rw [State.tick_eq_publish]
  refine lasting.publish ?_
  cases held : state.guards.hold with
  | true =>
      rw [state.gather_held held]
      exact now
  | false =>
      cases isOpen : state.controller.isPoweringOff state.now with
      | true =>
          rw [state.gather_poweringOff held isOpen]
          exact lasting.aside now rfl rfl rfl rfl rfl rfl
      | false =>
          rw [state.gather_asking held isOpen]
          have running : state.controller.shuttingDown = false :=
            (Bool.or_eq_false_iff.mp held).2
          split
          · exact lasting.whileOn (lasting.answered now)
              ((steady_shuttingDown false).answered running)
          · exact lasting.answered now

theorem act (now : holds state) (action : Action) : holds (state.act action).1 := by
  have demanded (other : ∀ level, action ≠ .setVolume level) (duration : Nat) :
      holds ((state.call (actionCall action)).wait duration) :=
    lasting.wait (lasting.call now (actionCall_routine other)) duration
  cases action with
  | setVolume level => exact lasting.volume level now
  | _ => exact demanded nofun _

theorem execute (now : holds state) (command : Command) : holds (state.execute command).1 := by
  have prepared := lasting.prepared now command
  unfold State.execute
  simp only
  split
  · exact prepared
  · exact prepared
  · exact lasting.act prepared _

/-- An operation that leaves the surroundings to answer as they did. -/
theorem apply (now : holds state) {operation : Operation}
    (inside : ∀ television host replies delays,
      operation ≠ .surround television host replies delays) :
    holds (state.apply operation) := by
  cases operation with
  | poll => exact lasting.tick now
  | command command => exact lasting.execute now command
  | event =>
      simp only [State.apply, State.handleFirst]
      split
      · exact now
      · rename_i event rest _
        have popped : holds { state with queue := rest } := lasting.aside now rfl rfl rfl rfl rfl rfl
        exact lasting.handleEvent popped event
  | shutdown => exact lasting.shutdown now
  | pass duration => exact lasting.wait now duration
  | happen what => exact lasting.happen now what
  | expect arrival => exact lasting.aside now rfl rfl rfl rfl rfl rfl
  | surround television host replies delays => exact absurd rfl (inside _ _ _ _)

/-- A run in which whatever the surroundings become leaves it as it is. -/
theorem run (now : holds state) {operations : List Operation}
    (surround : ∀ {state : State} television host replies delays,
      .surround television host replies delays ∈ operations → holds state →
        holds (state.apply (.surround television host replies delays))) :
    holds (state.run operations) := by
  induction operations generalizing state with
  | nil => exact now
  | cons operation rest ih =>
      rw [State.run_cons]
      refine ih ?_ fun _ _ _ _ later => surround _ _ _ _ (List.mem_cons_of_mem _ later)
      by_cases surrounds : ∃ television host replies delays,
          operation = .surround television host replies delays
      · obtain ⟨television, host, replies, delays, rfl⟩ := surrounds
        exact surround television host replies delays List.mem_cons_self now
      · exact lasting.apply now fun television host replies delays same =>
          surrounds ⟨television, host, replies, delays, same⟩

end Lasting

theorem Enduring.run {holds : State → Prop} {state : State} (enduring : Enduring holds)
    (now : holds state) (operations : List Operation) : holds (state.run operations) :=
  enduring.toLasting.run now fun television host replies delays _ =>
    enduring.surround television host replies delays

end Televisor.Run
