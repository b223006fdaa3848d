import Televisor.Proofs.Run.Sides

namespace Televisor.Run

open Controller Discovery Network Rendering Telemetry

/-! Whatever the controller does but to ask for the list of applications, the list comes as it would
come if the controller did nothing. -/

/-- As far as the list of applications goes, only time has passed. -/
structure Elapsed (before after : State) : Prop where
  clock : before.now ≤ after.now
  arrivals : after.arrivals <:+ before.arrivals
  apps : before.Ordered → before.onlyApps.Punctual →
    after.onlyApps = before.onlyApps.passTo after.now

namespace Elapsed

variable {before middle after : State}

theorem trans (first : Elapsed before middle) (second : Elapsed middle after) :
    Elapsed before after where
  clock := Nat.le_trans first.clock second.clock
  arrivals := second.arrivals.trans first.arrivals
  apps := by
    intro ordered punctual
    have same := first.apps ordered punctual
    have punctualThen : middle.onlyApps.Punctual := by
      rw [same]
      exact State.passTo_punctual punctual.ordered first.clock
    rw [second.apps (ordered.fewer first.arrivals) punctualThen, same,
      State.passTo_passTo second.clock]

/-- What has no part in how the list comes takes no time. -/
theorem aside (apps : after.onlyApps = before.onlyApps) (arrivals : after.arrivals = before.arrivals) :
    Elapsed before after := by
  have now : after.now = before.now := congrArg (·.now) apps
  refine ⟨Nat.le_of_eq now.symm, arrivals ▸ List.suffix_refl _, fun _ punctual => ?_⟩
  have calm : before.onlyApps.CalmUntil before.now := punctual.calm
  rw [apps, now, State.passTo_still calm (Nat.le_refl _)]

theorem refl (state : State) : Elapsed state state :=
  .aside rfl rfl

theorem ordered (elapsed : Elapsed before after) (ordered : before.Ordered) : after.Ordered :=
  ordered.fewer elapsed.arrivals

end Elapsed

namespace State

variable (state : State)

theorem passTo_elapsed {instant : Nat} (ahead : state.now ≤ instant) :
    Elapsed state (state.passTo instant) where
  clock := by
    rw [passTo_now]
    exact Nat.le_max_left _ _
  arrivals := state.passTo_arrivals instant
  apps := by
    intro ordered _
    rw [passTo_now, Nat.max_eq_right ahead]
    exact View.apps.passTo ordered

theorem wait_elapsed (duration : Nat) : Elapsed state (state.wait duration) :=
  state.passTo_elapsed (Nat.le_add_right _ _)

theorem note_elapsed (what : Occurrence) (other : Record.ofApps ⟨state.now, what⟩ = false) :
    Elapsed state (state.note what) :=
  .aside (state.note_onlyApps what other) rfl

theorem call_elapsed {call : Call} (other : call ≠ .requestAppList) :
    Elapsed state (state.call call) :=
  .aside (call_onlyApps other) rfl

theorem send_elapsed (request : Request) : Elapsed state (state.send request).1 :=
  .aside (send_onlyApps request) (state.send_arrivals request)

theorem exchange_elapsed (request : Request) : Elapsed state (state.exchange request).1 := by
  have ahead : (state.send request).1.now ≤ (state.send request).2.due := by
    rw [send_now]
    exact state.send_due_ge request
  exact (state.send_elapsed request).trans (passTo_elapsed _ ahead)

theorem updateReceiver_elapsed (number : Nat) (change : Receiver → Receiver) :
    Elapsed state (state.updateReceiver number change) :=
  .aside rfl rfl

theorem addReceiver_elapsed : Elapsed state state.addReceiver.1 := by
  have other : Call.receiver (Receiver.new state.host).source ≠ .requestAppList := nofun
  exact (state.call_elapsed other).trans (.aside rfl rfl)

theorem startReceiver_elapsed : Elapsed state state.startReceiver.1 := by
  have routed := state.wait_elapsed state.delays.route
  unfold startReceiver
  generalize state.wait state.delays.route = found at routed
  have called := (routed.trans found.addReceiver_elapsed).trans
    (call_elapsed _ (by nofun : Call.startReceiver ≠ .requestAppList))
  have ready := called.trans (wait_elapsed _ found.addReceiver.1.host.startDelay)
  simp only
  split
  · exact ready
  · exact (ready.trans (updateReceiver_elapsed _ _ _)).trans (note_elapsed _ _ rfl)

theorem stopReceiver_elapsed (number : Nat) : Elapsed state (state.stopReceiver number) := by
  have called := state.call_elapsed (by nofun : Call.stopReceiver ≠ .requestAppList)
  have ended := called.trans (wait_elapsed _ state.delays.stop)
  exact (ended.trans (updateReceiver_elapsed _ _ _)).trans (note_elapsed _ (.stopped number) rfl)

theorem askForEvents_elapsed (control : Control) (renewing : Bool) :
    Elapsed state (state.askForEvents control renewing).1 := by
  have called := state.call_elapsed (by nofun : Call.subscribe renewing ≠ .requestAppList)
  unfold askForEvents
  split
  · exact called
  · exact (called.trans (exchange_elapsed _ _)).trans (note_elapsed _ _ rfl)

theorem setUp_elapsed (device : Device) (number : Nat) :
    Elapsed state (state.setUp device number).1 := by
  have attached : Elapsed state
      ((state.updateReceiver number Receiver.consume).call .attach) :=
    (state.updateReceiver_elapsed number _).trans
      (call_elapsed _ (by nofun : Call.attach ≠ .requestAppList))
  unfold setUp
  simp only
  generalize (state.updateReceiver number Receiver.consume).call .attach = attaching
    at attached ⊢
  generalize Session.fresh (.ofDevice device ((state.receivers[number]?).bind Receiver.callback?))
    number = session
  have drafted : Elapsed attaching { attaching with draft := some session } := .aside rfl rfl
  have asked := (attached.trans drafted).trans (askForEvents_elapsed _ session.control true)
  split
  · exact asked.trans (.aside rfl rfl)
  · split
    · exact asked.trans (.aside rfl rfl)
    · have detached := asked.trans (call_elapsed _ (by nofun : Call.detach ≠ .requestAppList))
      have released (quiet : State) : Elapsed quiet { quiet with draft := none } := .aside rfl rfl
      exact (detached.trans (released _)).trans (stopReceiver_elapsed _ number)

theorem startSession_elapsed (location : String) :
    Elapsed state (state.startSession location).1 := by
  have described := (state.note_elapsed (.starting location) rfl).trans
    (exchange_elapsed _ (fetch location))
  unfold startSession
  simp only
  split
  · exact described
  · have started := described.trans (startReceiver_elapsed _)
    split
    · rename_i refused
      rw [refused] at started
      exact started
    · rename_i device listens number listening
      rw [listening] at started
      exact started.trans (setUp_elapsed _ _ number)

theorem startTelemetry_elapsed : Elapsed state state.startTelemetry := by
  unfold startTelemetry
  split
  · exact state.startSession_elapsed _
  · exact .refl state

theorem updateControl_elapsed (change : Control → Control) :
    Elapsed state (state.updateControl change) :=
  .aside rfl rfl

theorem hold_elapsed (session : Session) : Elapsed state (state.hold session) :=
  .aside rfl rfl

theorem unsubscribeHeld_elapsed : Elapsed state state.unsubscribeHeld.1 := by
  have forgotten : Elapsed state ((state.call .unsubscribe).updateControl
      Control.forget) :=
    (state.call_elapsed (by nofun : Call.unsubscribe ≠ .requestAppList)).trans
      (updateControl_elapsed _ _)
  unfold unsubscribeHeld
  split
  · exact .refl state
  · simp only
    split
    · exact forgotten
    · exact forgotten.trans (exchange_elapsed _ _)

theorem stopSession_elapsed : Elapsed state state.stopSession := by
  unfold stopSession
  split
  · exact .refl state
  · rename_i session _
    have detached := state.call_elapsed (by nofun : Call.detach ≠ .requestAppList)
    have ended (quiet : State) (before : Elapsed state quiet) : Elapsed state
        ((quiet.updateControl Control.stopRenewal).stopReceiver session.receiver) :=
      (before.trans (updateControl_elapsed _ _)).trans (stopReceiver_elapsed _ _)
    have released := detached.trans (hold_elapsed (state.call .detach) { session with
      control := { session.control with attached := false }
      status := .unsubscribed, alive := false })
    simp only
    split
    · exact ended _ (released.trans (unsubscribeHeld_elapsed _))
    · exact ended _ released

theorem shutdown_elapsed : Elapsed state state.shutdown := by
  unfold shutdown
  split
  · exact .refl state
  · have ending : Elapsed state state.ending := .aside rfl rfl
    exact (ending.trans (stopSession_elapsed _)).trans (.aside rfl rfl)

theorem setController_onlyApps (controller : Controller)
    (options : controller.options = state.controller.options) :
    (state.setController controller).onlyApps = state.onlyApps := by
  unfold setController
  split
  · simp only [onlyApps, options]
  · simp [onlyApps, note, options, Record.ofApps]

theorem setController_elapsed (controller : Controller)
    (options : controller.options = state.controller.options) :
    Elapsed state (state.setController controller) :=
  .aside (state.setController_onlyApps controller options) (by rw [setController_eq])

theorem publish_onlyApps : state.publish.onlyApps = state.onlyApps :=
  state.setController_onlyApps _ (publish_options _ _ _)

theorem publish_elapsed : Elapsed state state.publish :=
  state.setController_elapsed _ (publish_options _ _ _)

theorem act_elapsed (action : Action) : Elapsed state (state.act action).1 := by
  have called := state.call_elapsed (actionCall_ne action)
  cases action with
  | setVolume level =>
      simp only [act, changeHeldVolume]
      cases state.held.filter (·.alive) with
      | none => exact .refl state
      | some session => exact called.trans (exchange_elapsed _ _)
  | _ => exact called.trans (wait_elapsed _ _)

theorem execute_elapsed (command : Command) : Elapsed state (state.execute command).1 := by
  have prepared : Elapsed state (state.prepared command) :=
    state.setController_elapsed _ (prepare_options _ _ _ _)
  unfold execute
  simp only
  split
  · exact prepared
  · exact prepared
  · exact prepared.trans (act_elapsed _ _)

theorem refresh_onlyApps : state.refresh.onlyApps = state.onlyApps := by
  obtain ⟨volume, muted, same⟩ := state.refresh_eq
  rw [same]
  rfl

theorem refresh_elapsed : Elapsed state state.refresh := by
  refine .aside state.refresh_onlyApps ?_
  obtain ⟨volume, muted, same⟩ := state.refresh_eq
  rw [same]

theorem handleEvent_elapsed (event : Event) : Elapsed state (state.handleEvent event) := by
  cases event with
  | telemetryChanged => exact state.refresh_elapsed.trans (publish_elapsed _)
  | _ => exact state.publish_elapsed

theorem answered_elapsed : Elapsed state state.answered := by
  have asked := (state.call_elapsed (by nofun : Call.isOn ≠ .requestAppList)).trans
    (wait_elapsed _ state.television.onDelay)
  have queried : Elapsed state state.queryPower.1 := by
    unfold queryPower
    simp only
    split
    · have refused : Elapsed ((state.call .isOn).wait state.television.onDelay)
          ((state.call .isOn).wait state.television.onDelay).refuse :=
        .aside (refuse_onlyApps _) rfl
      exact asked.trans refused
    · exact asked
  exact queried.trans (.aside rfl rfl)

end State

end Televisor.Run
