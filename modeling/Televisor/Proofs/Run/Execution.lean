import Televisor.Proofs.Run.Exchange
import Televisor.Run.Command

namespace Televisor.Controller

/-! What a command changes in the controller by itself. -/

variable (controller : Controller) (gate : Discovery.Gate) (now : Nat)

theorem publish_eq : ∃ published publishedAt version, controller.publish gate now =
    { controller with published := published, publishedAt := publishedAt, version := version } := by
  unfold Controller.publish
  simp only
  split
  · exact ⟨_, _, _, rfl⟩
  · exact ⟨_, _, _, rfl⟩

/-- What has been published is what is observable now, whether or not it was published before. -/
theorem publish_published :
    (controller.publish gate now).published = controller.mediaState gate now := by
  unfold Controller.publish
  simp only
  split
  · assumption
  · rfl

theorem publish_publishedAt : (controller.publish gate now).publishedAt = now := by
  unfold Controller.publish
  simp only
  split <;> rfl

/-- Publishing does not touch what is observable. -/
theorem publish_mediaState (later : Nat) :
    (controller.publish gate now).mediaState gate later = controller.mediaState gate later := by
  obtain ⟨published, publishedAt, version, same⟩ := publish_eq controller gate now
  rw [same]
  rfl

/-- Neither volume nor mute shows while the television is off. -/
theorem mediaState_off (off : controller.power = .off) :
    (controller.mediaState gate now).volume = none ∧
      (controller.mediaState gate now).muted = none := by
  have hidden {α : Type} (value : Option α) :
      value.filter (fun _ => controller.power == .on) = none := by
    rw [off]
    cases value <;> rfl
  exact ⟨hidden _, hidden _⟩

theorem mediaState_on (on : controller.power = .on) :
    (controller.mediaState gate now).volume = controller.volume ∧
      (controller.mediaState gate now).muted = controller.muted := by
  have shown {α : Type} (value : Option α) :
      value.filter (fun _ => controller.power == .on) = value := by
    rw [on]
    cases value <;> rfl
  exact ⟨shown _, shown _⟩

theorem publish_window : (controller.publish gate now).window = controller.window := by
  obtain ⟨published, publishedAt, version, same⟩ := publish_eq controller gate now
  rw [same]

theorem publish_authFailed : (controller.publish gate now).authFailed = controller.authFailed := by
  obtain ⟨published, publishedAt, version, same⟩ := publish_eq controller gate now
  rw [same]

theorem publish_power : (controller.publish gate now).power = controller.power := by
  obtain ⟨published, publishedAt, version, same⟩ := publish_eq controller gate now
  rw [same]

theorem publish_options : (controller.publish gate now).options = controller.options := by
  obtain ⟨published, publishedAt, version, same⟩ := publish_eq controller gate now
  rw [same]

theorem new_options (options : Options) : (Controller.new options).options = options :=
  publish_options _ _ _

theorem publish_shuttingDown :
    (controller.publish gate now).shuttingDown = controller.shuttingDown := by
  obtain ⟨published, publishedAt, version, same⟩ := publish_eq controller gate now
  rw [same]

theorem prepare_other {command : Command} (other : command ≠ .turnOff) :
    ∃ playing, prepare controller gate now command = { controller with playing := playing } := by
  cases command with
  | turnOff => exact absurd rfl other
  | mediaPlay => exact ⟨true, rfl⟩
  | mediaPause => exact ⟨false, rfl⟩
  | mediaPlayPause => exact ⟨!controller.playing, rfl⟩
  | _ => exact ⟨controller.playing, rfl⟩

theorem prepare_eq (command : Command) : ∃ window playing published publishedAt version,
    prepare controller gate now command =
      { controller with
        window := window, playing := playing, published := published, publishedAt := publishedAt
        version := version } := by
  by_cases off : command = .turnOff
  · obtain ⟨published, publishedAt, version, same⟩ := publish_eq
      { controller with window := controller.window.arm now controller.options.pollInterval } gate now
    subst off
    exact ⟨_, _, published, publishedAt, version, same⟩
  · obtain ⟨playing, same⟩ := prepare_other controller gate now off
    exact ⟨_, playing, _, _, _, same⟩

theorem prepare_options (command : Command) :
    (prepare controller gate now command).options = controller.options := by
  obtain ⟨window, playing, published, publishedAt, version, same⟩ :=
    prepare_eq controller gate now command
  rw [same]

theorem prepare_shuttingDown (command : Command) :
    (prepare controller gate now command).shuttingDown = controller.shuttingDown := by
  obtain ⟨window, playing, published, publishedAt, version, same⟩ :=
    prepare_eq controller gate now command
  rw [same]

end Televisor.Controller

namespace Televisor.Run

open Controller

/-! Commands as they are carried out: what the controller shows first, and the calls that follow. -/

/-- The call that an action makes, besides requests. -/
def actionCall : Action → Call
  | .powerOff => .powerOff
  | .sendKeys keys => .sendKeys keys
  | .launchApp id => .launchApp id
  | .setVolume level => .setVolume level
  | .runProgram arguments => .runProgram arguments
  | .wake mac => .wake mac

namespace State

variable (state : State)

/-- The records of a controller that is put in the place of another: one if it has published. -/
def shows (controller : Controller) : List Record :=
  if controller.version = state.controller.version then []
  else [⟨state.now, .published controller.published⟩]

theorem setController_eq (controller : Controller) : state.setController controller =
    { state with controller := controller, trace := state.shows controller ++ state.trace } := by
  unfold setController shows
  split <;> rfl

theorem callsIn_shows (controller : Controller) : callsIn (state.shows controller) = [] := by
  unfold shows
  split <;> rfl

theorem startsIn_shows (controller : Controller) : startsIn (state.shows controller) = [] := by
  unfold shows
  split <;> rfl

theorem setController_controller (controller : Controller) :
    (state.setController controller).controller = controller := by
  rw [setController_eq]

theorem setController_now (controller : Controller) :
    (state.setController controller).now = state.now := by
  rw [setController_eq]

theorem setController_gate (controller : Controller) :
    (state.setController controller).gate = state.gate := by
  rw [setController_eq]

theorem publish_controller :
    state.publish.controller = state.controller.publish state.gate state.now :=
  state.setController_controller _

theorem publish_now : state.publish.now = state.now :=
  state.setController_now _

/-- What the controller shows makes no call and begins no session. -/
theorem setController_trace (controller : Controller) :
    ∃ shown, (state.setController controller).trace = shown ++ state.trace ∧
      callsIn shown = [] ∧ startsIn shown = [] := by
  rw [setController_eq]
  exact ⟨_, rfl, state.callsIn_shows _, state.startsIn_shows _⟩

theorem publish_trace : ∃ shown, state.publish.trace = shown ++ state.trace ∧
    callsIn shown = [] ∧ startsIn shown = [] :=
  state.setController_trace _

theorem powerOff_passage : ∃ later, Passage (state.call .powerOff) later state.powerOff.1 :=
  (state.call .powerOff).wait_passage state.television.powerOffDelay

/-- Only setting the volume may do without a call of its own. -/
theorem act_passage {action : Action} (quiet : ∀ level, action ≠ .setVolume level) :
    ∃ later, Passage (state.call (actionCall action)) later (state.act action).1 := by
  cases action with
  | powerOff => exact state.powerOff_passage
  | setVolume level => exact absurd rfl (quiet level)
  | _ => exact wait_passage _ _

theorem setVolume_drift (level : Media.Level) :
    ∃ seen, Drift state seen (state.act (.setVolume level)).1 ∧
      Calls (fun call => call = .setVolume level ∨ ∃ method, call.Requests method) seen := by
  unfold act changeHeldVolume
  cases state.held.filter (·.alive) with
  | none => exact ⟨[], .refl state, .nil⟩
  | some session =>
      have called := state.call_drift (.setVolume level)
      obtain ⟨asking, asked, requests, _⟩ := (state.call (.setVolume level)).exchange_drift
        (Rendering.setVolume session.control.device level)
      refine ⟨_, called.trans asked, .append ?_ (.one (.inl rfl))⟩
      exact requests.imp fun _ either => .inr (either.elim (⟨_, ·⟩) (⟨_, ·⟩))

theorem act_drift (action : Action) : ∃ seen, Drift state seen (state.act action).1 ∧
    Calls (fun call => call = actionCall action ∨ ∃ method, call.Requests method) seen ∧
    ((∀ level, action ≠ .setVolume level) → actionCall action ∈ callsIn seen) := by
  by_cases volume : ∃ level, action = .setVolume level
  · obtain ⟨level, rfl⟩ := volume
    obtain ⟨seen, drift, calls⟩ := state.setVolume_drift level
    exact ⟨seen, drift, calls, fun quiet => absurd rfl (quiet level)⟩
  · have called := state.call_drift (actionCall action)
    obtain ⟨later, passed⟩ := state.act_passage fun level same => volume ⟨level, same⟩
    refine ⟨_, called.trans passed.toDrift, .append ?_ (.one (.inl rfl)), fun _ => ?_⟩
    · exact passed.calls.imp fun _ renews => .inr ⟨_, renews⟩
    · rw [callsIn_append]
      exact List.mem_append_right _ (List.mem_singleton_self _)

/-- The controller as a command has changed it, before anything is done. -/
def prepared (command : Command) : State :=
  state.setController (prepare state.controller state.gate state.now command)

theorem execute_act {command : Command} {action : Action}
    (decided : Controller.decide state.controller state.circumstances command = .act action) :
    state.execute command = (state.prepared command).act action := by
  simp only [execute, decided, prepared]

theorem execute_idle {command : Command} (idle : ∀ action,
    Controller.decide state.controller state.circumstances command ≠ .act action) :
    (state.execute command).1 = state.prepared command := by
  unfold execute prepared
  simp only
  split
  · rfl
  · rfl
  · rename_i action decided
    exact absurd decided (idle action)

/-- After what it shows at once a command drifts: it makes the call of the action that was decided
on, and requests. -/
theorem execute_drift (command : Command) :
    ∃ seen, Drift (state.prepared command) seen (state.execute command).1 ∧
      Calls (fun call => (∃ method, call.Requests method) ∨ ∃ action,
        Controller.decide state.controller state.circumstances command = .act action ∧
          call = actionCall action) seen ∧
      ∀ action, Controller.decide state.controller state.circumstances command = .act action →
        (∀ level, action ≠ .setVolume level) → actionCall action ∈ callsIn seen := by
  by_cases acts : ∃ action,
      Controller.decide state.controller state.circumstances command = .act action
  · obtain ⟨action, decided⟩ := acts
    obtain ⟨seen, drift, calls, own⟩ := (state.prepared command).act_drift action
    rw [state.execute_act decided]
    refine ⟨seen, drift, calls.imp fun call either => ?_, fun other decidedOther => ?_⟩
    · rcases either with own | requests
      · exact .inr ⟨action, decided, own⟩
      · exact .inl requests
    · obtain rfl : action = other := by simpa [decided] using decidedOther
      exact own
  · have idle := not_exists.mp acts
    rw [state.execute_idle idle]
    exact ⟨[], .refl _, .nil, fun action decided => absurd decided (idle action)⟩

/-- A controller that polls every ten seconds, and a television that is on and does at once what it
is asked. -/
def plain : State :=
  .initial ⟨"TV", "tv", none, none, none, 10000, 3000⟩
    ⟨.ok true, 0, false, none, 0, none, true, none, none, 0, none, 0⟩ (.unrouted 8058 "/notify/6f2c") [] none

end State

end Televisor.Run
