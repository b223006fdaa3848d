import Televisor.Proofs.Telemetry.Housing

namespace Televisor.Run

open Controller Media Telemetry

/-! The power-off window over whole runs: only turning the television off opens it, and only a poll
that starts after its deadline closes it. -/

namespace State

variable {state : State}

theorem handleEvent_window (state : State) (event : Event) :
    (state.handleEvent event).now = state.now ∧
      (state.handleEvent event).controller.window = state.controller.window := by
  cases event with
  | telemetryChanged =>
      obtain ⟨volume, muted, same⟩ := state.refresh_eq
      rw [handleEvent, publish_now, publish_controller, publish_window, same]
      exact ⟨rfl, rfl⟩
  | _ =>
      rw [handleEvent, publish_now, publish_controller, publish_window]
      exact ⟨rfl, rfl⟩

/-- What one operation can do to the window. -/
inductive WindowStep (state : State) (after : State) : Operation → Prop where
  | kept {operation} (same : after.controller.window = state.controller.window) :
      WindowStep state after operation
  | armed (opened : after.controller.window =
        state.controller.window.arm state.now state.controller.options.pollInterval) :
      WindowStep state after (.command .turnOff)
  | cleared (passed : state.controller.isPoweringOff state.now = false)
      (closed : after.controller.window = .closed) : WindowStep state after .poll

theorem Gathering.window {gathered : State} (gathering : state.Gathering gathered) :
    WindowStep state gathered.publish .poll := by
  have published : gathered.publish.controller.window = gathered.controller.window := by
    rw [publish_controller, publish_window]
  cases gathering with
  | held _ => exact .kept published
  | poweringOff _ _ => exact .kept published
  | asked _ closed asked => exact .cleared closed (published.trans asked.window)

theorem prepared_window (command : Command) :
    WindowStep state (state.prepared command) (.command command) := by
  have prepared : (state.prepared command).controller =
      Controller.prepare state.controller state.gate state.now command :=
    setController_controller _ _
  by_cases off : command = .turnOff
  · subst off
    exact .armed ((congrArg Controller.window prepared).trans (publish_window _ _ _))
  · obtain ⟨playing, same⟩ := prepare_other state.controller state.gate state.now off
    have window := congrArg Controller.window (prepared.trans same)
    exact .kept window

theorem WindowStep.followed {middle after : State} {operation : Operation}
    (step : WindowStep state middle operation)
    (same : after.controller.window = middle.controller.window) :
    WindowStep state after operation := by
  cases step with
  | kept kept => exact .kept (same.trans kept)
  | armed opened => exact .armed (same.trans opened)
  | cleared passed closed => exact .cleared passed (same.trans closed)

theorem Step.window {operation : Operation} {after : State} (step : state.Step operation after) :
    WindowStep state after operation := by
  cases step with
  | polled gathering => exact gathering.window
  | carriedOut drift => exact (prepared_window _).followed drift.window
  | @handled event rest _ =>
      have handled := handleEvent_window { state with queue := rest } event
      exact .kept handled.2
  | ended _ advance _ _ => exact .kept advance.window
  | drifted drift => exact .kept drift.window
  | surrounded _ _ _ _ _ => exact .kept rfl

/-- Time never goes back. -/
theorem Step.clock {operation : Operation} {after : State} (step : state.Step operation after) :
    state.now ≤ after.now := by
  cases step with
  | polled gathering =>
      obtain ⟨seen, tidings⟩ := gathering.tidings
      rw [publish_now]
      exact tidings.clock
  | @carriedOut command _ _ drift =>
      have prepared : (state.prepared command).now = state.now := setController_now _ _
      rw [← prepared]
      exact drift.clock
  | @handled event rest _ =>
      have handled := handleEvent_window { state with queue := rest } event
      exact Nat.le_of_eq handled.1.symm
  | ended _ advance _ _ => exact advance.clock
  | drifted drift => exact drift.clock
  | surrounded _ _ _ _ _ => exact Nat.le_refl _

/-- Until the given instant the window is open; turning the television off now would not shorten
that. -/
structure Covered (state : State) (limit : Nat) : Prop where
  rearmed : limit ≤ state.now + state.controller.options.pollInterval + Power.slack
  isOpen : state.now < limit →
    ∃ deadline, state.controller.window.deadline = some deadline ∧ limit ≤ deadline

theorem Covered.step {limit : Nat} {operation : Operation} {after : State}
    (covered : state.Covered limit) (step : state.Step operation after) : after.Covered limit := by
  have clock := step.clock
  have rearmed := covered.rearmed
  refine ⟨?_, fun early => ?_⟩
  · rw [step.options]
    omega
  · obtain ⟨deadline, armed, covers⟩ := covered.isOpen (by omega)
    cases step.window with
    | kept same => exact ⟨deadline, same ▸ armed, covers⟩
    | armed opened =>
        -- Arming again replaces the deadline by a later one.
        rw [opened]
        exact ⟨_, rfl, rearmed⟩
    | cleared passed closed =>
        have early : state.now < limit := by omega
        have isOpen := Power.Window.isOpen_of_le armed covers early
        exact absurd (isOpen.symm.trans passed) (by simp)

theorem Covered.run {limit : Nat} (covered : state.Covered limit) (housed : state.Housed)
    (operations : List Operation) : (state.run operations).Covered limit := by
  induction operations generalizing state with
  | nil => exact covered
  | cons operation rest ih =>
      rw [run_cons]
      exact ih (covered.step (apply_step housed operation)) (housed.apply operation)

/-- The window closes at the given instant at the latest. -/
def Expires (state : State) (limit : Nat) : Prop :=
  ∀ deadline, state.controller.window.deadline = some deadline → deadline ≤ limit

theorem Expires.step {limit : Nat} {operation : Operation} {after : State}
    (expires : state.Expires limit) (step : state.Step operation after)
    (other : operation ≠ .command .turnOff) : after.Expires limit := by
  intro deadline armed
  cases step.window with
  | kept same => exact expires deadline (same ▸ armed)
  | armed opened => exact absurd rfl other
  | cleared passed closed =>
      rw [closed] at armed
      contradiction

theorem Expires.run {limit : Nat} (expires : state.Expires limit) (housed : state.Housed)
    {operations : List Operation} (others : ∀ operation ∈ operations, operation ≠ .command .turnOff) :
    (state.run operations).Expires limit := by
  induction operations generalizing state with
  | nil => exact expires
  | cons operation rest ih =>
      rw [run_cons]
      have other := others operation (by simp)
      exact ih (expires.step (apply_step housed operation) other) (housed.apply operation)
        fun later member => others later (by simp [member])

/-- The instant at which the window closes if the television is turned off now. -/
def limit (state : State) : Nat :=
  state.now + state.controller.options.pollInterval + Power.slack

/-- The window is open and shown to be before the television is asked for anything. -/
theorem turnOff_prepared :
    (state.prepared .turnOff).controller.window.deadline = some state.limit ∧
      (state.prepared .turnOff).controller.published.lifecycle = .poweringOff := by
  rw [prepared, setController_controller]
  refine ⟨congrArg Power.Window.deadline (publish_window _ _ _), ?_⟩
  have isOpen : state.now < state.limit := by
    unfold limit Power.slack
    omega
  rw [prepare, publish_published]
  exact if_pos (decide_eq_true isOpen)

theorem turnOff_powerOff : state.execute .turnOff = (state.prepared .turnOff).powerOff :=
  rfl

theorem turnOff_deadline :
    (state.execute .turnOff).1.controller.window.deadline = some state.limit := by
  obtain ⟨later, passed⟩ := (state.prepared .turnOff).powerOff_passage
  rw [turnOff_powerOff, passed.window]
  exact turnOff_prepared.1

theorem turnOff_covered (housed : state.Housed) :
    (state.execute .turnOff).1.Covered state.limit where
  rearmed := by
    have step : state.Step (.command .turnOff) (state.execute .turnOff).1 :=
      apply_step housed (.command .turnOff)
    have clock := step.clock
    rw [step.options, limit]
    omega
  isOpen := fun _ => ⟨_, turnOff_deadline, Nat.le_refl _⟩

theorem turnOff_expires : (state.execute .turnOff).1.Expires state.limit := by
  intro deadline armed
  rw [turnOff_deadline, Option.some.injEq] at armed
  exact Nat.le_of_eq armed.symm

/-- In the window a poll publishes that the television is off and asks for nothing. -/
theorem tick_poweringOff (clear : state.guards.hold = false)
    (isOpen : state.controller.isPoweringOff state.now = true) :
    (∃ fresh, state.tick.trace = fresh ++ state.trace ∧ callsIn fresh = []) ∧
      state.tick.controller.power = .off ∧
      state.tick.controller.published =
        (state.setPower .off).controller.mediaState state.gate state.now := by
  obtain ⟨shown, trace, noCalls, _⟩ := (state.setPower .off).publish_trace
  rw [tick_eq_publish, gather_poweringOff state clear isOpen, publish_controller, publish_power,
    publish_published]
  exact ⟨⟨shown, trace, noCalls⟩, rfl, rfl⟩

/-- After the window a poll asks once whether the television is on. -/
theorem tick_asking (housed : state.Housed) (clear : state.guards.hold = false)
    (closed : state.controller.isPoweringOff state.now = false) :
    (∃ fresh, state.tick.trace = fresh ++ state.trace ∧ (callsIn fresh).count .isOn = 1) ∧
      state.tick.controller.power = powerOf state.television.on ∧
      state.tick.controller.published.state = powerOf state.television.on := by
  obtain ⟨guest, rest, asked⟩ := gather_asked clear closed housed.lodged housed.settled
  obtain ⟨shown, trace, noCalls, _⟩ := state.gather.publish_trace
  rw [tick_eq_publish, publish_controller, publish_power, publish_published]
  refine ⟨⟨shown ++ (rest ++ [⟨state.now, .called .isOn⟩]), ?_, ?_⟩, asked.power, asked.power⟩
  · rw [trace, asked.trace, List.append_assoc shown]
  · have others : (callsIn rest).count .isOn = 0 :=
      List.count_eq_zero.mpr fun member => (asked.calls _ member).elim
    have own : (callsIn [⟨state.now, .called .isOn⟩]).count .isOn = 1 := rfl
    rw [callsIn_append, noCalls, callsIn_append, List.nil_append, List.count_append, others, own]

/-- Turning the television off arms the deadline and shows so before anything is asked of the
television.  Up to the deadline every poll leaves the surroundings alone and publishes that the
television is powering off; after the deadline of the last command a poll asks once and adopts the
answer. -/
theorem power_off_window (options : Options) (television : Television) (host : Host)
    (replies : Network.Replies) (patience : Option Nat) (before after : List Operation) :
    let issuing := (State.initial options television host replies patience).run before
    let deadline := issuing.now + options.pollInterval + Power.slack
    let state := issuing.run (.command .turnOff :: after)
    (∃ (armed : State) (shown later : List Record), issuing.execute .turnOff = armed.powerOff ∧
      armed.controller.window.deadline = some deadline ∧
      armed.controller.published.lifecycle = .poweringOff ∧
      armed.trace = shown ++ issuing.trace ∧ callsIn shown = [] ∧
      (issuing.execute .turnOff).1.trace =
        later ++ ⟨issuing.now, .called .powerOff⟩ :: armed.trace) ∧
    (state.guards.hold = false → state.now < deadline →
      (∃ fresh, state.tick.trace = fresh ++ state.trace ∧ callsIn fresh = []) ∧
      state.tick.controller.power = .off ∧
      state.tick.controller.published.state = .off ∧
      state.tick.controller.published.lifecycle = .poweringOff ∧
      state.tick.controller.published.volume = none ∧
      state.tick.controller.published.muted = none) ∧
    ((∀ operation ∈ after, operation ≠ .command .turnOff) → state.guards.hold = false →
      deadline ≤ state.now →
      (∃ fresh, state.tick.trace = fresh ++ state.trace ∧ (callsIn fresh).count .isOn = 1) ∧
      state.tick.controller.power = powerOf state.television.on ∧
      state.tick.controller.published.state = powerOf state.television.on) := by
  intro issuing deadline state
  have initial := Housed.initial options television host replies patience
  have housed : issuing.Housed := initial.run before
  have known : issuing.controller.options = options :=
    (initial.run_options before).trans (new_options options)
  have limit : issuing.limit = deadline := by
    rw [State.limit, known]
  obtain ⟨armed, shows⟩ : (issuing.prepared .turnOff).controller.window.deadline = _ ∧ _ :=
    turnOff_prepared
  obtain ⟨shown, trace, quiet, _⟩ : ∃ shown, (issuing.prepared .turnOff).trace = _ ∧ _ :=
    setController_trace _ _
  have now : (issuing.prepared .turnOff).now = issuing.now := setController_now _ _
  obtain ⟨later, passed⟩ := (issuing.prepared .turnOff).powerOff_passage
  have called : (issuing.execute .turnOff).1.trace =
      later ++ ⟨issuing.now, .called .powerOff⟩ :: (issuing.prepared .turnOff).trace := by
    rw [turnOff_powerOff, passed.trace, ← now]
    rfl
  have housedOff : (issuing.execute .turnOff).1.Housed := housed.apply (.command .turnOff)
  have covered : state.Covered issuing.limit := (turnOff_covered housed).run housedOff after
  rw [limit] at armed covered
  refine ⟨⟨issuing.prepared .turnOff, shown, later, turnOff_powerOff, armed, shows, trace, quiet,
    called⟩, fun clear early => ?_, fun others clear late => ?_⟩
  · obtain ⟨until_, isArmed, covers⟩ := covered.isOpen early
    have isOpen : state.controller.isPoweringOff state.now = true :=
      Power.Window.isOpen_of_le isArmed covers early
    obtain ⟨quiet, power, published⟩ := tick_poweringOff clear isOpen
    refine ⟨quiet, power, ?_⟩
    rw [published]
    exact ⟨rfl, if_pos isOpen, mediaState_off _ _ _ rfl⟩
  · have expires : state.Expires issuing.limit := turnOff_expires.run housedOff others
    have closed : state.controller.isPoweringOff state.now = false := by
      refine Power.Window.isOpen_eq_false.mpr fun until_ isArmed => ?_
      have bound := expires until_ isArmed
      omega
    exact tick_asking (housedOff.run after) clear closed

/-- The last instant of the window, and the first after it. -/
theorem power_off_window_ends :
    (∃ fresh, (plain.run [.command .turnOff, .pass 14999]).tick.trace =
      fresh ++ (plain.run [.command .turnOff, .pass 14999]).trace ∧ callsIn fresh = []) ∧
    ∃ fresh, (plain.run [.command .turnOff, .pass 15000]).tick.trace =
      fresh ++ (plain.run [.command .turnOff, .pass 15000]).trace ∧
        (callsIn fresh).count .isOn = 1 :=
  ⟨((power_off_window _ _ _ _ _ [] [.pass 14999]).2.1 (by decide +kernel) (by decide +kernel)).1,
    ((power_off_window _ _ _ _ _ [] [.pass 15000]).2.2 (by simp) (by decide +kernel)
      (by decide +kernel)).1⟩

end State

end Televisor.Run
