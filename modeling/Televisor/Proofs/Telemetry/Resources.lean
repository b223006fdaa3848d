import Televisor.Proofs.Telemetry.Housing

namespace Televisor.Run

open Controller Telemetry

/-! What sessions take up, over whole runs. -/

namespace State

variable {state : State}

theorem tick_held (held : state.guards.hold = true) : state.tick = state.publish := by
  rw [tick_eq_publish, gather_held state held]

/-- A poll begins a session exactly when it has heard that the television is on, none is held and the
renderer is known; it asks this renderer to describe itself. -/
theorem tick_starts (housed : state.Housed) :
    ∃ fresh, state.tick.trace = fresh ++ state.trace ∧ (startsIn fresh).length ≤ 1 ∧
      (∀ location, location ∈ startsIn fresh ↔
        state.guards.hold = false ∧ Call.isOn ∈ callsIn fresh ∧
          state.television.on = .ok true ∧
          state.controller.options.location = some location ∧ state.held = none) ∧
      Inquires (startsIn fresh) fresh := by
  obtain ⟨shown, trace, noCalls, noStarts⟩ := state.gather.publish_trace
  have gathering := gathering housed.lodged housed.settled
  rw [tick_eq_publish, trace]
  generalize state.gather = gathered at gathering
  cases gathering with
  | held held =>
      refine ⟨shown, rfl, by simp [noStarts], by simp [noStarts, held], ?_⟩
      rw [noStarts]
      nofun
  | poweringOff clear isOpen =>
      refine ⟨shown, rfl, by simp [noStarts], by simp [noStarts, noCalls], ?_⟩
      rw [noStarts]
      nofun
  | @asked _ rest _ clear closed asked =>
      have asks : Call.isOn ∈ callsIn (rest ++ [⟨state.now, .called .isOn⟩]) := by
        simp [callsIn, Record.call?]
      have starts : startsIn (rest ++ [⟨state.now, .called .isOn⟩]) =
          if powerOf state.television.on = .on then state.dueStarts else [] := by
        rw [startsIn_append, asked.starts]
        exact List.append_nil _
      refine ⟨shown ++ (rest ++ [⟨state.now, .called .isOn⟩]), ?_, ?_, ?_, ?_⟩
      · rw [List.append_assoc, asked.trace]
      · rw [startsIn_append, noStarts, List.nil_append, starts]
        split
        · exact dueStarts_length
        · simp
      · intro location
        rw [startsIn_append, noStarts, List.nil_append, starts, callsIn_append, noCalls,
          List.nil_append]
        by_cases on : powerOf state.television.on = .on
        · rw [if_pos on, mem_dueStarts]
          simp only [clear, asks, powerOf_eq_on.mp on, true_and]
        · rw [if_neg on]
          have isOff : state.television.on ≠ .ok true := fun same => on (powerOf_eq_on.mpr same)
          simp [isOff]
      · intro location begun built found
        rw [startsIn_append, noStarts, List.nil_append, starts] at begun
        have inquired := asked.inquires location begun built found
        rw [callsIn_append, callsIn_append]
        exact List.mem_append_right _ (List.mem_append_left _ inquired)

end State

/-- No receiver begins to listen or is stopped from one state to the next. -/
structure Rest (before after : State) : Prop where
  begun : begunIn after.trace = begunIn before.trace
  stopped : stoppedIn after.trace = stoppedIn before.trace
  shuttingDown : after.controller.shuttingDown = before.controller.shuttingDown

namespace Rest

variable {before middle after : State} {seen : List Record}

theorem refl (state : State) : Rest state state :=
  ⟨rfl, rfl, rfl⟩

theorem trans (first : Rest before middle) (second : Rest middle after) : Rest before after where
  begun := second.begun.trans first.begun
  stopped := second.stopped.trans first.stopped
  shuttingDown := second.shuttingDown.trans first.shuttingDown

theorem of_calm (trace : after.trace = seen ++ before.trace) (calm : ∀ record ∈ seen, record.Calm)
    (shuttingDown : after.controller.shuttingDown = before.controller.shuttingDown) :
    Rest before after where
  begun := by
    have none : begunIn seen = [] :=
      List.filterMap_eq_nil_iff.mpr fun record member => (calm record member).1
    rw [trace, begunIn_append, none, List.nil_append]
  stopped := by
    have none : stoppedIn seen = [] :=
      List.filterMap_eq_nil_iff.mpr fun record member => (calm record member).2
    rw [trace, stoppedIn_append, none, List.nil_append]
  shuttingDown := shuttingDown

theorem drift (drift : Drift before seen after) : Rest before after :=
  of_calm drift.trace (fun record member => (drift.apart record member).calm) drift.shuttingDown

theorem setController {state : State} {controller : Controller}
    (same : controller.shuttingDown = state.controller.shuttingDown) :
    Rest state (state.setController controller) := by
  rw [State.setController_eq]
  exact of_calm rfl (State.shows_calm controller) same

theorem publish (state : State) : Rest state state.publish :=
  setController (publish_shuttingDown _ _ _)

end Rest

namespace State

variable {state : State}

theorem handleEvent_rest (event : Event) : Rest state (state.handleEvent event) := by
  cases event with
  | telemetryChanged =>
      have refreshed : Rest state state.refresh := by
        obtain ⟨volume, muted, same⟩ := state.refresh_eq
        rw [same]
        exact ⟨rfl, rfl, rfl⟩
      exact refreshed.trans (.publish _)
  | _ => exact .publish state

/-- After the end every operation leaves the receivers alone. -/
theorem step_rest {operation : Operation} {after : State}
    (shutting : state.controller.shuttingDown = true) (step : state.Step operation after) :
    Rest state after := by
  cases step with
  | polled gathering =>
      have stays : state.guards.hold = true := by simp [guards, Guards.hold, shutting]
      cases gathering with
      | held _ => exact .publish state
      | poweringOff clear _ => simp [stays] at clear
      | asked clear _ _ => simp [stays] at clear
  | @carriedOut command _ _ drift =>
      have prepared : Rest state (state.prepared command) :=
        .setController (prepare_shuttingDown _ _ _ _)
      exact prepared.trans (.drift drift)
  | @handled event rest _ =>
      have popped : Rest state { state with queue := rest } := ⟨rfl, rfl, rfl⟩
      exact popped.trans (handleEvent_rest event)
  | ended running _ _ _ => simp [shutting] at running
  | drifted drift => exact .drift drift
  | surrounded _ _ _ _ _ => exact ⟨rfl, rfl, rfl⟩

theorem run_rest (housed : state.Housed) (shutting : state.controller.shuttingDown = true)
    (operations : List Operation) : Rest state (state.run operations) := by
  induction operations generalizing state with
  | nil => exact .refl state
  | cons operation rest ih =>
      have step := step_rest shutting (apply_step housed operation)
      rw [run_cons]
      exact step.trans (ih (housed.apply operation) (step.shuttingDown.trans shutting))

/-- A session is begun in a poll exactly when the television has just said that it is on, none is held
and the renderer is known; the renderer is asked to describe itself then, if its location is one that
a request can be sent to.  At most one receiver listens at any moment, and between operations it is
the one of the session that is held; none is stopped twice.  Once the controller has shut down no
receiver listens, and nothing is asked, begun or stopped by a poll or by shutting down again. -/
theorem session_resources (options : Options) (television : Television) (host : Host)
    (replies : Network.Replies) (patience : Option Nat) (operations later : List Operation) :
    let state := (State.initial options television host replies patience).run operations
    let ended := state.shutdown.run later
    (∃ fresh, state.tick.trace = fresh ++ state.trace ∧ (startsIn fresh).length ≤ 1 ∧
      (∀ location, location ∈ startsIn fresh ↔
        state.guards.hold = false ∧ Call.isOn ∈ callsIn fresh ∧ state.television.on = .ok true ∧
          options.location = some location ∧ state.held = none) ∧
      ∀ location ∈ startsIn fresh, ∀ built, (Rendering.fetch location).built? = some built →
        .http built ∈ callsIn fresh) ∧
    (∀ moment, moment <:+ state.trace → (listenersIn moment).length ≤ 1) ∧
    listenersIn state.trace = state.held.toList.map (·.receiver) ∧
    (∀ number, (state.receivers[number]?).any (·.listening) = true ↔
      number ∈ listenersIn state.trace) ∧
    (stoppedIn state.trace).Nodup ∧ (∀ number ∈ stoppedIn state.trace, number ∈ begunIn state.trace) ∧
    ended.held = none ∧ listenersIn ended.trace = [] ∧
    begunIn ended.trace = begunIn state.shutdown.trace ∧
    stoppedIn ended.trace = stoppedIn state.shutdown.trace ∧
    ended.shutdown = ended ∧
    ∃ fresh, ended.tick.trace = fresh ++ ended.trace ∧ callsIn fresh = [] := by
  intro state ended
  have housed : state.Housed := (Housed.initial options television host replies patience).run _
  have known : state.controller.options = options :=
    ((Housed.initial options television host replies patience).run_options operations).trans
      (new_options options)
  obtain ⟨shutting, unheld⟩ := housed.shutdown_ends
  have rest : Rest state.shutdown ended := run_rest (housed.apply .shutdown) shutting later
  have housedEnded : ended.Housed := (housed.apply .shutdown).run later
  have shuttingEnded := rest.shuttingDown.trans shutting
  have unheldEnded := housedEnded.ended shuttingEnded
  have starts := tick_starts housed
  have orderly := housed.lodged.orderly
  have stays : ended.guards.hold = true := by simp [guards, Guards.hold, shuttingEnded]
  obtain ⟨shown, trace, noCalls, _⟩ := ended.publish_trace
  rw [known] at starts
  refine ⟨starts, ?_, housed.listeners, housed.listening_iff, orderly.stopped_nodup, ?_,
    unheldEnded, ?_, rest.begun, rest.stopped, shutdown_again shuttingEnded, ?_⟩
  · intro moment earlier
    obtain ⟨guest, then_⟩ := orderly.at_moment earlier
    exact then_.listeners_le_one
  · intro number stopped
    exact orderly.begun_iff.mpr (.inl stopped)
  · rw [housedEnded.listeners, unheldEnded]
    rfl
  · rw [tick_held stays]
    exact ⟨shown, trace, noCalls⟩

end State

end Televisor.Run
