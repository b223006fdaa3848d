import Televisor.Proofs.Run.Execution
import Televisor.Proofs.Run.Poll

namespace Televisor.Run

open Controller Telemetry

/-! Between two operations the receiver that listens is the one of the session that is held, and
after the end nothing is begun or stopped any more. -/

structure State.Housed (state : State) : Prop where
  lodged : Lodged state (state.held.map (·.receiver))
  settled : state.Settled (state.held.map (·.receiver))
  ended : state.controller.shuttingDown = true → state.held = none

namespace State

variable {state : State}

theorem shows_calm (controller : Controller) :
    ∀ record ∈ state.shows controller, record.Calm := by
  unfold shows
  split
  · simp
  · simp [Record.Calm, Record.listening?, Record.stopped?]

theorem handleEvent_options (event : Event) :
    (state.handleEvent event).controller.options = state.controller.options := by
  cases event with
  | telemetryChanged =>
      obtain ⟨volume, muted, same⟩ := state.refresh_eq
      rw [handleEvent, State.publish, setController_controller, publish_options, same]
  | _ => rw [handleEvent, State.publish, setController_controller, publish_options]

def ending (state : State) : State :=
  { state with controller := { state.controller with shuttingDown := true } }

theorem shutdown_running (running : state.controller.shuttingDown = false) :
    state.shutdown = { state.ending.stopSession with held := none } := by
  unfold State.shutdown
  rw [running]
  rfl

theorem shutdown_again (shutting : state.controller.shuttingDown = true) : state.shutdown = state :=
  if_pos shutting

namespace Housed

theorem initial (options : Options) (television : Television) (host : Host)
    (replies : Network.Replies) (patience : Option Nat) :
    (State.initial options television host replies patience).Housed where
  lodged := .initial rfl rfl
  settled := .of_none rfl rfl
  ended := fun _ => rfl

theorem of_lodger {lodger : Option Nat} (lodged : Lodged state lodger)
    (settled : state.Settled lodger)
    (ended : state.controller.shuttingDown = true → state.held = none) : state.Housed := by
  have held := settled.held
  subst held
  exact ⟨lodged, settled, ended⟩

theorem drift {after : State} {seen : List Record} (housed : state.Housed)
    (drift : Drift state seen after) : after.Housed := by
  refine .of_lodger (housed.lodged.drift drift) (housed.settled.drift drift) fun shutting => ?_
  rw [drift.shuttingDown] at shutting
  exact drift.held_none (housed.ended shutting)

theorem setController (housed : state.Housed) {controller : Controller}
    (same : controller.shuttingDown = state.controller.shuttingDown) :
    (state.setController controller).Housed := by
  rw [setController_eq]
  have settled := housed.settled
  exact ⟨housed.lodged.calm rfl (shows_calm controller) rfl,
    ⟨settled.held, settled.alive, settled.draft⟩, fun shutting => housed.ended (same ▸ shutting)⟩

theorem publish (housed : state.Housed) : state.publish.Housed :=
  housed.setController (publish_shuttingDown _ _ _)

/-- Replacing what no session is about. -/
theorem unchanged {after : State} (housed : state.Housed) (trace : after.trace = state.trace)
    (receivers : after.receivers = state.receivers) (held : after.held = state.held)
    (draft : after.draft = state.draft)
    (shutting : after.controller.shuttingDown = state.controller.shuttingDown) : after.Housed where
  lodged := by
    rw [held]
    exact housed.lodged.unchanged trace receivers
  settled := by
    have alive := housed.settled.alive
    rw [← held] at alive
    exact ⟨rfl, alive, draft.trans housed.settled.draft⟩
  ended := by
    rw [shutting, held]
    exact housed.ended

theorem refresh (housed : state.Housed) : state.refresh.Housed := by
  obtain ⟨volume, muted, same⟩ := state.refresh_eq
  rw [same]
  exact housed.unchanged rfl rfl rfl rfl rfl

theorem setPower (housed : state.Housed) (power : Media.Power) : (state.setPower power).Housed :=
  housed.unchanged rfl rfl rfl rfl rfl

theorem gathering {gathered : State} (housed : state.Housed)
    (gathering : state.Gathering gathered) : gathered.Housed := by
  cases gathering with
  | held _ => exact housed
  | poweringOff _ _ => exact housed.setPower .off
  | asked clear _ asked =>
      refine .of_lodger asked.lodged asked.settled fun shutting => ?_
      rw [asked.shuttingDown] at shutting
      simp [guards, Guards.hold, shutting] at clear

theorem handleEvent (housed : state.Housed) (event : Event) : (state.handleEvent event).Housed := by
  cases event with
  | telemetryChanged => exact housed.refresh.publish
  | _ => exact housed.publish

theorem shutdown_advance (housed : state.Housed)
    (running : state.controller.shuttingDown = false) :
    ∃ seen, Advance state.ending seen state.shutdown ∧ Lodged state.shutdown none ∧
      state.shutdown.Settled none := by
  have settled := housed.settled
  have lodged : Lodged state.ending _ := housed.lodged.unchanged rfl rfl
  have settledEnding : state.ending.Settled _ := ⟨settled.held, settled.alive, settled.draft⟩
  obtain ⟨seen, course, undrafted⟩ := stopSession_course lodged settledEnding
  have forgotten : Advance state.ending.stopSession []
      { state.ending.stopSession with held := none } :=
    .unseen rfl (Nat.le_refl _) rfl rfl rfl rfl id
  rw [shutdown_running running]
  exact ⟨seen, course.toAdvance.followed forgotten, course.lodged.unchanged rfl rfl,
    .of_none rfl undrafted⟩

end Housed

/-- What one operation does. -/
inductive Step (state : State) : Operation → State → Prop where
  | polled {gathered} (gathering : state.Gathering gathered) : Step state .poll gathered.publish
  | carriedOut {command seen after} (drift : Drift (state.prepared command) seen after) :
      Step state (.command command) after
  | handled {event rest} (waiting : state.queue = event :: rest) :
      Step state .event ({ state with queue := rest }.handleEvent event)
  | ended {seen after} (running : state.controller.shuttingDown = false)
      (advance : Advance state.ending seen after) (lodged : Lodged after none)
      (settled : after.Settled none) : Step state .shutdown after
  /-- The controller has no part in it. -/
  | drifted {operation seen after} (drift : Drift state seen after) : Step state operation after
  | surrounded {operation} (arrivals television host replies delays) :
      Step state operation { state with
        arrivals := arrivals, television := television, host := host, replies := replies
        delays := delays }

theorem handleFirst_step (state : State) : state.Step .event state.handleFirst := by
  unfold handleFirst
  split
  · exact .drifted (.refl state)
  · rename_i event rest waiting
    exact .handled waiting

theorem shutdown_step (housed : state.Housed) : state.Step .shutdown state.shutdown := by
  cases shutting : state.controller.shuttingDown with
  | true =>
      rw [shutdown_again shutting]
      exact .drifted (.refl state)
  | false =>
      obtain ⟨seen, advance, lodged, settled⟩ := housed.shutdown_advance shutting
      exact .ended shutting advance lodged settled

theorem apply_step (housed : state.Housed) (operation : Operation) :
    state.Step operation (state.apply operation) := by
  cases operation with
  | poll =>
      rw [apply, tick_eq_publish]
      exact .polled (gathering housed.lodged housed.settled)
  | command command =>
      obtain ⟨seen, drift, _⟩ := state.execute_drift command
      exact .carriedOut drift
  | event => exact state.handleFirst_step
  | shutdown => exact shutdown_step housed
  | pass duration =>
      obtain ⟨seen, passed⟩ := state.wait_passage duration
      exact .drifted passed.toDrift
  | happen what =>
      obtain ⟨seen, happened⟩ := state.happen_passage what
      exact .drifted happened.toDrift
  | expect arrival => exact .surrounded _ _ _ _ _
  | surround television host replies delays => exact .surrounded _ _ _ _ _

theorem Step.options {operation : Operation} {after : State} (step : state.Step operation after) :
    after.controller.options = state.controller.options := by
  cases step with
  | polled gathering =>
      obtain ⟨seen, tidings⟩ := gathering.tidings
      rw [publish_controller, publish_options, tidings.options]
  | carriedOut drift => rw [drift.options, prepared, setController_controller, prepare_options]
  | handled _ => exact handleEvent_options _
  | ended _ advance _ _ => exact advance.options
  | drifted drift => exact drift.options
  | surrounded _ _ _ _ _ => rfl

namespace Housed

theorem step {operation : Operation} {after : State} (housed : state.Housed)
    (step : state.Step operation after) : after.Housed := by
  cases step with
  | polled gathering => exact (housed.gathering gathering).publish
  | @carriedOut command _ _ drift =>
      have prepared : (state.prepared command).Housed :=
        housed.setController (prepare_shuttingDown _ _ _ _)
      exact prepared.drift drift
  | @handled event rest _ =>
      have popped : { state with queue := rest }.Housed := housed.unchanged rfl rfl rfl rfl rfl
      exact popped.handleEvent event
  | ended _ _ lodged settled => exact .of_lodger lodged settled fun _ => settled.held_none
  | drifted drift => exact housed.drift drift
  | surrounded _ _ _ _ _ => exact housed.unchanged rfl rfl rfl rfl rfl

theorem apply (housed : state.Housed) (operation : Operation) :
    (state.apply operation).Housed :=
  housed.step (apply_step housed operation)

theorem run (housed : state.Housed) (operations : List Operation) :
    (state.run operations).Housed := by
  induction operations generalizing state with
  | nil => exact housed
  | cons operation rest ih =>
      rw [run_cons]
      exact ih (housed.apply operation)

theorem run_options (housed : state.Housed) (operations : List Operation) :
    (state.run operations).controller.options = state.controller.options := by
  induction operations generalizing state with
  | nil => rfl
  | cons operation rest ih =>
      rw [run_cons, ih (housed.apply operation)]
      exact (apply_step housed operation).options

theorem listeners (housed : state.Housed) :
    listenersIn state.trace = state.held.toList.map (·.receiver) := by
  rw [housed.lodged.orderly.listeners]
  cases state.held <;> rfl

/-- The receivers agree with the trace. -/
theorem listening_iff (housed : state.Housed) (number : Nat) :
    (state.receivers[number]?).any (·.listening) = true ↔ number ∈ listenersIn state.trace := by
  have lodged := housed.lodged
  rw [lodged.orderly.listeners, Option.mem_toList]
  cases found : state.receivers[number]? with
  | some receiver => exact lodged.listening number receiver found
  | none =>
      have silent : state.held.map (·.receiver) ≠ some number := by
        intro lodges
        have bound := lodged.numbered number (lodged.orderly.begun_iff.mpr (.inr lodges))
        rw [List.getElem?_eq_none_iff] at found
        omega
      simp [silent]

theorem shutdown_ends (housed : state.Housed) :
    state.shutdown.controller.shuttingDown = true ∧ state.shutdown.held = none := by
  have shutting : state.shutdown.controller.shuttingDown = true := by
    cases shutting : state.controller.shuttingDown with
    | true => rwa [shutdown_again shutting]
    | false =>
        obtain ⟨seen, advance, _⟩ := housed.shutdown_advance shutting
        exact advance.shuttingDown
  exact ⟨shutting, (housed.apply .shutdown).ended shutting⟩

end Housed

end State

end Televisor.Run
