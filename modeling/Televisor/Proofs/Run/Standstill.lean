import Televisor.Proofs.Run.Showing
import Televisor.Proofs.Telemetry.Aftermath
import Televisor.Proofs.Telemetry.Resources

namespace Televisor.Run

open Controller Media Network

/-! Guards hold for good: after a refusal or the end a poll publishes and does nothing else. -/

/-- Whatever the surroundings have become, states were published and nothing else was done. -/
structure Standstill (before after : State) : Prop where
  rest : { after with
    television := before.television, host := before.host, replies := before.replies
    delays := before.delays, trace := before.trace
    controller := { after.controller with
      published := before.controller.published, publishedAt := before.controller.publishedAt
      version := before.controller.version } } = before
  trace : ∃ shown, after.trace = shown ++ before.trace ∧
    ∀ record ∈ shown, ∃ published, record.what = .published published

namespace Standstill

variable {before middle after : State}

theorem refl (state : State) : Standstill state state :=
  ⟨rfl, [], rfl, by simp⟩

theorem trans (first : Standstill before middle) (second : Standstill middle after) :
    Standstill before after := by
  obtain ⟨shown, trace, published⟩ := first.trace
  obtain ⟨later, traceLater, publishedLater⟩ := second.trace
  refine ⟨?_, later ++ shown, ?_, fun record member => ?_⟩
  · have rest := congrArg (fun state : State => { state with
      television := before.television, host := before.host, replies := before.replies
      delays := before.delays, trace := before.trace
      controller := { state.controller with
        published := before.controller.published, publishedAt := before.controller.publishedAt
        version := before.controller.version } }) second.rest
    exact rest.trans first.rest
  · rw [traceLater, trace, List.append_assoc]
  · rcases List.mem_append.mp member with member | member
    · exact publishedLater record member
    · exact published record member

theorem publish (state : State) : Standstill state state.publish := by
  rcases state.publish_cases with ⟨_, published⟩ | ⟨_, published⟩
  · rw [published]
    exact ⟨rfl, [], rfl, by simp⟩
  · rw [published]
    refine ⟨rfl, [⟨state.now, .published _⟩], rfl, fun record member => ?_⟩
    rw [List.mem_singleton.mp member]
    exact ⟨_, rfl⟩

variable (standstill : Standstill before after)
include standstill

theorem guards : after.guards = before.guards :=
  congrArg (·.guards) standstill.rest

theorem quiet : callsIn after.trace = callsIn before.trace ∧
    startsIn after.trace = startsIn before.trace ∧ begunIn after.trace = begunIn before.trace := by
  obtain ⟨shown, trace, published⟩ := standstill.trace
  have none {α : Type} (read : Record → Option α)
      (blind : ∀ time state, read ⟨time, .published state⟩ = none) :
      shown.filterMap read = [] := by
    refine List.filterMap_eq_nil_iff.mpr fun record member => ?_
    obtain ⟨state, what⟩ := published record member
    obtain ⟨time, what⟩ := record
    subst what
    exact blind time state
  rw [trace, callsIn_append, startsIn_append, begunIn_append]
  refine ⟨?_, ?_, ?_⟩ <;> refine (congrArg (· ++ _) (none _ fun _ _ => rfl)).trans (List.nil_append _)

theorem untouched : after.controller.power = before.controller.power ∧
    after.controller.window = before.controller.window ∧ after.gate = before.gate ∧
    after.held = before.held ∧ after.draft = before.draft ∧ after.queue = before.queue :=
  ⟨congrArg (·.controller.power) standstill.rest, congrArg (·.controller.window) standstill.rest,
    congrArg (·.gate) standstill.rest, congrArg (·.held) standstill.rest,
    congrArg (·.draft) standstill.rest, congrArg (·.queue) standstill.rest⟩

end Standstill

namespace State

variable {state after : State}

/-- A poll, or the surroundings change their minds. -/
inductive Idle : Operation → Prop where
  | poll : Idle .poll
  | surround (television host replies delays) : Idle (.surround television host replies delays)

theorem Idle.standstill {operation : Operation} (idle : Idle operation)
    (held : state.guards.hold = true) : Standstill state (state.apply operation) := by
  cases idle with
  | poll =>
      rw [State.apply, tick_held held]
      exact .publish state
  | surround television host replies delays => exact ⟨rfl, [], rfl, by simp⟩

theorem standstill_run (held : state.guards.hold = true) {ticks : List Operation}
    (idle : ∀ operation ∈ ticks, Idle operation) : Standstill state (state.run ticks) := by
  induction ticks generalizing state with
  | nil => exact .refl state
  | cons operation rest ih =>
      have first := (idle operation (by simp)).standstill held
      have heldNext := first.guards.symm ▸ held
      rw [run_cons]
      exact first.trans (ih heldNext fun later member => idle later (by simp [member]))

/-- What waits in the queue is what was raised last. -/
def Queued (state : State) : Prop :=
  state.queue <:+ raisedIn state.trace

theorem Queued.tidings {seen : List Record} (queued : state.Queued)
    (tidings : Tidings state seen after) : after.Queued := by
  obtain ⟨handled, same⟩ := queued
  refine ⟨handled, ?_⟩
  rw [tidings.queue, tidings.raised, ← same, List.append_assoc]

theorem Queued.setController (queued : state.Queued) (controller : Controller) :
    (state.setController controller).Queued := by
  rw [Queued, setController_eq, raisedIn_append]
  have silent : raisedIn (state.shows controller) = [] := by
    unfold shows
    split <;> rfl
  rw [silent, List.append_nil]
  exact queued

theorem Queued.handleEvent {event : Event} (queued : state.Queued) :
    (state.handleEvent event).Queued := by
  cases event with
  | telemetryChanged => exact (queued.tidings state.refresh_tidings).setController _
  | _ => exact queued.setController _

theorem Queued.step {operation : Operation} (queued : state.Queued)
    (step : state.Step operation after) : after.Queued := by
  cases step with
  | polled gathering =>
      obtain ⟨seen, tidings⟩ := gathering.tidings
      exact (queued.tidings tidings).setController _
  | carriedOut drift => exact (queued.setController _).tidings drift.toTidings
  | @handled event rest waiting =>
      have popped : { state with queue := rest }.Queued := by
        rw [Queued, waiting] at queued
        exact (List.suffix_cons event rest).trans queued
      exact popped.handleEvent
  | ended _ advance _ _ =>
      have ending : state.ending.Queued := queued
      exact ending.tidings advance.toTidings
  | drifted drift => exact queued.tidings drift.toTidings
  | surrounded _ _ _ _ _ => exact queued

theorem Queued.run (queued : state.Queued) (housed : state.Housed) (operations : List Operation) :
    (state.run operations).Queued := by
  induction operations generalizing state with
  | nil => exact queued
  | cons operation rest ih =>
      rw [run_cons]
      exact ih (queued.step (apply_step housed operation)) (housed.apply operation)

theorem Step.shuttingDown {operation : Operation} (step : state.Step operation after)
    (other : operation ≠ .shutdown) :
    after.controller.shuttingDown = state.controller.shuttingDown := by
  cases step with
  | polled gathering =>
      obtain ⟨seen, tidings⟩ := gathering.tidings
      rw [publish_controller, publish_shuttingDown, tidings.shuttingDown]
  | carriedOut drift =>
      rw [drift.shuttingDown, prepared, setController_controller, prepare_shuttingDown]
  | @handled event _ _ => exact (handleEvent_rest event).shuttingDown
  | ended _ _ _ _ => exact absurd rfl other
  | drifted drift => exact drift.shuttingDown
  | surrounded _ _ _ _ _ => rfl

/-- Only shutting down sets the guard for the end, and nothing clears it. -/
theorem run_shuttingDown (housed : state.Housed) (operations : List Operation) :
    (state.run operations).controller.shuttingDown = true ↔
      state.controller.shuttingDown = true ∨ .shutdown ∈ operations := by
  induction operations generalizing state with
  | nil => simp [run]
  | cons operation rest ih =>
      rw [run_cons, ih (housed.apply operation), List.mem_cons, ← or_assoc]
      refine or_congr_left ?_
      by_cases ends : operation = .shutdown
      · subst ends
        exact iff_of_true housed.shutdown_ends.1 (.inr rfl)
      · rw [(apply_step housed operation).shuttingDown ends, or_iff_left (Ne.symm ends)]

theorem raised_run {event : Event} (raised : event ∈ raisedIn state.trace)
    (operations : List Operation) : event ∈ raisedIn (state.run operations).trace := by
  obtain ⟨later, trace⟩ : state.trace <:+ (state.run operations).trace := run_trace operations
  rw [← trace, raisedIn_append]
  exact List.mem_append_left _ raised

theorem Candid.unavailable (candid : state.Candid) {later earlier : List Record} {time : Nat}
    {published : MediaState} (trace : state.trace = later ++ ⟨time, .published published⟩ :: earlier)
    (refused : Event.reauthRequired ∈ raisedIn earlier) : published.available = false := by
  have shows := candid.shows
  rw [trace] at shows
  obtain ⟨controller, gate, same, knows⟩ := shows.at_record published rfl
  have failed : controller.authFailed = true := knows.mpr refused
  have available : published.available = controller.isAvailable time :=
    congrArg MediaState.available same
  rw [available, Controller.isAvailable, failed]
  rfl

/-- The guards tell whether the television has refused and whether the controller was shut down, and
they are never cleared.  Once one holds, polls publish and do nothing else, however many there are
and whatever the television would answer.  What is published after a refusal is not available, and
each refusal is one event, which waits until it is handled. -/
theorem guards_for_good (options : Options) (television : Television) (host : Host)
    (replies : Replies) (patience : Option Nat) (before after ticks : List Operation) :
    let state := (State.initial options television host replies patience).run before
    let later := state.run after
    (state.controller.authFailed = true ↔ Event.reauthRequired ∈ raisedIn state.trace) ∧
    (state.controller.shuttingDown = true ↔ .shutdown ∈ before) ∧
    (state.controller.authFailed = true → later.controller.authFailed = true) ∧
    (state.controller.shuttingDown = true → later.controller.shuttingDown = true) ∧
    (Event.reauthRequired ∈ raisedIn state.trace ∨ .shutdown ∈ before →
      (∀ operation ∈ ticks, Idle operation) →
      let ticked := later.run ticks
      Standstill later ticked ∧
      callsIn ticked.trace = callsIn later.trace ∧
      startsIn ticked.trace = startsIn later.trace ∧
      begunIn ticked.trace = begunIn later.trace ∧
      ticked.controller.power = later.controller.power ∧
      ticked.controller.window = later.controller.window ∧
      ticked.gate = later.gate ∧ ticked.held = later.held) ∧
    (∀ shown time published earlier, state.trace = shown ++ ⟨time, .published published⟩ :: earlier →
      Event.reauthRequired ∈ raisedIn earlier → published.available = false) ∧
    state.queue <:+ raisedIn state.trace ∧
    ∀ moment : State, moment.refuse.controller.authFailed = true ∧
      moment.refuse.queue = moment.queue ++ [.reauthRequired] ∧
      raisedIn moment.refuse.trace = raisedIn moment.trace ++ [.reauthRequired] := by
  intro state later
  have initial := Housed.initial options television host replies patience
  have housed : state.Housed := initial.run before
  have candid : state.Candid := (Candid.initial options television host replies patience).run
    initial before
  have candidLater : later.Candid := candid.run housed after
  have running : (State.initial options television host replies patience).controller.shuttingDown =
      false := publish_shuttingDown _ _ _
  have ends : state.controller.shuttingDown = true ↔ .shutdown ∈ before := by
    rw [run_shuttingDown initial before, running]
    simp
  have staysRefused (failed : state.controller.authFailed = true) :
      later.controller.authFailed = true :=
    candidLater.refused.mpr (raised_run (candid.refused.mp failed) after)
  have staysEnded (shutting : state.controller.shuttingDown = true) :
      later.controller.shuttingDown = true :=
    (run_shuttingDown housed after).mpr (.inl shutting)
  have queued : state.Queued := by
    refine Queued.run ?_ initial before
    exact List.nil_suffix
  refine ⟨candid.refused, ends, staysRefused, staysEnded, fun guarded idle => ?_,
    fun _ _ _ _ trace refused => candid.unavailable trace refused, queued, fun moment => ?_⟩
  · have held : later.guards.hold = true := by
      rcases guarded with refused | shut
      · simp [guards, Guards.hold, staysRefused (candid.refused.mpr refused)]
      · simp [guards, Guards.hold, staysEnded (ends.mpr shut)]
    have standstill := standstill_run held idle
    obtain ⟨calls, starts, begun⟩ := standstill.quiet
    obtain ⟨power, window, gate, isHeld, _⟩ := standstill.untouched
    exact ⟨standstill, calls, starts, begun, power, window, gate, isHeld⟩
  · obtain ⟨queue, raised⟩ : _ ∧ raisedIn moment.refuse.trace = _ :=
      ⟨moment.refuse_passage.queue, moment.refuse_passage.raised⟩
    exact ⟨rfl, queue, raised⟩

/-- A television that refuses in the middle of a poll is asked nothing afterwards, even if it would
let itself be asked again. -/
theorem standstill_after_refusal :
    let state := plain.run [.surround { plain.television with refusesOnQuery := true } plain.host []
      plain.delays, .poll]
    let ticks : List Operation := [.surround plain.television plain.host [] plain.delays, .poll, .poll]
    Call.requestAppList ∈ callsIn state.trace ∧ callsIn (state.run ticks).trace = callsIn state.trace := by
  intro state ticks
  have refused : Event.reauthRequired ∈ raisedIn state.trace := by decide +kernel
  have idle : ∀ operation ∈ ticks, Idle operation := by
    intro operation member
    simp only [ticks, List.mem_cons, List.not_mem_nil, or_false] at member
    rcases member with rfl | rfl | rfl
    · exact .surround _ _ _ _
    · exact .poll
    · exact .poll
  have asked : Call.requestAppList ∈ callsIn state.trace := by decide +kernel
  exact ⟨asked, ((guards_for_good _ _ _ _ _ _ [] ticks).2.2.2.2.1 (.inl refused) idle).2.1⟩

end State

end Televisor.Run
