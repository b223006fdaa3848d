import Mathlib.Data.List.Induction
import Televisor.Proofs.Power.Deadline
import Televisor.Proofs.Run.Showing

namespace Televisor.Controller

open Media

theorem lifecycle_eq_poweringOff {controller : Controller} {now : Nat} :
    controller.lifecycle now = .poweringOff ↔ controller.isPoweringOff now = true := by
  unfold Controller.lifecycle Power.Window.lifecycle Controller.isPoweringOff
  cases controller.window.isOpen now <;> cases controller.power <;> simp

theorem lifecycle_agrees (controller : Controller) (now : Nat) :
    (controller.lifecycle now = .on → controller.power = .on) ∧
      (controller.lifecycle now = .off → controller.power = .off) := by
  unfold Controller.lifecycle Power.Window.lifecycle
  cases controller.window.isOpen now <;> cases controller.power <;> simp

end Televisor.Controller

namespace Televisor.Run

open Controller Media Network

/-! Whether the lifecycle that is shown agrees with the power state that is shown with it.  The one is
derived from the window and the other is stored, and turning the television off opens the window
without a look at what is stored. -/

theorem mem_shownIn {trace : List Record} {published : MediaState} :
    published ∈ shownIn trace ↔
      ∃ later time earlier, trace = later ++ ⟨time, .published published⟩ :: earlier := by
  constructor
  · intro member
    obtain ⟨⟨time, what⟩, found, shows⟩ := List.mem_filterMap.mp member
    cases what <;> simp only [Record.published?, Option.some.injEq, reduceCtorEq] at shows
    subst shows
    obtain ⟨later, earlier, same⟩ := List.append_of_mem found
    exact ⟨later, time, earlier, same⟩
  · rintro ⟨later, time, earlier, rfl⟩
    exact List.mem_filterMap.mpr ⟨⟨time, .published published⟩, by simp, rfl⟩

namespace State

variable {state after : State}

/-- The television counts as on although it is being turned off. -/
structure Torn (state : State) : Prop where
  on : state.controller.power = .on
  armed : state.controller.window ≠ .closed

theorem Torn.congr (power : after.controller.power = state.controller.power)
    (window : after.controller.window = state.controller.window) : after.Torn ↔ state.Torn := by
  constructor
  · rintro ⟨on, armed⟩
    exact ⟨power ▸ on, window ▸ armed⟩
  · rintro ⟨on, armed⟩
    exact ⟨power.trans on, window ▸ armed⟩

theorem handleEvent_power (event : Event) :
    (state.handleEvent event).controller.power = state.controller.power := by
  cases event with
  | telemetryChanged =>
      obtain ⟨volume, muted, same⟩ := state.refresh_eq
      rw [handleEvent, publish_controller, publish_power, same]
  | _ => rw [handleEvent, publish_controller, publish_power]

theorem prepared_power (command : Command) :
    (state.prepared command).controller.power = state.controller.power := by
  obtain ⟨window, playing, published, publishedAt, version, same⟩ :=
    prepare_eq state.controller state.gate state.now command
  rw [prepared, setController_controller, same]

/-- Only a poll finds out anything about the power state. -/
theorem Step.power {operation : Operation} (step : state.Step operation after)
    (other : operation ≠ .poll) : after.controller.power = state.controller.power := by
  cases step with
  | polled _ => exact absurd rfl other
  | carriedOut drift => rw [drift.power, prepared_power]
  | @handled event rest _ =>
      have handled : ({ state with queue := rest }.handleEvent event).controller.power =
          state.controller.power := handleEvent_power event
      exact handled
  | ended _ advance _ _ => exact advance.power
  | drifted drift => exact drift.power
  | surrounded _ _ _ _ _ => rfl

theorem turnOff_torn (housed : state.Housed) :
    (state.apply (.command .turnOff)).Torn ↔ state.controller.power = .on := by
  have power := (apply_step housed (.command .turnOff)).power nofun
  have deadline : (state.apply (.command .turnOff)).controller.window.deadline =
      some state.limit := turnOff_deadline
  constructor
  · intro torn
    exact power.symm.trans torn.on
  · intro on
    refine ⟨power.trans on, fun closed => ?_⟩
    rw [closed] at deadline
    contradiction

/-- A poll that looks leaves either the window closed or the television off. -/
theorem tick_torn (housed : state.Housed) :
    state.tick.Torn ↔ state.guards.hold = true ∧ state.Torn := by
  have power : state.tick.controller.power = state.gather.controller.power := by
    rw [tick_eq_publish, publish_controller, publish_power]
  have window : state.tick.controller.window = state.gather.controller.window := by
    rw [tick_eq_publish, publish_controller, publish_window]
  rw [Torn.congr power window]
  cases held : state.guards.hold with
  | true =>
      rw [gather_held state held]
      simp
  | false =>
      refine iff_of_false (fun torn => ?_) (by simp)
      have gathering := gathering housed.lodged housed.settled
      generalize state.gather = gathered at gathering torn
      cases gathering with
      | held holds => simp [held] at holds
      | poweringOff _ _ => exact absurd torn.on nofun
      | asked _ _ asked => exact torn.armed asked.window

theorem apply_torn (housed : state.Housed) {operation : Operation} (notOff : operation ≠ .command .turnOff)
    (notPoll : operation ≠ .poll) : (state.apply operation).Torn ↔ state.Torn := by
  have step := apply_step housed operation
  refine Torn.congr (step.power notPoll) ?_
  cases step.window with
  | kept same => exact same
  | armed _ => exact absurd rfl notOff
  | cleared _ _ => exact absurd rfl notPoll

/-- The television was told to turn off while it counted as on, and no poll has looked since. -/
def Unnoticed (initial : State) (operations : List Operation) : Prop :=
  ∃ before after, operations = before ++ .command .turnOff :: after ∧
    (initial.run before).controller.power = .on ∧
    ∀ earlier later, after = earlier ++ .poll :: later →
      (initial.run (before ++ .command .turnOff :: earlier)).guards.hold = true

theorem run_append (state : State) (first second : List Operation) :
    state.run (first ++ second) = (state.run first).run second :=
  List.foldl_append

theorem Torn.run (torn : state.Torn) (housed : state.Housed) {operations : List Operation}
    (unlooked : ∀ earlier later, operations = earlier ++ .poll :: later →
      (state.run earlier).guards.hold = true) : (state.run operations).Torn := by
  induction operations generalizing state with
  | nil => exact torn
  | cons operation rest ih =>
      have next : (state.apply operation).Torn := by
        by_cases isPoll : operation = .poll
        · subst isPoll
          exact (tick_torn housed).mpr ⟨unlooked [] rest rfl, torn⟩
        · by_cases isOff : operation = .command .turnOff
          · subst isOff
            exact (turnOff_torn housed).mpr torn.on
          · exact (apply_torn housed isOff isPoll).mpr torn
      rw [run_cons]
      refine ih next (housed.apply operation) fun earlier later same => ?_
      exact unlooked (operation :: earlier) later (by rw [same, List.cons_append])

theorem unnoticed_of_torn (initial : state.Housed) (calm : ¬ state.Torn)
    (operations : List Operation) (torn : (state.run operations).Torn) :
    Unnoticed state operations := by
  induction operations using List.reverseRecOn with
  | nil => exact absurd torn calm
  | append_singleton operations operation ih =>
      have housed : (state.run operations).Housed := initial.run operations
      have last : state.run (operations ++ [operation]) = (state.run operations).apply operation :=
        run_append state operations [operation]
      rw [last] at torn
      -- Either this operation has torn the state, or it has kept it so.
      by_cases isOff : operation = .command .turnOff
      · subst isOff
        exact ⟨operations, [], rfl, (turnOff_torn housed).mp torn, by simp⟩
      · have kept : (state.run operations).Torn ∧
            (operation = .poll → (state.run operations).guards.hold = true) := by
          by_cases isPoll : operation = .poll
          · subst isPoll
            obtain ⟨held, before⟩ := (tick_torn housed).mp torn
            exact ⟨before, fun _ => held⟩
          · exact ⟨(apply_torn housed isOff isPoll).mp torn, fun same => absurd same isPoll⟩
        obtain ⟨before, after, rfl, on, unlooked⟩ := ih kept.1
        refine ⟨before, after ++ [operation], by simp, on, fun earlier later same => ?_⟩
        rcases List.eq_nil_or_concat later with rfl | ⟨front, final, rfl⟩
        · obtain ⟨rfl, isPoll⟩ := List.append_inj' same rfl
          exact kept.2 (List.cons.inj isPoll).1
        · have shorter : after = earlier ++ .poll :: front := by
            have split : after ++ [operation] = (earlier ++ .poll :: front) ++ [final] := by
              simpa using same
            exact (List.append_inj' split rfl).1
          exact unlooked earlier front shorter

theorem torn_iff (initial : state.Housed) (calm : ¬ state.Torn) (operations : List Operation) :
    (state.run operations).Torn ↔ Unnoticed state operations := by
  refine ⟨unnoticed_of_torn initial calm operations, ?_⟩
  rintro ⟨before, after, rfl, on, unlooked⟩
  have housed : (state.run before).Housed := initial.run before
  have torn := (turnOff_torn housed).mpr on
  rw [run_append, run_cons]
  refine torn.run (housed.apply _) fun earlier later same => ?_
  have held := unlooked earlier later same
  rwa [run_append, run_cons] at held

theorem initial_calm (options : Options) (television : Television) (host : Host)
    (replies : Replies) (patience : Option Nat) :
    ¬ (State.initial options television host replies patience).Torn := by
  intro torn
  have off : (Controller.new options).power = .off := publish_power _ _ _
  exact absurd (off.symm.trans torn.on) nofun

/-- A state that agrees with itself, the power-off window apart. -/
def Consistent (shown : MediaState) : Prop :=
  (shown.lifecycle = .on → shown.state = .on) ∧ (shown.lifecycle = .off → shown.state = .off) ∧
    (shown.state = .off → shown.volume = none ∧ shown.muted = none)

theorem consistent_mediaState (controller : Controller) (gate : Discovery.Gate) (now : Nat) :
    Consistent (controller.mediaState gate now) := by
  obtain ⟨on, off⟩ := lifecycle_agrees controller now
  exact ⟨on, off, mediaState_off controller gate now⟩

theorem Candid.consistent (candid : state.Candid) {shown : MediaState}
    (member : shown ∈ shownIn state.trace) : Consistent shown := by
  obtain ⟨later, time, earlier, trace⟩ := mem_shownIn.mp member
  have shows := candid.shows
  rw [trace] at shows
  obtain ⟨controller, gate, same, _⟩ := shows.at_record shown rfl
  rw [same]
  exact consistent_mediaState _ _ _

theorem Informed.shown_power (informed : state.Informed) :
    state.controller.published.state = state.controller.power ∧
      state.controller.published.lifecycle =
        state.controller.lifecycle state.controller.publishedAt :=
  ⟨congrArg MediaState.state informed.shown, congrArg MediaState.lifecycle informed.shown⟩

theorem Torn.iff_open {now : Nat} :
    state.Torn ∧ state.controller.isPoweringOff now = true ↔
      state.controller.power = .on ∧ state.controller.isPoweringOff now = true := by
  refine and_congr_left fun isOpen => ⟨fun torn => torn.on, fun on => ⟨on, fun closed => ?_⟩⟩
  rw [Controller.isPoweringOff, closed] at isOpen
  contradiction

/-- Every state that is shown agrees with itself, but that a television that is powering off may be
shown to be on: while the window is open and no poll has looked since the command to turn off was
given to a television that counted as on.  Giving that command shows it so at once. -/
theorem shown_agreement (options : Options) (television : Television) (host : Host)
    (replies : Replies) (patience : Option Nat) (operations : List Operation) :
    let initial := State.initial options television host replies patience
    let state := initial.run operations
    let seen := state.controller.published
    (∀ shown, shown = seen ∨ shown ∈ shownIn state.trace → Consistent shown) ∧
    (seen.lifecycle = .poweringOff ∧ seen.state = .on ↔ Unnoticed initial operations ∧
      state.controller.isPoweringOff state.controller.publishedAt = true) ∧
    (state.prepared .turnOff).controller.published.lifecycle = .poweringOff ∧
    (state.prepared .turnOff).controller.published.state = state.controller.power := by
  intro initial state seen
  have housed : initial.Housed := Housed.initial options television host replies patience
  have candid : state.Candid := (Candid.initial options television host replies patience).run
    housed operations
  have informed : state.Informed := (Informed.initial options television host replies patience).run
    housed operations
  have calm : ¬ initial.Torn := initial_calm options television host replies patience
  obtain ⟨power, lifecycle⟩ := informed.shown_power
  have prepared := (informed.prepared .turnOff).shown_power
  refine ⟨fun shown either => ?_, ?_, turnOff_prepared.2, prepared.1.trans (prepared_power _)⟩
  · rcases either with rfl | member
    · have same : seen = { state.current with
          available := seen.available, sources := seen.sources } := informed.shown
      have consistent := consistent_mediaState state.controller state.gate
        state.controller.publishedAt
      rw [same]
      exact consistent
    · exact candid.consistent member
  · rw [lifecycle, power, lifecycle_eq_poweringOff, ← torn_iff housed calm operations, Torn.iff_open,
      and_comm]

/-- The command to turn off comes right after a poll that has found the television on. -/
theorem on_while_powering_off :
    (plain.run [.poll, .command .turnOff]).controller.published.lifecycle = .poweringOff ∧
      (plain.run [.poll, .command .turnOff]).controller.published.state = .on := by
  have on : (plain.run [.poll]).controller.power = .on := by decide +kernel
  have unnoticed : Unnoticed plain [.poll, .command .turnOff] := ⟨[.poll], [], rfl, on, by simp⟩
  exact (shown_agreement _ _ _ _ _ [.poll, .command .turnOff]).2.1.mpr
    ⟨unnoticed, by decide +kernel⟩

theorem powering_off_shown_on :
    ∃ shown ∈ shownIn (plain.run [.poll, .command .turnOff]).trace,
      shown.lifecycle = .poweringOff ∧ shown.state ≠ .off := by
  decide +kernel

end State

end Televisor.Run
