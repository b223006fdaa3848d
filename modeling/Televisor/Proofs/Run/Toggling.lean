import Mathlib.Data.List.Induction
import Televisor.Proofs.Run.Dispatch
import Televisor.Proofs.Telemetry.Housing

namespace Televisor.Controller

open Remote

/-! What a toggle between playing and pausing goes by. -/

/-- What the toggle sends after the given key, or at first. -/
def opposite : Option String → String
  | none => Key.pause
  | some key => if key = Key.play then Key.pause else Key.play

/-- The key that a command about playing asks for if the given one was the last; the other commands
ask for none. -/
def Command.playback? (last : Option String) : Command → Option String
  | .mediaPlay => some Key.play
  | .mediaPause => some Key.pause
  | .mediaPlayPause => some (opposite last)
  | _ => none

/-- What the controller believes goes with the key that was asked for last. -/
def Assumes (controller : Controller) (last : Option String) : Prop :=
  opposite last = if controller.playing then Key.pause else Key.play

variable {controller : Controller} {last : Option String} {command : Command}

theorem publish_playing (controller : Controller) (gate : Discovery.Gate) (now : Nat) :
    (controller.publish gate now).playing = controller.playing := by
  obtain ⟨published, publishedAt, version, same⟩ := publish_eq controller gate now
  rw [same]

theorem Assumes.like {other : Controller} (assumes : Assumes controller last)
    (playing : other.playing = controller.playing) : Assumes other last := by
  rw [Assumes, playing]
  exact assumes

theorem Assumes.prepare (assumes : Assumes controller last) (gate : Discovery.Gate) (now : Nat)
    (command : Command) :
    Assumes (prepare controller gate now command) ((command.playback? last).or last) := by
  cases command with
  | mediaPlay => exact (rfl : opposite (some Key.play) = Key.pause)
  | mediaPause => exact (rfl : opposite (some Key.pause) = Key.play)
  | mediaPlayPause =>
      have toggled : opposite (some (opposite last)) =
          if !controller.playing then Key.pause else Key.play := by
        rw [show opposite last = _ from assumes]
        cases controller.playing <;> decide
      exact toggled
  | turnOff => exact assumes.like (publish_playing _ gate now)
  | _ => exact assumes

/-- A command about playing sends what it asks for, unless the television powers off. -/
theorem decide_playback {at_ : Circumstances} {key : String} (assumes : Assumes controller last)
    (asks : command.playback? last = some key) :
    decide controller at_ command =
      if controller.isPoweringOff at_.now then .hold else .act (.sendKeys [key]) := by
  have single (key : String) (other : key ≠ Key.powerOff) : decideKeys controller at_.now [key] =
      if controller.isPoweringOff at_.now then .hold else .act (.sendKeys [key]) := by
    simp [decideKeys, other]
  cases command with
  | mediaPlay =>
      cases asks
      exact single _ (by decide)
  | mediaPause =>
      cases asks
      exact single _ (by decide)
  | mediaPlayPause =>
      cases asks
      rw [show opposite last = _ from assumes]
      refine single _ ?_
      split <;> decide
  | _ => cases asks

end Televisor.Controller

namespace Televisor.Run

open Controller Remote

/-! The toggle does the opposite of what was asked for last, whether or not that was handed over. -/

def Call.keys? : Call → Option (List String)
  | .sendKeys keys => some keys
  | _ => none

/-- A command about playing is given. -/
def Operation.isPlayback : Operation → Bool
  | .command given => (given.playback? none).isSome
  | _ => false

/-- The key that was asked for last by a command about playing, if the given one was before. -/
def askedLast (last : Option String) : List Operation → Option String
  | [] => last
  | .command command :: rest => askedLast ((command.playback? last).or last) rest
  | _ :: rest => askedLast last rest

section Asked

variable (last : Option String)

theorem askedLast_append (earlier later : List Operation) :
    askedLast last (earlier ++ later) = askedLast (askedLast last earlier) later := by
  induction earlier generalizing last with
  | nil => rfl
  | cons operation rest ih => cases operation <;> exact ih _

theorem playback?_isSome {command : Command}
    (playback : (Operation.command command).isPlayback = true) :
    ∃ key, command.playback? last = some key := by
  cases command with
  | mediaPlay => exact ⟨_, rfl⟩
  | mediaPause => exact ⟨_, rfl⟩
  | mediaPlayPause => exact ⟨_, rfl⟩
  | _ => cases playback

theorem askedLast_other {operation : Operation} (other : operation.isPlayback = false) :
    askedLast last [operation] = last := by
  cases operation with
  | command command =>
      have silent : command.playback? last = none := by
        cases command <;> first | rfl | cases other
      rw [askedLast, silent]
      rfl
  | _ => rfl

end Asked

namespace State

/-- The lists of keys that a command hands to the television. -/
def handed (state : State) (command : Command) : List (List String) :=
  (dispatchesIn (state.since (state.execute command).1)).filterMap Call.keys?

/-- The key that a command about playing hands over. -/
def playbackHanded (state : State) : Operation → Option String
  | .command command =>
    if (Operation.command command).isPlayback then (state.handed command).flatten.head? else none
  | _ => none

/-- The key that was handed over last by a command about playing, if the given one was before. -/
def handedLast (state : State) (last : Option String) : List Operation → Option String
  | [] => last
  | operation :: rest =>
    (state.apply operation).handedLast ((state.playbackHanded operation).or last) rest

variable {state : State}

theorem handed_eq (command : Command) : state.handed command =
    (callOf (decide state.controller state.circumstances command)).toList.filterMap Call.keys? := by
  obtain ⟨seen, trace, dispatched, _⟩ := state.execute_seen command
  rw [handed, since_eq trace, dispatched]

theorem handleEvent_playing (event : Event) :
    (state.handleEvent event).controller.playing = state.controller.playing := by
  cases event with
  | telemetryChanged =>
      obtain ⟨volume, muted, same⟩ := state.refresh_eq
      rw [handleEvent, State.publish, setController_controller, publish_playing, same]
  | _ => rw [handleEvent, State.publish, setController_controller, publish_playing]

/-- Only commands change what the controller believes. -/
theorem Step.playing {operation : Operation} {after : State} (step : state.Step operation after)
    (other : ∀ command, operation ≠ .command command) :
    after.controller.playing = state.controller.playing := by
  cases step with
  | polled gathering =>
      obtain ⟨seen, tidings⟩ := gathering.tidings
      rw [publish_controller, publish_playing]
      exact congrArg (·.playing) tidings.standing
  | carriedOut _ => exact absurd rfl (other _)
  | handled _ => exact handleEvent_playing _
  | ended _ advance _ _ => exact congrArg (·.playing) advance.standing
  | drifted drift => exact congrArg (·.playing) drift.standing
  | surrounded _ _ _ _ _ => rfl

theorem apply_assumes (housed : state.Housed) {last : Option String}
    (assumes : Assumes state.controller last) (operation : Operation) :
    Assumes (state.apply operation).controller (askedLast last [operation]) := by
  have step := apply_step housed operation
  cases operation with
  | command command =>
      obtain ⟨seen, drift, _⟩ := state.execute_drift command
      have prepared : Assumes (state.prepared command).controller
          ((command.playback? last).or last) := by
        rw [State.prepared, setController_controller]
        exact assumes.prepare _ _ command
      exact prepared.like (congrArg (·.playing) drift.standing)
  | _ => exact assumes.like (step.playing (by simp))

/-- What the controller believes goes with the key that was asked for last, all along. -/
theorem run_assumes (housed : state.Housed) {last : Option String}
    (assumes : Assumes state.controller last) (operations : List Operation) :
    Assumes (state.run operations).controller (askedLast last operations) := by
  induction operations generalizing state last with
  | nil => exact assumes
  | cons operation rest ih =>
      rw [run_cons]
      have applied := ih (housed.apply operation) (apply_assumes housed assumes operation)
      cases operation <;> exact applied

theorem handed_playback {last : Option String} {command : Command} {key : String}
    (assumes : Assumes state.controller last) (asks : command.playback? last = some key) :
    state.handed command = if state.controller.isPoweringOff state.now then [] else [[key]] := by
  have isNow : state.circumstances.now = state.now := rfl
  rw [handed_eq, decide_playback assumes asks, isNow]
  split <;> rfl

theorem handedLast_append (last : Option String) (earlier later : List Operation) :
    state.handedLast last (earlier ++ later) =
      (state.run earlier).handedLast (state.handedLast last earlier) later := by
  induction earlier generalizing state last with
  | nil => rfl
  | cons operation rest ih => exact ih _

theorem handedLast_other (last : Option String) {operation : Operation}
    (other : operation.isPlayback = false) : state.handedLast last [operation] = last := by
  cases operation with
  | command command =>
      rw [handedLast, playbackHanded, other]
      rfl
  | _ => rfl

/-- If the last command about playing was not held back, its key is the last one either way. -/
theorem handedLast_eq (housed : state.Housed) (assumes : Assumes state.controller none)
    (operations : List Operation)
    (through : ∀ earlier command later, operations = earlier ++ .command command :: later →
      (Operation.command command).isPlayback = true →
      (∀ operation ∈ later, operation.isPlayback = false) →
      (state.run earlier).controller.isPoweringOff (state.run earlier).now = false) :
    state.handedLast none operations = askedLast none operations := by
  induction operations using List.reverseRecOn with
  | nil => rfl
  | append_singleton earlier operation ih =>
      rw [handedLast_append, askedLast_append]
      cases playback : operation.isPlayback with
      | false =>
          rw [handedLast_other _ playback, askedLast_other _ playback]
          refine ih fun before command later split isPlayback quiet => ?_
          refine through before command (later ++ [operation]) (by simp [split]) isPlayback ?_
          intro other member
          rcases List.mem_append.mp member with old | new
          · exact quiet other old
          · exact List.mem_singleton.mp new ▸ playback
      | true =>
          cases operation with
          | command command =>
              have closed := through earlier command [] rfl playback (by simp)
              obtain ⟨key, asks⟩ := playback?_isSome (askedLast none earlier) playback
              have handed := handed_playback (run_assumes housed assumes earlier) asks
              rw [closed] at handed
              have both (before : Option String) : (state.run earlier).handedLast before
                  [.command command] = some key := by
                simp [handedLast, playbackHanded, playback, handed]
              rw [both, askedLast, asks]
              rfl
          | _ => cases playback

/-- The toggle does the opposite of what was asked for last.  That is what was handed over last if
the last command about playing was not held back while the television powered off. -/
theorem toggle_opposes_asked (options : Options) (television : Television) (host : Host)
    (replies : Network.Replies) (patience : Option Nat) (operations : List Operation) :
    let start := State.initial options television host replies patience
    let state := start.run operations
    (state.controller.isPoweringOff state.now = true → state.handed .mediaPlayPause = []) ∧
    (state.controller.isPoweringOff state.now = false →
      state.handed .mediaPlayPause = [[opposite (askedLast none operations)]]) ∧
    ((∀ earlier command later, operations = earlier ++ .command command :: later →
        (Operation.command command).isPlayback = true →
        (∀ operation ∈ later, operation.isPlayback = false) →
        (start.run earlier).controller.isPoweringOff (start.run earlier).now = false) →
      start.handedLast none operations = askedLast none operations) := by
  intro start state
  have housed : start.Housed := .initial options television host replies patience
  have assumes : Assumes start.controller none := by
    rw [Assumes, show start.controller.playing = true from publish_playing _ _ _]
    rfl
  have handed : state.handed .mediaPlayPause = _ :=
    handed_playback (run_assumes housed assumes operations) rfl
  refine ⟨fun isOpen => ?_, fun closed => ?_, handedLast_eq housed assumes operations⟩
  · rw [handed, isOpen]
    rfl
  · rw [handed, closed]
    rfl

/-- After a pause that was held back the toggle plays, though nothing has been paused. -/
theorem toggle_after_held_pause :
    let operations : List Operation := [.command .turnOff, .command .mediaPause, .pass 15000]
    let state := plain.run operations
    state.controller.isPoweringOff state.now = false ∧ plain.handedLast none operations = none ∧
      opposite none = Key.pause ∧ state.handed .mediaPlayPause = [[Key.play]] := by
  decide +kernel

end State

end Televisor.Run
