import Televisor.Proofs.Telemetry.Course
import Televisor.Run.Tick

namespace Televisor.Run

open Controller Discovery Media Telemetry

/-! What a poll does before it publishes. -/

namespace State

/-- The state when a poll comes to publish. -/
def gather (state : State) : State :=
  let guards := state.guards
  let reconciled := state.reconcile guards
  if guards.hold then reconciled
  else if reconciled.controller.power = .on then reconciled.whileOn
  else reconciled

/-- The state when the television has answered whether it is on, and its answer counts. -/
def answered (state : State) : State :=
  (state.queryPower.1.setPower (powerOf state.television.on)).clearWindow

variable (state : State)

theorem tick_eq_publish : state.tick = state.gather.publish := by
  unfold tick gather
  simp only
  split
  · rfl
  · split <;> rfl

theorem gather_held (held : state.guards.hold = true) : state.gather = state := by
  simp [gather, reconcile, held]

theorem gather_poweringOff (clear : state.guards.hold = false)
    (isOpen : state.controller.isPoweringOff state.now = true) :
    state.gather = state.setPower .off := by
  simp [gather, reconcile, clear, isOpen, setPower]

theorem answered_power : state.answered.controller.power = powerOf state.television.on := rfl

theorem gather_asking (clear : state.guards.hold = false)
    (closed : state.controller.isPoweringOff state.now = false) :
    state.gather =
      if powerOf state.television.on = .on then state.answered.whileOn else state.answered := by
  have reconciled : state.reconcile state.guards = state.answered := by
    rw [reconcile, clear, closed]
    rfl
  rw [gather, clear, reconciled, answered_power]
  rfl

theorem queryPower_passage : ∃ asking, Passage (state.call .isOn) asking state.queryPower.1 := by
  obtain ⟨waiting, waited⟩ := (state.call .isOn).wait_passage state.television.onDelay
  unfold queryPower
  simp only
  split
  · exact ⟨_, waited.trans (refuse_passage _)⟩
  · exact ⟨_, waited⟩

theorem promiseApps_passage : ∃ seen, Passage state seen state.promiseApps := by
  unfold promiseApps
  split
  · exact ⟨[], .refl _⟩
  · split
    · exact ⟨_, deliver_passage _ _⟩
    · exact ⟨[], .unseen rfl (Nat.le_refl _) rfl rfl rfl rfl id rfl, by simp⟩

theorem beginDiscovery_drift : ∃ seen, Drift state seen state.beginDiscovery ∧
    Calls Call.Secondary seen := by
  obtain ⟨seen, promised⟩ := (state.call .requestAppList).promiseApps_passage
  have asked := (state.call_drift .requestAppList).trans promised.toDrift
  unfold beginDiscovery
  split
  · exact ⟨[], .refl state, .nil⟩
  · refine ⟨_, asked.followed (.unseen rfl (Nat.le_refl _) rfl rfl rfl rfl id rfl), ?_⟩
    exact .append (promised.calls.imp fun _ => Call.Requests.secondary) (.one trivial)

/-- Where a session is begun by a poll that finds the television on. -/
def dueStarts : List String :=
  if state.held.isNone then state.controller.options.location.toList else []

variable {state} {lodger : Option Nat}

theorem mem_dueStarts {location : String} : location ∈ state.dueStarts ↔
    state.controller.options.location = some location ∧ state.held = none := by
  cases isHeld : state.held <;> simp [dueStarts, isHeld]

theorem dueStarts_length : state.dueStarts.length ≤ 1 := by
  unfold dueStarts
  split
  · cases state.controller.options.location <;> simp
  · simp

theorem startTelemetry_course (lodged : Lodged state lodger) (settled : state.Settled lodger) :
    ∃ guest seen, Course state state.dueStarts seen state.startTelemetry guest ∧
      state.startTelemetry.Settled guest := by
  unfold startTelemetry dueStarts
  cases isHeld : state.held with
  | some session => exact ⟨lodger, _, .refl lodged, settled⟩
  | none =>
      have vacant : lodger = none := by
        rw [← settled.held, isHeld, Option.map_none]
      subst vacant
      cases state.controller.options.location with
      | none => exact ⟨none, _, .refl lodged, settled⟩
      | some location => exact startSession_course location lodged settled

theorem dueStarts_drift {after : State} {seen : List Record} (drift : Drift state seen after) :
    after.dueStarts = state.dueStarts := by
  have held := congrArg Option.isNone drift.held
  rw [Option.isNone_map, Option.isNone_map] at held
  rw [dueStarts, dueStarts, held, drift.options]

/-- What a poll does once the television is on, up to where it takes over the values of a session. -/
theorem whileOn_course (lodged : Lodged state lodger) (settled : state.Settled lodger) :
    ∃ guest seen,
      Course state state.dueStarts seen state.beginDiscovery.startTelemetry.awaitDiscovery guest ∧
      state.beginDiscovery.startTelemetry.awaitDiscovery.Settled guest := by
  obtain ⟨asking, began, calls⟩ := state.beginDiscovery_drift
  obtain ⟨guest, starting, course, settledThen⟩ :=
    startTelemetry_course (lodged.drift began) (settled.drift began)
  obtain ⟨waiting, waited⟩ := state.beginDiscovery.startTelemetry.awaitDiscovery_passage
  have way := (((Course.refl lodged).drift began calls).trans course).passage waited
  rw [List.append_nil, dueStarts_drift began] at way
  exact ⟨guest, _, way, settledThen.drift waited.toDrift⟩

theorem refresh_eq (state : State) : ∃ volume muted, state.refresh =
    { state with controller := { state.controller with volume := volume, muted := muted } } := by
  unfold refresh Controller.refresh
  split
  · exact ⟨_, _, rfl⟩
  · exact ⟨_, _, rfl⟩

theorem refresh_tidings (state : State) : Tidings state [] state.refresh := by
  obtain ⟨volume, muted, same⟩ := state.refresh_eq
  rw [same]
  exact .unseen rfl (Nat.le_refl _) rfl rfl rfl rfl

/-- The controller has the values of the session that is held. -/
def Attuned (state : State) : Prop :=
  ∀ snapshot, state.heard = some snapshot →
    state.controller.volume = snapshot.volume ∧ state.controller.muted = snapshot.muted

/-- A change of those values that the controller has not taken over yet is one it has been told
of. -/
def Heeds (state : State) : Prop :=
  Event.telemetryChanged ∈ state.queue ∨ state.Attuned

theorem heeds_drift {after : State} {seen : List Record} (heeds : state.Heeds)
    (drift : Drift state seen after) : after.Heeds := by
  unfold Heeds
  rw [drift.queue, List.mem_append]
  rcases heeds with waits | attuned
  · exact .inl (.inl waits)
  · rcases drift.heard with same | raised
    · right
      rw [Attuned, same, drift.controller]
      exact attuned
    · exact .inl (.inr raised)

theorem refresh_attuned (alive : ∀ session, state.held = some session → session.alive = true) :
    state.refresh.Attuned := by
  intro snapshot heard
  have heardBefore : state.held.map (·.snapshot) = some snapshot := heard
  obtain ⟨session, isHeld, same⟩ := Option.map_eq_some_iff.mp heardBefore
  have inUse : state.held.filter (·.alive) = some session := by
    rw [isHeld, Option.filter_some, if_pos (alive session isHeld)]
  simp only [refresh, Controller.refresh, inUse, same, and_self]

/-- A poll that asks the television whether it is on, up to where it publishes; `rest` is what was
seen after the question, and sessions were begun with the given renderers. -/
structure Asked (state : State) (begun : List String) (rest : List Record) (gathered : State)
    (guest : Option Nat) : Prop
    extends Tidings state (rest ++ [⟨state.now, .called .isOn⟩]) gathered where
  calls : Calls Call.Secondary rest
  starts : startsIn rest = begun
  inquires : Inquires begun rest
  lodged : Lodged gathered guest
  settled : gathered.Settled guest
  power : gathered.controller.power = powerOf state.television.on
  window : gathered.controller.window = .closed
  heeds : state.Heeds → gathered.Heeds

theorem answered_asked (closed : state.controller.isPoweringOff state.now = false)
    (lodged : Lodged state lodger) (settled : state.Settled lodger) :
    ∃ rest, state.Asked [] rest state.answered lodger ∧
      state.answered.dueStarts = state.dueStarts := by
  obtain ⟨rest, asked⟩ := state.queryPower_passage
  have drift := (state.call_drift .isOn).trans asked.toDrift
  have adopted : Tidings state.queryPower.1 [] state.answered :=
    .unseen rfl (Nat.le_refl _) rfl rfl rfl rfl
  have settledThen := settled.drift drift
  have due : state.answered.dueStarts = state.queryPower.1.dueStarts := rfl
  have heeds : state.Heeds → state.queryPower.1.Heeds := fun heeds => heeds_drift heeds drift
  refine ⟨rest, ?_, due.trans (dueStarts_drift drift)⟩
  exact {
    toTidings := drift.toTidings.trans adopted
    calls := asked.calls.imp fun _ => Call.Requests.secondary
    starts := asked.starts
    inquires := nofun
    lodged := (lodged.drift drift).unchanged rfl rfl
    settled := ⟨settledThen.held, settledThen.alive, settledThen.draft⟩
    power := rfl
    window := by
      -- The window was closed when the question was asked, so it is when the answer comes.
      have same : state.queryPower.1.controller.window = state.controller.window := drift.window
      have later : state.controller.window.isOpen state.queryPower.1.now = false :=
        Power.Window.closed_later closed drift.clock
      exact Power.Window.clearIfExpired_closed (same ▸ later)
    heeds := heeds }

/-- What a session holds is taken over last. -/
theorem Asked.refresh {rest seen : List Record} {answered found : State} {begun : List String}
    {guest : Option Nat} (asked : state.Asked [] rest answered lodger)
    (course : Course answered begun seen found guest) (settled : found.Settled guest) :
    state.Asked begun (seen ++ rest) found.refresh guest := by
  have told := (asked.toTidings.trans course.toTidings).trans found.refresh_tidings
  obtain ⟨volume, muted, same⟩ := found.refresh_eq
  rw [List.nil_append, ← List.append_assoc] at told
  refine ⟨told, course.calls.append asked.calls, ?_, ?_, ?_, ?_, ?_, ?_, ?_⟩
  · rw [startsIn_append, course.starts, asked.starts, List.append_nil]
  · simpa using asked.inquires.append course.inquires
  · rw [same]
    exact course.lodged.unchanged rfl rfl
  · rw [same]
    exact ⟨settled.held, settled.alive, settled.draft⟩
  · rw [same]
    exact course.power.trans asked.power
  · rw [same]
    exact course.window.trans asked.window
  · exact fun _ => .inr (refresh_attuned settled.alive)

theorem gather_asked (clear : state.guards.hold = false)
    (closed : state.controller.isPoweringOff state.now = false) (lodged : Lodged state lodger)
    (settled : state.Settled lodger) :
    ∃ guest rest,
      state.Asked (if powerOf state.television.on = .on then state.dueStarts else []) rest
        state.gather guest := by
  obtain ⟨rest, asked, due⟩ := answered_asked closed lodged settled
  rw [state.gather_asking clear closed]
  by_cases on : powerOf state.television.on = .on
  · obtain ⟨guest, seen, course, settledNow⟩ := whileOn_course asked.lodged asked.settled
    rw [if_pos on, if_pos on, ← due]
    exact ⟨guest, _, asked.refresh course settledNow⟩
  · rw [if_neg on, if_neg on]
    exact ⟨lodger, rest, asked⟩

/-- What a poll comes to before it publishes. -/
inductive Gathering (state : State) : State → Prop where
  | held (held : state.guards.hold = true) : Gathering state state
  | poweringOff (clear : state.guards.hold = false)
      (isOpen : state.controller.isPoweringOff state.now = true) :
      Gathering state (state.setPower .off)
  | asked {gathered rest guest} (clear : state.guards.hold = false)
      (closed : state.controller.isPoweringOff state.now = false)
      (asked : state.Asked (if powerOf state.television.on = .on then state.dueStarts else []) rest
        gathered guest) : Gathering state gathered

theorem gathering (lodged : Lodged state lodger) (settled : state.Settled lodger) :
    state.Gathering state.gather := by
  cases held : state.guards.hold with
  | true =>
      rw [state.gather_held held]
      exact .held held
  | false =>
      cases isOpen : state.controller.isPoweringOff state.now with
      | true =>
          rw [state.gather_poweringOff held isOpen]
          exact .poweringOff held isOpen
      | false =>
          obtain ⟨guest, rest, asked⟩ := gather_asked held isOpen lodged settled
          exact .asked held isOpen asked

namespace Gathering

variable {gathered : State} (gathering : state.Gathering gathered)
include gathering

theorem tidings : ∃ seen, Tidings state seen gathered := by
  cases gathering with
  | held _ => exact ⟨[], .refl state⟩
  | poweringOff _ _ => exact ⟨[], .unseen rfl (Nat.le_refl _) rfl rfl rfl rfl⟩
  | asked _ _ asked => exact ⟨_, asked.toTidings⟩

theorem heeds (heeds : state.Heeds) : gathered.Heeds := by
  cases gathering with
  | held _ => exact heeds
  | poweringOff _ _ => exact heeds
  | asked _ _ asked => exact asked.heeds heeds

end Gathering

end State

end Televisor.Run
