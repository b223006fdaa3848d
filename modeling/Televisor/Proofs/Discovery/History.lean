import Televisor.Proofs.Discovery.Meanwhile

namespace Televisor.Run

open Controller Discovery

/-! The gate over its whole life, at every moment of a wait and between waits. -/

/-- What holds of the gate and of what has been seen of it. -/
structure State.Gated (state : State) : Prop where
  current : state.Current
  asked : requestsIn state.trace ≤ 1
  /-- Once the list has been asked for it is waited for, or waiting is over. -/
  pursued : requestsIn state.trace = 0 ∨ state.Pursued
  timely : state.Timely

/-- From one state to the next the gate stays as it should be, and once it is resolved it stays
resolved without another request. -/
structure Guarded (before after : State) : Prop where
  gated : before.Gated → after.Gated
  settled : before.gate.isResolved = true →
    after.gate.isResolved = true ∧ requestsIn after.trace = requestsIn before.trace

namespace Guarded

variable {before middle after : State}

theorem refl (state : State) : Guarded state state :=
  ⟨id, fun resolved => ⟨resolved, rfl⟩⟩

theorem trans (first : Guarded before middle) (second : Guarded middle after) :
    Guarded before after where
  gated := second.gated ∘ first.gated
  settled := fun resolved => by
    obtain ⟨still, same⟩ := first.settled resolved
    obtain ⟨stays, sameAgain⟩ := second.settled still
    exact ⟨stays, sameAgain.trans same⟩

end Guarded

theorem Meanwhile.guarded {before after : State} (meanwhile : Meanwhile before after) :
    Guarded before after where
  gated := fun gated => {
    current := meanwhile.current gated.current
    asked := meanwhile.requests ▸ gated.asked
    pursued := gated.pursued.imp (meanwhile.requests.trans ·) meanwhile.pursued
    timely := meanwhile.timely gated.timely }
  settled := fun resolved => ⟨meanwhile.resolved resolved, meanwhile.requests⟩

namespace State

variable {state : State}

theorem Gated.initial (options : Options) (television : Television) (host : Host)
    (replies : Network.Replies) (patience : Option Nat) :
    (State.initial options television host replies patience).Gated where
  current := rfl
  asked := Nat.zero_le _
  pursued := .inl rfl
  timely := timely_of_idle rfl

/-- Nobody has asked for the list while it is neither there nor waited for. -/
theorem Gated.unasked (gated : state.Gated) (idle : state.discovery = none)
    (unresolved : state.gate.isResolved = false) : requestsIn state.trace = 0 := by
  rcases gated.pursued with none | waits | resolved
  · exact none
  · simp [idle] at waits
  · simp [unresolved] at resolved

theorem promiseApps_meanwhile (state : State) : Meanwhile state state.promiseApps := by
  unfold promiseApps
  split
  · exact .refl state
  · split
    · exact state.deliver_meanwhile _
    · exact .aside rfl rfl rfl rfl rfl

theorem beginDiscovery_resolved (resolved : state.gate.isResolved = true) :
    state.beginDiscovery = state :=
  if_pos resolved

theorem discover_resolved (resolved : state.gate.isResolved = true)
    (idle : state.discovery = none) : state.discover = state := by
  rw [discover, beginDiscovery_resolved resolved, awaitDiscovery, idle]

theorem beginDiscovery_unresolved (unresolved : state.gate.isResolved = false) :
    ∃ due, (state.call .requestAppList).promiseApps.now ≤ due ∧ state.beginDiscovery =
      { (state.call .requestAppList).promiseApps with discovery := some (.requesting due) } := by
  rw [beginDiscovery, unresolved]
  exact ⟨_, Nat.le_add_right _ _, rfl⟩

/-- Whoever asks for the list is the first to do so, and waits for it from then on. -/
theorem beginDiscovery_guarded (idle : state.discovery = none) :
    Guarded state state.beginDiscovery := by
  cases resolved : state.gate.isResolved with
  | true =>
      rw [beginDiscovery_resolved resolved]
      exact .refl state
  | false =>
      refine ⟨fun gated => ?_, fun already => by simp [resolved] at already⟩
      have unasked := gated.unasked idle resolved
      have promised := (state.call .requestAppList).promiseApps_meanwhile
      have once : requestsIn (state.call .requestAppList).trace = 1 := by
        have one : requestsIn (state.call .requestAppList).trace = requestsIn state.trace + 1 := by
          simp [call, note, requestsIn, callsIn, Record.call?]
        rw [one, unasked]
      obtain ⟨due, later, begun⟩ := beginDiscovery_unresolved resolved
      rw [begun]
      have asked := promised.requests.trans once
      refine ⟨promised.current gated.current, Nat.le_of_eq asked, .inr (.inl rfl), ?_⟩
      refine ⟨due + (state.call .requestAppList).promiseApps.appListTimeout, fun phase waits => ?_⟩
      cases waits
      exact ⟨later, Nat.le_refl _⟩

theorem tick_guarded (idle : state.discovery = none) : Guarded state state.tick := by
  have published (gathered : State) (gathering : Guarded state gathered) :
      Guarded state gathered.publish :=
    gathering.trans (publish_meanwhile _).guarded
  rw [tick_eq_publish]
  refine published _ ?_
  cases held : state.guards.hold with
  | true =>
      rw [gather_held _ held]
      exact .refl state
  | false =>
      cases isOpen : state.controller.isPoweringOff state.now with
      | true =>
          rw [gather_poweringOff _ held isOpen]
          have off : Meanwhile state (state.setPower .off) := .aside rfl rfl rfl rfl rfl
          exact off.guarded
      | false =>
          rw [gather_asking _ held isOpen]
          have answered := state.answered_meanwhile
          split
          · have began := answered.guarded.trans (beginDiscovery_guarded (answered.idle idle))
            exact (began.trans (startTelemetry_meanwhile _).guarded).trans
              ((awaitDiscovery_meanwhile _).trans (refresh_meanwhile _)).guarded
          · exact answered.guarded

theorem move_operation {operation : Operation} (other : operation ≠ .poll) :
    state.move (.operation operation) = state.apply operation := by
  cases operation with
  | poll => exact absurd rfl other
  | _ => rfl

theorem move_guarded (state : State) (move : Move) : Guarded state (state.move move) := by
  have unlessWaiting (then_ : State) (goes : state.discovery = none → Guarded state then_) :
      Guarded state (if state.discovery.isSome then state else then_) := by
    cases idle : state.discovery with
    | some phase => exact .refl state
    | none => exact goes idle
  cases move with
  | ask => exact unlessWaiting _ beginDiscovery_guarded
  | onward => exact state.onward_meanwhile.guarded
  | operation operation =>
      by_cases isPoll : operation = .poll
      · subst isPoll
        exact unlessWaiting _ tick_guarded
      · rw [move_operation isPoll]
        exact (state.apply_meanwhile operation isPoll).guarded

theorem moves_guarded (state : State) (moves : List Move) : Guarded state (state.moves moves) := by
  induction moves generalizing state with
  | nil => exact .refl state
  | cons move rest ih =>
      rw [moves_cons]
      exact (state.move_guarded move).trans (ih _)

/-- Waiting for the list always comes to an end, and with it the gate is resolved. -/
theorem Gated.discover (gated : state.Gated) (idle : state.discovery = none) :
    state.discover.discovery = none ∧ state.discover.gate.isResolved = true := by
  have began := (beginDiscovery_guarded idle).gated gated
  have done := state.beginDiscovery.awaitDiscovery_done began.timely
  have sought : state.beginDiscovery.Pursued := by
    cases resolved : state.gate.isResolved with
    | true =>
        rw [beginDiscovery_resolved resolved]
        exact .inr resolved
    | false =>
        left
        rw [beginDiscovery, resolved]
        rfl
  have either := state.beginDiscovery.awaitDiscovery_meanwhile.pursued sought
  refine ⟨done, either.resolve_left fun waits => ?_⟩
  rw [done] at waits
  contradiction

/-- At every moment the gate has the list that was delivered last, and none if none was delivered: no
deadline takes a list away, and every list takes the place of what there was.  The television is
asked for its list at most once, and not any more once the gate is resolved, which it then remains;
whoever asks then has the answer at once, and whoever asks before waits until the gate is
resolved. -/
theorem gate_history (options : Options) (television : Television) (host : Host)
    (replies : Network.Replies) (patience : Option Nat) (moves : List Move) :
    let state := (State.initial options television host replies patience).moves moves
    state.gate.apps? = deliveredIn state.trace ∧
    (∀ apps, (state.move (.operation (.happen (.apps apps)))).gate.apps? = some apps) ∧
    (callsIn state.trace).count .requestAppList ≤ 1 ∧
    (state.gate.isResolved = true → ∀ later,
      (state.moves later).gate.isResolved = true ∧
      (callsIn (state.moves later).trace).count .requestAppList =
        (callsIn state.trace).count .requestAppList) ∧
    (state.discovery = none →
      (state.gate.isResolved = true → state.discover = state) ∧
      state.discover.discovery = none ∧ state.discover.gate.isResolved = true) := by
  intro state
  have gated : state.Gated := (moves_guarded _ moves).gated (.initial _ _ _ _ _)
  exact ⟨gated.current, fun _ => rfl, gated.asked,
    fun resolved later => (state.moves_guarded later).settled resolved,
    fun idle => ⟨fun resolved => discover_resolved resolved idle, gated.discover idle⟩⟩

end State

end Televisor.Run
