import Televisor.Proofs.Discovery.History
import Televisor.Proofs.Telemetry.Beginning

namespace Televisor.Run

open Controller Network Rendering Telemetry

/-! What comes after an attempt to begin a session that came to nothing: no request is made until
another session is about to be begun. -/

namespace State

variable {state : State}

theorem beginDiscovery_trace : state.trace <:+ state.beginDiscovery.trace := by
  cases resolved : state.gate.isResolved with
  | true =>
      rewrite [beginDiscovery_resolved resolved]
      exact List.suffix_refl _
  | false =>
      obtain ⟨due, _, begun⟩ := beginDiscovery_unresolved resolved
      rw [begun]
      exact (List.suffix_cons _ _).trans (promiseApps_meanwhile (state.call .requestAppList)).trace

theorem whileOn_trace : state.trace <:+ state.whileOn.trace := by
  have rest := ((startTelemetry_meanwhile state.beginDiscovery).trans
    (awaitDiscovery_meanwhile _)).trans (refresh_meanwhile _)
  exact beginDiscovery_trace.trans rest.trace

theorem gather_trace : state.trace <:+ state.gather.trace := by
  cases held : state.guards.hold with
  | true =>
      rewrite [gather_held _ held]
      exact List.suffix_refl _
  | false =>
      cases isOpen : state.controller.isPoweringOff state.now with
      | true =>
          rewrite [gather_poweringOff _ held isOpen]
          exact List.suffix_refl _
      | false =>
          rw [gather_asking _ held isOpen]
          have answered := state.answered_meanwhile.trace
          split
          · exact answered.trans whileOn_trace
          · exact answered

/-- What has been seen stays seen. -/
theorem apply_trace (operation : Operation) : state.trace <:+ (state.apply operation).trace := by
  by_cases isPoll : operation = .poll
  · subst isPoll
    rw [apply, tick_eq_publish]
    exact gather_trace.trans (publish_meanwhile _).trace
  · exact (state.apply_meanwhile operation isPoll).trace

theorem run_trace (operations : List Operation) : state.trace <:+ (state.run operations).trace := by
  induction operations generalizing state with
  | nil => exact List.suffix_refl _
  | cons operation rest ih =>
      rw [run_cons]
      exact (apply_trace operation).trans ih

/-- No session is held or being set up. -/
structure Vacant (state : State) : Prop where
  held : state.held = none
  draft : state.draft = none

end State

/-- No request is made before a session is about to be begun. -/
def Heralded (seen : List Record) : Prop :=
  ∀ moment, moment <:+ seen → startsIn moment = [] → ∀ request, .http request ∉ callsIn moment

namespace Heralded

variable {later seen : List Record}

theorem silent (silent : ∀ request, .http request ∉ callsIn seen) : Heralded seen := by
  rintro moment ⟨rest, rfl⟩ _ request member
  exact silent request (by simp [member])

theorem append (second : startsIn seen = [] → Heralded later) (first : Heralded seen) :
    Heralded (later ++ seen) := by
  intro moment earlier unstarted request member
  rcases List.suffix_or_suffix_of_suffix earlier (List.suffix_append later seen) with
    inside | ⟨rest, rfl⟩
  · exact first moment inside unstarted request member
  · obtain ⟨front, same⟩ := earlier
    rw [← List.append_assoc] at same
    have within : rest <:+ later := ⟨front, List.append_cancel_right same⟩
    rw [startsIn_append, List.append_eq_nil_iff] at unstarted
    rw [callsIn_append, List.mem_append] at member
    rcases member with member | member
    · exact second unstarted.2 rest within unstarted.1 request member
    · exact first seen (List.suffix_refl _) unstarted.2 request member

/-- Once a session is about to be begun anything goes. -/
theorem starting {time : Nat} {location : String} (first : Heralded seen) :
    Heralded (later ++ ⟨time, .starting location⟩ :: seen) := by
  have begun : startsIn (⟨time, .starting location⟩ :: seen) = location :: startsIn seen := rfl
  have herald : Heralded ([⟨time, .starting location⟩] ++ seen) :=
    append (fun _ => silent (by simp [callsIn, Record.call?])) first
  refine append (fun unstarted => ?_) herald
  rw [begun] at unstarted
  contradiction

end Heralded

/-- Something that is done without a session and without a request. -/
structure Reticent (before after : State) : Prop where
  vacant : after.Vacant
  trace : ∃ seen, after.trace = seen ++ before.trace ∧ ∀ request, .http request ∉ callsIn seen

namespace Reticent

variable {before middle after : State}

theorem refl {state : State} (vacant : state.Vacant) : Reticent state state :=
  ⟨vacant, [], rfl, by simp [callsIn]⟩

theorem trans (first : Reticent before middle) (second : Reticent middle after) :
    Reticent before after := by
  obtain ⟨seen, trace, silent⟩ := first.trace
  obtain ⟨later, traceLater, silentLater⟩ := second.trace
  refine ⟨second.vacant, later ++ seen, ?_, fun request => ?_⟩
  · rw [traceLater, trace, List.append_assoc]
  · simp [silent request, silentLater request]

theorem lull (vacant : before.Vacant) (lull : Lull before after) : Reticent before after := by
  obtain ⟨seen, trace⟩ := lull.trace
  have draft := lull.draft
  rw [vacant.draft, Option.map_none, Option.map_eq_none_iff] at draft
  have calls := lull.calls
  rw [← trace, callsIn_append, List.append_left_eq_self] at calls
  exact ⟨⟨lull.held.trans vacant.held, draft⟩, seen, trace.symm, by simp [calls]⟩

theorem unseen (vacant : after.Vacant) (trace : after.trace = before.trace) :
    Reticent before after :=
  ⟨vacant, [], trace, by simp [callsIn]⟩

end Reticent

namespace State

variable {state : State}

theorem Vacant.call (vacant : state.Vacant) {call : Call} (other : ∀ request, call ≠ .http request) :
    Reticent state (state.call call) := by
  refine ⟨⟨vacant.held, vacant.draft⟩, [⟨state.now, .called call⟩], rfl, fun request member => ?_⟩
  exact other request (List.mem_singleton.mp member).symm

theorem Vacant.wait (vacant : state.Vacant) (duration : Nat) :
    Reticent state (state.wait duration) :=
  .lull vacant (wait_lull vacant.held duration)

theorem Vacant.setController (vacant : state.Vacant) (controller : Controller) :
    Reticent state (state.setController controller) := by
  obtain ⟨shown, trace, noCalls, _⟩ := state.setController_trace controller
  refine ⟨?_, shown, trace, by simp [noCalls]⟩
  rw [setController_eq]
  exact ⟨vacant.held, vacant.draft⟩

theorem Vacant.publish (vacant : state.Vacant) : Reticent state state.publish :=
  vacant.setController _

theorem Vacant.refresh (vacant : state.Vacant) : Reticent state state.refresh := by
  obtain ⟨volume, muted, same⟩ := state.refresh_eq
  rw [same]
  exact .unseen ⟨vacant.held, vacant.draft⟩ rfl

theorem actionCall_silent (action : Action) (request : Request) :
    actionCall action ≠ .http request := by
  cases action <;> nofun

theorem Vacant.act (vacant : state.Vacant) (action : Action) :
    Reticent state (state.act action).1 := by
  have called := vacant.call (actionCall_silent action)
  have demanded (duration : Nat) : Reticent state ((state.call (actionCall action)).wait duration) :=
    called.trans (called.vacant.wait duration)
  cases action with
  | setVolume level =>
      simp only [State.act, changeHeldVolume, vacant.held, Option.filter_none]
      exact .refl vacant
  | _ => exact demanded _

theorem Vacant.execute (vacant : state.Vacant) (command : Command) :
    Reticent state (state.execute command).1 := by
  have prepared : Reticent state (state.prepared command) := vacant.setController _
  unfold State.execute
  simp only
  split
  · exact prepared
  · exact prepared
  · exact prepared.trans (prepared.vacant.act _)

theorem Vacant.handleEvent (vacant : state.Vacant) (event : Event) :
    Reticent state (state.handleEvent event) := by
  cases event with
  | telemetryChanged => exact vacant.refresh.trans vacant.refresh.vacant.publish
  | _ => exact vacant.publish

theorem Vacant.shutdown (vacant : state.Vacant) : Reticent state state.shutdown := by
  cases shutting : state.controller.shuttingDown with
  | true =>
      rw [shutdown_again shutting]
      exact .refl vacant
  | false =>
      have ended : state.ending.stopSession = state.ending := by
        simp only [stopSession, ending, vacant.held, Option.filter_none]
      rw [shutdown_running shutting, ended]
      exact .unseen ⟨rfl, vacant.draft⟩ rfl

theorem Vacant.answered (vacant : state.Vacant) : Reticent state state.answered := by
  have called : Reticent state (state.call .isOn) := vacant.call nofun
  have asked := called.trans (called.vacant.wait state.television.onDelay)
  have queried : Reticent state state.queryPower.1 := by
    unfold queryPower
    simp only
    split
    · exact asked.trans (.lull asked.vacant (refuse_lull _))
    · exact asked
  exact queried.trans (.unseen ⟨queried.vacant.held, queried.vacant.draft⟩ rfl)

theorem Vacant.beginDiscovery (vacant : state.Vacant) : Reticent state state.beginDiscovery := by
  cases resolved : state.gate.isResolved with
  | true =>
      rw [beginDiscovery_resolved resolved]
      exact .refl vacant
  | false =>
      have called : Reticent state (state.call .requestAppList) := vacant.call nofun
      have promised : Reticent state (state.call .requestAppList).promiseApps := by
        unfold promiseApps
        split
        · exact called
        · split
          · exact called.trans (.lull called.vacant (deliver_lull _ _))
          · exact called.trans (.unseen ⟨called.vacant.held, called.vacant.draft⟩ rfl)
      obtain ⟨due, _, begun⟩ := beginDiscovery_unresolved resolved
      rw [begun]
      exact promised.trans (.unseen ⟨promised.vacant.held, promised.vacant.draft⟩ rfl)

/-- Of all operations only a poll begins a session. -/
theorem Vacant.apply (vacant : state.Vacant) {operation : Operation} (other : operation ≠ .poll) :
    Reticent state (state.apply operation) := by
  cases operation with
  | poll => exact absurd rfl other
  | command command => exact vacant.execute command
  | event =>
      simp only [State.apply, handleFirst]
      split
      · exact .refl vacant
      · rename_i event rest _
        have popped : Reticent state { state with queue := rest } :=
          .unseen ⟨vacant.held, vacant.draft⟩ rfl
        exact popped.trans (popped.vacant.handleEvent event)
  | shutdown => exact vacant.shutdown
  | pass duration => exact vacant.wait duration
  | happen what => exact .lull vacant (happen_lull _ vacant.held what)
  | expect arrival => exact .unseen ⟨vacant.held, vacant.draft⟩ rfl
  | surround television host replies delays => exact .unseen ⟨vacant.held, vacant.draft⟩ rfl

end State

/-- Something that makes no request before a session is about to be begun. -/
structure Discreet (before after : State) : Prop where
  trace : ∃ seen, after.trace = seen ++ before.trace ∧ Heralded seen ∧
    (startsIn seen = [] → after.Vacant)

theorem Reticent.discreet {before after : State} (reticent : Reticent before after) :
    Discreet before after := by
  obtain ⟨seen, trace, silent⟩ := reticent.trace
  exact ⟨seen, trace, .silent silent, fun _ => reticent.vacant⟩

theorem Discreet.trans {before middle after : State} (first : Discreet before middle)
    (second : middle.Vacant → Discreet middle after) (trace : middle.trace <:+ after.trace) :
    Discreet before after := by
  obtain ⟨seen, traceSeen, heralded, vacant⟩ := first.trace
  by_cases unstarted : startsIn seen = []
  · obtain ⟨later, traceLater, heraldedLater, vacantLater⟩ := (second (vacant unstarted)).trace
    refine ⟨later ++ seen, ?_, heralded.append fun _ => heraldedLater, fun none => ?_⟩
    · rw [traceLater, traceSeen, List.append_assoc]
    · rw [startsIn_append, List.append_eq_nil_iff] at none
      exact vacantLater none.1
  · obtain ⟨later, traceLater⟩ := trace
    refine ⟨later ++ seen, ?_, heralded.append fun none => absurd none unstarted, fun none => ?_⟩
    · rw [← traceLater, traceSeen, List.append_assoc]
    · rw [startsIn_append, List.append_eq_nil_iff] at none
      exact absurd none.2 unstarted

theorem Attempted.trace {state : State} {location : String} {after : State} {start : Start}
    (attempted : Attempted state location after start) : state.trace <:+ after.trace := by
  cases attempted with
  | unreachable _ _ attempt _ _ => exact attempt.trace
  | undescribed _ _ attempt _ _ => exact attempt.trace
  | unbound _ _ attempt _ _ => exact attempt.trace
  | established _ _ _ _ trace _ => exact trace
  | undone _ _ _ _ _ attempt => exact attempt.trace

namespace State

variable {state : State}

theorem Vacant.startTelemetry (vacant : state.Vacant) : Discreet state state.startTelemetry := by
  unfold State.startTelemetry
  split
  · rename_i location _ _
    obtain ⟨later, trace⟩ := (startSession_attempted vacant.held vacant.draft location).trace
    refine ⟨later ++ [⟨state.now, .starting location⟩], ?_, .starting (.silent (by simp [callsIn])),
      fun none => ?_⟩
    · rw [← trace, List.append_assoc]
      rfl
    · simp [startsIn, Record.starting?] at none
  · exact (Reticent.refl vacant).discreet

theorem Vacant.whileOn (vacant : state.Vacant) : Discreet state state.whileOn := by
  have began := vacant.beginDiscovery
  have started : Discreet state state.beginDiscovery.startTelemetry :=
    began.discreet.trans (fun vacant => vacant.startTelemetry) (startTelemetry_meanwhile _).trace
  refine started.trans (fun vacant => ?_)
    ((awaitDiscovery_meanwhile _).trans (refresh_meanwhile _)).trace
  have waited : Reticent _ state.beginDiscovery.startTelemetry.awaitDiscovery :=
    .lull vacant (awaitDiscovery_lull vacant.held)
  exact (waited.trans waited.vacant.refresh).discreet

theorem Vacant.gather (vacant : state.Vacant) : Discreet state state.gather := by
  cases held : state.guards.hold with
  | true =>
      rw [gather_held _ held]
      exact (Reticent.refl vacant).discreet
  | false =>
      cases isOpen : state.controller.isPoweringOff state.now with
      | true =>
          rw [gather_poweringOff _ held isOpen]
          have off : Reticent state (state.setPower .off) :=
            .unseen ⟨vacant.held, vacant.draft⟩ rfl
          exact off.discreet
      | false =>
          rw [gather_asking _ held isOpen]
          split
          · exact vacant.answered.discreet.trans (fun vacant => vacant.whileOn) whileOn_trace
          · exact vacant.answered.discreet

theorem Vacant.step (vacant : state.Vacant) (operation : Operation) :
    Discreet state (state.apply operation) := by
  by_cases isPoll : operation = .poll
  · subst isPoll
    rw [State.apply, tick_eq_publish]
    exact vacant.gather.trans (fun vacant => vacant.publish.discreet) (publish_meanwhile _).trace
  · exact (vacant.apply isPoll).discreet

theorem Vacant.run (vacant : state.Vacant) (operations : List Operation) :
    Discreet state (state.run operations) := by
  induction operations generalizing state with
  | nil => exact (Reticent.refl vacant).discreet
  | cons operation rest ih =>
      rw [run_cons]
      exact (vacant.step operation).trans (fun vacant => ih vacant) (run_trace rest)

end State

end Televisor.Run
