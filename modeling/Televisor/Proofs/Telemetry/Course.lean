import Televisor.Proofs.Run.Exchange
import Televisor.Proofs.Telemetry.Lodging

namespace Televisor.Run

open Controller Rendering Telemetry

/-! The course of a session: how it is set up, step by step, until it is held or all that was set up
for it is gone, and how it is ended. -/

/-- A call that is neither a command nor the question whether the television is on. -/
def Call.Secondary : Call → Prop
  | .http _ | .requestAppList | .receiver _ | .startReceiver | .stopReceiver | .attach | .detach
  | .subscribe _ | .unsubscribe => True
  | _ => False

theorem Call.Requests.secondary {call : Call} {method : String} (requests : call.Requests method) :
    call.Secondary := by
  obtain ⟨request, rfl, _⟩ := requests
  exact trivial

/-- Whatever is to be found at those places has been asked to describe itself, if it can be asked. -/
def Inquires (places : List String) (seen : List Record) : Prop :=
  ∀ location ∈ places, ∀ built, (fetch location).built? = some built →
    Call.http built ∈ callsIn seen

theorem Inquires.none (seen : List Record) : Inquires [] seen :=
  List.forall_mem_nil _

theorem Inquires.append {first second : List String} {seen later : List Record}
    (before : Inquires first seen) (after : Inquires second later) :
    Inquires (second ++ first) (later ++ seen) := by
  intro location member built found
  rw [callsIn_append, List.mem_append]
  rcases List.mem_append.mp member with late | early
  · exact .inl (after location late built found)
  · exact .inr (before location early built found)

/-- The way from `start` to `state`, where the given receiver listens; sessions were begun with the
given renderers. -/
structure Course (start : State) (begun : List String) (seen : List Record) (state : State)
    (lodger : Option Nat) : Prop extends Advance start seen state where
  calls : Calls Call.Secondary seen
  starts : startsIn seen = begun
  inquires : Inquires begun seen
  lodged : Lodged state lodger

/-- The session that is held, if any, is in use and has the given receiver, and none is being set
up. -/
structure State.Settled (state : State) (lodger : Option Nat) : Prop where
  held : state.held.map (·.receiver) = lodger
  alive : ∀ session, state.held = some session → session.alive = true
  draft : state.draft = none

theorem State.Settled.drift {before after : State} {seen : List Record} {lodger : Option Nat}
    (settled : before.Settled lodger) (drift : Drift before seen after) :
    after.Settled lodger where
  held := by
    have receivers := congrArg (Option.map (·.receiver)) drift.held
    rw [Option.map_map, Option.map_map] at receivers
    exact receivers.trans settled.held
  alive := by
    intro session isHeld
    have still : before.held.map Session.still = some session.still := by
      rw [← drift.held, isHeld, Option.map_some]
    obtain ⟨old, wasHeld, same⟩ := Option.map_eq_some_iff.mp still
    have alive : old.still.alive = session.still.alive := congrArg Session.alive same
    exact alive.symm.trans (settled.alive old wasHeld)
  draft := drift.draft_none settled.draft

theorem State.Settled.of_none {state : State} (held : state.held = none)
    (draft : state.draft = none) : state.Settled none where
  held := Option.map_eq_none_iff.mpr held
  alive := by simp [held]
  draft := draft

theorem State.Settled.held_none {state : State} (settled : state.Settled none) :
    state.held = none :=
  Option.map_eq_none_iff.mp settled.held

namespace Course

variable {start state after : State} {begun : List String}
  {seen later : List Record} {lodger guest : Option Nat}

theorem refl (lodged : Lodged state lodger) : Course state [] [] state lodger where
  toAdvance := .refl state
  calls := .nil
  starts := rfl
  inquires := .none []
  lodged := lodged

theorem trans {more : List String} (first : Course start begun seen state lodger)
    (second : Course state more later after guest) :
    Course start (more ++ begun) (later ++ seen) after guest where
  toAdvance := first.toAdvance.trans second.toAdvance
  calls := second.calls.append first.calls
  starts := by rw [startsIn_append, second.starts, first.starts]
  inquires := first.inquires.append second.inquires
  lodged := second.lodged

theorem extend (way : Course start begun seen state lodger)
    (further : Course state [] later after guest) :
    Course start begun (later ++ seen) after guest :=
  way.trans further

theorem drift (way : Course start begun seen state lodger) (drift : Drift state later after)
    (calls : Calls Call.Secondary later) :
    Course start begun (later ++ seen) after lodger :=
  way.extend ⟨drift.toAdvance, calls, drift.starts, .none _, way.lodged.drift drift⟩

theorem passage (way : Course start begun seen state lodger) (passage : Passage state later after) :
    Course start begun (later ++ seen) after lodger :=
  way.drift passage.toDrift (passage.calls.imp fun _ => Call.Requests.secondary)

theorem call (way : Course start begun seen state lodger) (call : Call)
    (secondary : call.Secondary) :
    Course start begun (⟨state.now, .called call⟩ :: seen) (state.call call) lodger :=
  way.drift (state.call_drift call) (.one secondary)

/-- A change to sessions and receivers that nobody sees. -/
theorem unseen (way : Course start begun seen state lodger) (base : after.base = state.base)
    (clock : state.now ≤ after.now) (trace : after.trace = state.trace)
    (queue : after.queue = state.queue)
    (authFailed : after.controller.authFailed = state.controller.authFailed)
    (gate : after.gate = state.gate) (lodged : Lodged after guest) :
    Course start begun seen after guest := by
  have advance : Advance state [] after :=
    .unseen base clock trace queue authFailed (by rw [gate]) (by rw [gate]; exact id)
  exact way.extend ⟨advance, .nil, rfl, .none _, lodged⟩

end Course

namespace State

variable (state : State)

/-- A request that follows a call. -/
theorem asked_drift (call : Call) (request : Network.Request) (secondary : call.Secondary)
    (asked : State) (unseen : Drift (state.call call) [] asked) :
    ∃ seen, Drift state seen (asked.exchange request).1 ∧ Calls Call.Secondary seen := by
  obtain ⟨seen, exchanged, requests, _⟩ := asked.exchange_drift request
  have calls : Calls Call.Secondary seen :=
    requests.imp fun _ either => either.elim (·.secondary) (·.secondary)
  exact ⟨_, ((state.call_drift call).followed unseen).trans exchanged,
    calls.append (.one secondary)⟩

theorem called_drift (call : Call) (secondary : call.Secondary) (after : State)
    (unseen : Drift (state.call call) [] after) :
    ∃ seen, Drift state seen after ∧ Calls Call.Secondary seen :=
  ⟨_, (state.call_drift call).followed unseen, .one secondary⟩

theorem askForEvents_drift (control : Control) (renewing : Bool) :
    ∃ seen, Drift state seen (state.askForEvents control renewing).1 ∧
      Calls Call.Secondary seen := by
  unfold askForEvents
  split
  · exact state.called_drift (.subscribe renewing) trivial _ (.refl _)
  · rename_i callback _
    obtain ⟨seen, asked, calls⟩ := state.asked_drift (.subscribe renewing)
      (subscribe control.device.eventUrl callback) trivial _ (.refl _)
    have silent (time : Nat) (answer : Network.Answer) :
        Calls Call.Secondary [⟨time, .answered (.caller renewing) answer⟩] := by
      simp [Calls, callsIn, Record.call?]
    exact ⟨_, asked.trans (answered_drift _ _ _), (silent _ _).append calls⟩

theorem updateControl_drift (change : Control → Control)
    (same : ∀ session : Session, { session with control := change session.control }.still =
      session.still) :
    Drift state [] (state.updateControl change) := by
  refine .unseen ?_ (Nat.le_refl _) rfl rfl rfl rfl id ?_
  · cases held : state.held <;> simp [still, updateControl, held, same]
  · cases held : state.held <;> simp [State.heard, updateControl, held]

theorem unsubscribeHeld_drift :
    ∃ seen, Drift state seen state.unsubscribeHeld.1 ∧ Calls Call.Secondary seen := by
  have forgotten := (state.call .unsubscribe).updateControl_drift
    Control.forget fun _ => rfl
  unfold unsubscribeHeld
  split
  · exact ⟨[], .refl state, .nil⟩
  · simp only
    split
    · exact state.called_drift .unsubscribe trivial _ forgotten
    · exact state.asked_drift .unsubscribe _ trivial _ forgotten

variable {state} {start : State} {begun : List String} {seen : List Record} {number : Nat}

theorem listen_course (way : Course start begun seen state none) (fresh : number ∉ begunIn state.trace)
    (present : number < state.receivers.length) :
    Course start begun (⟨state.now, .listening number⟩ :: seen)
      ((state.updateReceiver number Receiver.listen).note (.listening number))
      (some number) := by
  have silent : Calls Call.Secondary [⟨state.now, .listening number⟩] := by
    simp [Calls, callsIn, Record.call?]
  have updated : Advance state [] (state.updateReceiver number Receiver.listen) :=
    .unseen rfl (Nat.le_refl _) rfl rfl rfl rfl id
  have noted := updated.trans (.note _ (.listening number) rfl rfl rfl)
  exact way.extend ⟨noted, silent, rfl, .none _, way.lodged.listen fresh present⟩

theorem startReceiver_course (way : Course start begun seen state none) (settled : state.Settled none) :
    ∃ seen', Course start begun seen' state.startReceiver.1 state.startReceiver.2.toOption ∧
      state.startReceiver.1.Settled none := by
  obtain ⟨routing, routed⟩ := state.wait_passage state.delays.route
  unfold startReceiver
  generalize state.wait state.delays.route = found at routed
  have wayFound := way.passage routed
  have settledFound := settled.drift routed.toDrift
  have fresh : found.receivers.length ∉ begunIn found.trace := fun begun =>
    Nat.lt_irrefl _ (wayFound.lodged.numbered _ begun)
  have wayAdded : Course start begun _ found.addReceiver.1 none :=
    (wayFound.call (.receiver (Receiver.new found.host).source) trivial).unseen rfl
      (Nat.le_refl _) rfl rfl rfl rfl wayFound.lodged.addReceiver
  have settledAdded : found.addReceiver.1.Settled none :=
    ⟨settledFound.held, settledFound.alive, settledFound.draft⟩
  have begunAdded : begunIn found.addReceiver.1.trace = begunIn found.trace := rfl
  have present : found.receivers.length < found.addReceiver.1.receivers.length := by
    simp [addReceiver]
  have wayBinding := wayAdded.call .startReceiver trivial
  obtain ⟨binding, bound⟩ :=
    (found.addReceiver.1.call .startReceiver).wait_passage found.addReceiver.1.host.startDelay
  have ready := wayBinding.passage bound
  have settledReady :=
    (settledAdded.drift (found.addReceiver.1.call_drift _)).drift bound.toDrift
  have freshReady := bound.begun ▸ fresh
  have presentReady := Nat.lt_of_lt_of_eq present (congrArg List.length bound.receivers).symm
  simp only
  split
  · exact ⟨_, ready, settledReady⟩
  · exact ⟨_, listen_course ready freshReady presentReady,
      ⟨settledReady.held, settledReady.alive, settledReady.draft⟩⟩

theorem stopReceiver_course (way : Course start begun seen state (some number)) :
    ∃ seen', Course start begun seen' (state.stopReceiver number) none ∧
      (state.held = none → (state.stopReceiver number).held = none) ∧
      (state.draft = none → (state.stopReceiver number).draft = none) := by
  have called := state.call_drift .stopReceiver
  obtain ⟨ending, ended⟩ := (state.call .stopReceiver).wait_passage state.delays.stop
  have wayEnded := (way.call .stopReceiver trivial).passage ended
  have drift := called.trans ended.toDrift
  unfold stopReceiver
  generalize (state.call .stopReceiver).wait state.delays.stop = quiet at *
  have silent : Calls Call.Secondary [⟨quiet.now, .stopped number⟩] := by
    simp [Calls, callsIn, Record.call?]
  have updated : Advance quiet []
      (quiet.updateReceiver number Receiver.stop) :=
    .unseen rfl (Nat.le_refl _) rfl rfl rfl rfl id
  have noted := updated.trans (.note _ (.stopped number) rfl rfl rfl)
  exact ⟨_, wayEnded.extend ⟨noted, silent, rfl, .none _, wayEnded.lodged.stop⟩, drift.held_none,
    drift.draft_none⟩

theorem adopt_course {current : Session} {finish : Session → Session}
    (way : Course start begun seen state (some number)) (isDraft : state.draft = some current)
    (receiver : (finish current).receiver = number) (alive : (finish current).alive = true) :
    Course start begun seen (state.adopt finish) (some number) ∧
      (state.adopt finish).Settled (some number) := by
  have adopted : (state.adopt finish).held = some (finish current) := by
    simp [adopt, isDraft]
  refine ⟨way.unseen rfl (Nat.le_refl _) rfl rfl rfl rfl (way.lodged.unchanged rfl rfl), ?_, ?_, rfl⟩
  · rw [adopted, Option.map_some, receiver]
  · intro session isHeld
    obtain rfl : finish current = session := Option.some.inj (adopted.symm.trans isHeld)
    exact alive

theorem abandon_course (way : Course start begun seen state (some number)) (unheld : state.held = none) :
    ∃ seen', Course start begun seen' (state.abandon number) none ∧
      (state.abandon number).Settled none := by
  have detached := way.call .detach trivial
  have dropped : Course start begun _ { state.call .detach with draft := none } (some number) :=
    detached.unseen rfl (Nat.le_refl _) rfl rfl rfl rfl (detached.lodged.unchanged rfl rfl)
  obtain ⟨seen', stopped, unheldStill, undrafted⟩ := stopReceiver_course dropped
  exact ⟨seen', stopped, .of_none (unheldStill unheld) (undrafted rfl)⟩

theorem setUp_course (device : Device) (way : Course start begun seen state (some number))
    (settled : state.Settled none) :
    ∃ lodger seen', Course start begun seen' (state.setUp device number).1 lodger ∧
      (state.setUp device number).1.Settled lodger := by
  have consumed : Course start begun seen
      (state.updateReceiver number Receiver.consume) (some number) :=
    way.unseen rfl (Nat.le_refl _) rfl rfl rfl rfl (way.lodged.updateReceiver _ fun _ => rfl)
  have attached := consumed.call .attach trivial
  have unheld : ((state.updateReceiver number Receiver.consume).call .attach).held =
      none := settled.held_none
  unfold setUp
  generalize (state.receivers[number]?).bind Receiver.callback? = callback
  generalize (state.updateReceiver number Receiver.consume).call .attach = attaching at *
  have drafted : Course start begun _
      { attaching with draft := some (.fresh (.ofDevice device callback) number) } (some number) :=
    attached.unseen rfl (Nat.le_refl _) rfl rfl rfl rfl (attached.lodged.unchanged rfl rfl)
  obtain ⟨asking, asked, calls⟩ := askForEvents_drift
    { attaching with draft := some (.fresh (.ofDevice device callback) number) }
    (Session.fresh (.ofDevice device callback) number).control true
  have answered := drafted.drift asked calls
  have unheldStill := asked.held_none unheld
  obtain ⟨current, isDraft, same⟩ := Option.map_eq_some_iff.mp asked.draft
  have receiver : current.receiver = number := congrArg Session.receiver same
  have alive : current.alive = true := congrArg Session.alive same
  simp only
  split
  · exact ⟨_, _, adopt_course answered isDraft receiver alive⟩
  · split
    · exact ⟨_, _, adopt_course answered isDraft receiver alive⟩
    · exact ⟨_, abandon_course answered unheldStill⟩

/-- Beginning a session: in the end there is one, whose receiver listens, or no receiver listens. -/
theorem startSession_course (location : String) (lodged : Lodged state none)
    (settled : state.Settled none) :
    ∃ lodger seen, Course state [location] seen (state.startSession location).1 lodger ∧
      (state.startSession location).1.Settled lodger := by
  have silent : Calls Call.Secondary [⟨state.now, .starting location⟩] := by
    simp [Calls, callsIn, Record.call?]
  have begun : Advance state [⟨state.now, .starting location⟩] (state.note (.starting location)) :=
    .note state _ rfl rfl rfl
  have lodgedBegun : Lodged (state.note (.starting location)) none := lodged.note _ ⟨rfl, rfl⟩
  have settledBegun : (state.note (.starting location)).Settled none :=
    ⟨settled.held, settled.alive, settled.draft⟩
  obtain ⟨fetching, fetched, requests, asks⟩ :=
    (state.note (.starting location)).exchange_drift (fetch location)
  have calls : Calls Call.Secondary fetching :=
    requests.imp fun _ either => either.elim (·.secondary) (·.secondary)
  have described : Course state [location] (fetching ++ [⟨state.now, .starting location⟩])
      ((state.note (.starting location)).exchange (fetch location)).1 none := by
    refine ⟨begun.trans fetched.toAdvance, calls.append silent, ?_, ?_, lodgedBegun.drift fetched⟩
    · rw [startsIn_append, fetched.starts]
      rfl
    · rintro place member built found
      obtain rfl := List.mem_singleton.mp member
      rw [callsIn_append]
      exact List.mem_append_left _ (asks built found)
  have settledStill := settledBegun.drift fetched
  unfold startSession
  simp only
  split
  · exact ⟨_, _, described, settledStill⟩
  · obtain ⟨seen, started, settledStarted⟩ := startReceiver_course described settledStill
    split
    · rename_i refused
      rw [refused] at started settledStarted
      exact ⟨_, _, started, settledStarted⟩
    · rename_i device listens number listening
      rw [listening] at started settledStarted
      exact setUp_course _ started settledStarted

/-- A session that is not in use any more loses its subscription, its renewal and its receiver. -/
theorem endSession_course (session : Session)
    (way : Course start begun seen state (some session.receiver)) (undrafted : state.draft = none) :
    let quiet := if session.status = .subscribed then state.unsubscribeHeld.1 else state
    let ended := (quiet.updateControl Control.stopRenewal).stopReceiver session.receiver
    ∃ seen', Course start begun seen' ended none ∧ ended.draft = none := by
  intro quiet ended
  obtain ⟨ending, drift, calls⟩ : ∃ seen, Drift state seen quiet ∧ Calls Call.Secondary seen := by
    by_cases subscribed : session.status = .subscribed
    · have same : quiet = state.unsubscribeHeld.1 := if_pos subscribed
      rw [same]
      exact state.unsubscribeHeld_drift
    · have same : quiet = state := if_neg subscribed
      rw [same]
      exact ⟨[], .refl state, .nil⟩
  have forgotten := quiet.updateControl_drift Control.stopRenewal fun _ => rfl
  obtain ⟨seen', stopped, _, none⟩ :=
    stopReceiver_course ((way.drift drift calls).drift forgotten .nil)
  exact ⟨seen', stopped, none (forgotten.draft_none (drift.draft_none undrafted))⟩

theorem stopSession_course {lodger : Option Nat} (lodged : Lodged state lodger)
    (settled : state.Settled lodger) :
    ∃ seen, Course state [] seen state.stopSession none ∧ state.stopSession.draft = none := by
  have here := Course.refl lodged
  unfold stopSession
  cases isHeld : state.held with
  | none =>
      have unlodged : lodger = none := by
        rw [← settled.held, isHeld, Option.map_none]
      subst unlodged
      exact ⟨_, here, settled.draft⟩
  | some session =>
      have alive := settled.alive session isHeld
      have lodges : lodger = some session.receiver := by
        rw [← settled.held, isHeld, Option.map_some]
      subst lodges
      simp only [Option.filter_some, alive, if_true]
      have detached := here.call .detach trivial
      have released (dead : Session) :
          Course state [] _ ((state.call .detach).hold dead) (some session.receiver) :=
        detached.unseen rfl (Nat.le_refl _) rfl rfl rfl rfl (detached.lodged.unchanged rfl rfl)
      exact endSession_course session (released _) settled.draft

end State

end Televisor.Run
