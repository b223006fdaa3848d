import Televisor.Proofs.Run.Elapsing
import Televisor.Proofs.Telemetry.Touch

namespace Televisor.Run

open Controller Discovery Network Rendering Telemetry

/-! Sessions are begun in the same way whether or not the list of applications is waited for
meanwhile. -/

namespace State

variable {state : State}

theorem passTo_besidesApps (ordered : state.Ordered) (instant : Nat) :
    (state.passTo instant).besidesApps = state.besidesApps.passTo instant :=
  View.besides.passTo ordered

theorem wait_besidesApps (ordered : state.Ordered) (duration : Nat) :
    (state.wait duration).besidesApps = state.besidesApps.wait duration :=
  passTo_besidesApps ordered _

theorem exchange_besidesApps (ordered : state.Ordered) (request : Request) :
    (state.exchange request).1.besidesApps = (state.besidesApps.exchange request).1 ∧
      (state.exchange request).2 = (state.besidesApps.exchange request).2 := by
  obtain ⟨sent, exchange⟩ := state.send_besidesApps request
  have orderedThen : (state.send request).1.Ordered :=
    (state.send_elapsed request).ordered ordered
  simp only [State.exchange, passTo_besidesApps orderedThen, sent, exchange, and_self]

theorem addReceiver_besidesApps (state : State) :
    state.addReceiver.1.besidesApps = state.besidesApps.addReceiver.1 ∧
      state.addReceiver.2 = state.besidesApps.addReceiver.2 := by
  have other : Call.receiver (Receiver.new state.host).source ≠ .requestAppList := nofun
  have called := state.call_besidesApps other
  exact ⟨congrArg (fun after =>
    { after with receivers := state.receivers ++ [Receiver.new state.host] }) called, rfl⟩

theorem updateReceiver_besidesApps (state : State) (number : Nat) (change : Receiver → Receiver) :
    (state.updateReceiver number change).besidesApps =
      state.besidesApps.updateReceiver number change := rfl

theorem startReceiver_besidesApps (ordered : state.Ordered) :
    state.startReceiver.1.besidesApps = state.besidesApps.startReceiver.1 ∧
      state.startReceiver.2 = state.besidesApps.startReceiver.2 := by
  have routed : (state.wait state.delays.route).besidesApps =
      state.besidesApps.wait state.besidesApps.delays.route := wait_besidesApps ordered _
  have orderedThen := (state.wait_elapsed state.delays.route).ordered ordered
  have other : Call.startReceiver ≠ .requestAppList := nofun
  unfold startReceiver
  simp only [← routed]
  generalize state.wait state.delays.route = found at orderedThen
  have orderedGrown := found.addReceiver_elapsed.ordered orderedThen
  obtain ⟨added, number⟩ := found.addReceiver_besidesApps
  simp only [← added, ← number, ← call_besidesApps other]
  generalize found.addReceiver.1 = grown at orderedGrown
  generalize found.addReceiver.2 = number
  have orderedReady : (grown.call .startReceiver).Ordered :=
    (call_elapsed grown other).ordered orderedGrown
  have ready := wait_besidesApps orderedReady grown.host.startDelay
  have host : (grown.call .startReceiver).host = grown.host := rfl
  have hostToo : (grown.call .startReceiver).besidesApps.host = grown.host := rfl
  simp only [host, hostToo, ← ready]
  split
  · exact ⟨rfl, rfl⟩
  · exact ⟨note_besidesApps (updateReceiver _ number _) rfl, rfl⟩

theorem stopReceiver_besidesApps (ordered : state.Ordered) (number : Nat) :
    (state.stopReceiver number).besidesApps = state.besidesApps.stopReceiver number := by
  have other : Call.stopReceiver ≠ .requestAppList := nofun
  have orderedThen := (state.call_elapsed other).ordered ordered
  have waited := wait_besidesApps orderedThen state.delays.stop
  rw [call_besidesApps other] at waited
  unfold stopReceiver
  simp only
  rw [note_besidesApps _ rfl, updateReceiver_besidesApps, waited]
  rfl

theorem askForEvents_besidesApps (ordered : state.Ordered) (control : Control) (renewing : Bool) :
    (state.askForEvents control renewing).1.besidesApps =
        (state.besidesApps.askForEvents control renewing).1 ∧
      (state.askForEvents control renewing).2 =
        (state.besidesApps.askForEvents control renewing).2 := by
  have other : Call.subscribe renewing ≠ .requestAppList := nofun
  have orderedThen := (state.call_elapsed other).ordered ordered
  unfold askForEvents
  simp only [← call_besidesApps other]
  split
  · exact ⟨rfl, rfl⟩
  · rename_i callback _
    obtain ⟨asked, answer⟩ := exchange_besidesApps orderedThen
      (subscribe control.device.eventUrl callback)
    simp only [← asked, ← answer, and_true]
    exact note_besidesApps _ rfl

theorem adopt_besidesApps (state : State) (finish : Session → Session) :
    (state.adopt finish).besidesApps = state.besidesApps.adopt finish := rfl

theorem abandon_besidesApps (ordered : state.Ordered) (number : Nat) :
    (state.abandon number).besidesApps = state.besidesApps.abandon number := by
  have other : Call.detach ≠ .requestAppList := nofun
  have orderedThen : { state.call .detach with draft := none }.Ordered := ordered
  unfold abandon
  rw [stopReceiver_besidesApps orderedThen]
  have called := state.call_besidesApps other
  exact congrArg (fun after => { after with draft := none }.stopReceiver number) called

theorem conclude_besidesApps (ordered : state.Ordered) (number : Nat)
    (outcome : Except Rendering.Failure Grant) :
    (state.conclude number outcome).1.besidesApps = (state.besidesApps.conclude number outcome).1 ∧
      (state.conclude number outcome).2 = (state.besidesApps.conclude number outcome).2 := by
  cases outcome with
  | ok grant => exact ⟨rfl, rfl⟩
  | error failure =>
      cases rejection : failure.isRejection with
      | true => simp only [conclude, rejection, if_true, adopt_besidesApps, and_self]
      | false =>
          simp only [conclude, rejection, Bool.false_eq_true, if_false,
            abandon_besidesApps ordered number, and_self]

theorem drafting_besidesApps (state : State) (session : Session) :
    (state.drafting session).besidesApps = state.besidesApps.drafting session := by
  have other : Call.attach ≠ .requestAppList := nofun
  have called := (state.updateReceiver session.receiver Receiver.consume
    ).call_besidesApps other
  exact congrArg (fun after => { after with draft := some session }) called

theorem setUp_besidesApps (ordered : state.Ordered) (device : Device) (number : Nat) :
    (state.setUp device number).1.besidesApps = (state.besidesApps.setUp device number).1 ∧
      (state.setUp device number).2 = (state.besidesApps.setUp device number).2 := by
  have receivers : state.besidesApps.receivers = state.receivers := rfl
  rw [state.setUp_eq, state.besidesApps.setUp_eq, receivers]
  generalize Session.fresh (.ofDevice device ((state.receivers[number]?).bind Receiver.callback?))
    number = session
  have orderedDrafted : (state.drafting session).Ordered := ordered
  have orderedAsked : ((state.drafting session).askForEvents session.control true).1.Ordered :=
    (askForEvents_elapsed _ _ _).ordered orderedDrafted
  obtain ⟨asked, outcome⟩ := askForEvents_besidesApps orderedDrafted session.control true
  rw [← drafting_besidesApps, ← asked, ← outcome]
  exact conclude_besidesApps orderedAsked number _

theorem startSession_besidesApps (ordered : state.Ordered) (location : String) :
    (state.startSession location).1.besidesApps = (state.besidesApps.startSession location).1 ∧
      (state.startSession location).2 = (state.besidesApps.startSession location).2 := by
  have noted : (state.note (.starting location)).besidesApps =
      state.besidesApps.note (.starting location) := note_besidesApps state rfl
  have orderedNoted : (state.note (.starting location)).Ordered := ordered
  have orderedDescribed : ((state.note (.starting location)).exchange (fetch location)).1.Ordered :=
    (exchange_elapsed _ _).ordered orderedNoted
  obtain ⟨described, answer⟩ := exchange_besidesApps orderedNoted (fetch location)
  unfold startSession
  simp only [← noted, ← described, ← answer]
  generalize ((state.note (.starting location)).exchange (fetch location)).1 = found
    at orderedDescribed
  generalize ((state.note (.starting location)).exchange (fetch location)).2 = answered
  cases readDevice location answered with
  | error failure => exact ⟨rfl, rfl⟩
  | ok device =>
      have orderedStarted := found.startReceiver_elapsed.ordered orderedDescribed
      obtain ⟨started, outcome⟩ := startReceiver_besidesApps orderedDescribed
      rcases listens : found.startReceiver with ⟨after, failure | number⟩ <;>
        rcases listensToo : found.besidesApps.startReceiver with ⟨afterToo, failureToo | numberToo⟩ <;>
        rw [listens, listensToo] at started outcome <;> cases outcome
      · exact ⟨started, rfl⟩
      · rw [listens] at orderedStarted
        have setUp := setUp_besidesApps orderedStarted device number
        rw [show after.besidesApps = afterToo from started] at setUp
        exact setUp

theorem startTelemetry_besidesApps (ordered : state.Ordered) :
    state.startTelemetry.besidesApps = state.besidesApps.startTelemetry := by
  have held : state.besidesApps.held = state.held := rfl
  have location : state.besidesApps.controller.options.location =
      state.controller.options.location := rfl
  unfold startTelemetry
  rw [held, location]
  split
  · exact (startSession_besidesApps ordered _).1
  · rfl

end State

end Televisor.Run
