import Televisor.Proofs.Run.Steadiness
import Televisor.Proofs.Telemetry.Keeping
import Televisor.Proofs.Telemetry.Values

namespace Televisor.Rendering

open Network

/-- A place that could be asked for anything can be told that a subscription is over. -/
theorem unsubscribe_built {request : Request} {url sid : String}
    (built : request.built?.isSome = true) (isPlace : request.url = url)
    (readable : isReadable sid = true) : (unsubscribe url sid).built?.isSome = true := by
  refine Request.built?_isSome built isPlace.symm ?_
  simp [unsubscribe, isHeaderValue_of_isReadable readable]

end Televisor.Rendering

namespace Televisor.Telemetry

open Rendering

/-- A session in use; the end of its subscription can be told if there is one, and what renews it
can be stopped. -/
structure Session.Serves (session : Session) : Prop where
  alive : session.alive = true
  tended : session.control.Tended
  endable : session.status = .subscribed → ∃ sid, session.control.sid = some sid ∧
    (unsubscribe session.control.device.eventUrl sid).built?.isSome = true

theorem Session.Serves.resume {session : Session} (serves : session.Serves) {task : RenewalTask}
    (runs : task ∈ session.control.tasks) (next : Option Renewal) :
    (session.resume task next).Serves where
  alive := serves.alive
  tended := serves.tended.resume runs next
  endable := serves.endable

/-- A session that nothing reaches any more. -/
structure Session.Gone (session : Session) : Prop where
  dead : session.alive = false
  detached : session.control.attached = false
  resting : session.control.tasks = []

end Televisor.Telemetry

namespace Televisor.Run

open Controller Network Rendering Telemetry

/-! How a session ends: its handler goes first, then its subscription, then its handle, and its
receiver last.  From the first of these on it is silent. -/

/-- No session reports a change, no receiver is stopped, and all calls are of one kind. -/
structure Hushed (kind : Call → Prop) (seen : List Record) : Prop where
  calls : Calls kind seen
  unreported : .telemetryChanged ∉ raisedIn seen
  unstopped : stoppedIn seen = []

namespace Hushed

variable {kind : Call → Prop} {seen later : List Record}

theorem nil : Hushed kind [] where
  calls := .nil
  unreported := by simp [raisedIn]
  unstopped := rfl

theorem append (second : Hushed kind later) (first : Hushed kind seen) :
    Hushed kind (later ++ seen) where
  calls := second.calls.append first.calls
  unreported := by
    rw [raisedIn_append, List.mem_append]
    exact fun either => either.elim first.unreported second.unreported
  unstopped := by rw [stoppedIn_append, second.unstopped, first.unstopped, List.nil_append]

theorem one {record : Record} (calls : ∀ call, record.call? = some call → kind call)
    (unreported : record.event? ≠ some .telemetryChanged) (unstopped : record.stopped? = none) :
    Hushed kind [record] where
  calls := by
    intro call member
    obtain ⟨_, isIn, called⟩ := List.mem_filterMap.mp member
    obtain rfl := List.mem_singleton.mp isIn
    exact calls call called
  unreported := by
    intro member
    obtain ⟨_, isIn, raised⟩ := List.mem_filterMap.mp (List.mem_reverse.mp member)
    obtain rfl := List.mem_singleton.mp isIn
    exact unreported raised
  unstopped := by simp [stoppedIn, unstopped]

theorem plain {record : Record} (uncalled : record.call? = none) (unraised : record.event? = none)
    (unstopped : record.stopped? = none) : Hushed kind [record] := by
  refine .one (fun call made => ?_) (fun raised => ?_) unstopped
  · cases uncalled.symm.trans made
  · cases unraised.symm.trans raised

/-- What is seen when a body comes to a session that does not hear it. -/
theorem takes {session : Session} (deaf : session.hears = false) (time : Nat) (body : String) :
    Hushed kind (Run.takes time session body) := by
  rw [Run.takes, deaf]
  exact .plain rfl rfl rfl

end Hushed

/-- What is sent when a session ends, the latest first. -/
inductive Ending (session : Session) : List Call → Prop where
  | told {sid request} (subscribed : session.status = .subscribed)
      (stored : session.control.sid = some sid)
      (built : (unsubscribe session.control.device.eventUrl sid).built? = some request) :
      Ending session [.http request, .unsubscribe]
  | untold (unsubscribed : session.status ≠ .subscribed) : Ending session []

namespace State

/-- Since the given trace. -/
def HushedSince (state : State) (kind : Call → Prop) (earlier : List Record) : Prop :=
  ∃ seen, state.trace = seen ++ earlier ∧ Hushed kind seen

/-- No session is in use, and none will be. -/
structure Spent (state : State) : Prop where
  held : ∀ session, state.held = some session → session.Gone
  undrafted : state.draft = none
  ended : state.held = none → state.controller.shuttingDown = true

variable {state : State} {kind : Call → Prop} {earlier seen : List Record}

theorem HushedSince.note (hushed : state.HushedSince kind earlier) {what : Occurrence}
    (one : Hushed kind [⟨state.now, what⟩]) : (state.note what).HushedSince kind earlier := by
  obtain ⟨seen, trace, quiet⟩ := hushed
  have noted : (state.note what).trace = [⟨state.now, what⟩] ++ seen ++ earlier :=
    congrArg (List.cons _) trace
  exact ⟨_, noted, one.append quiet⟩

namespace Spent

/-- Nothing but the trace and the controller may differ. -/
theorem like {after : State} (spent : state.Spent) (held : after.held = state.held)
    (draft : after.draft = state.draft)
    (shuttingDown : after.controller.shuttingDown = state.controller.shuttingDown) :
    after.Spent where
  held := by
    rw [held]
    exact spent.held
  undrafted := draft.trans spent.undrafted
  ended := by
    rw [held, shuttingDown]
    exact spent.ended

theorem of_held {session : Session} (isHeld : state.held = some session) (gone : session.Gone)
    (undrafted : state.draft = none) : state.Spent where
  held := by
    intro other otherHeld
    obtain rfl := Option.some.inj (isHeld.symm.trans otherHeld)
    exact gone
  undrafted := undrafted
  ended := by
    intro unheld
    cases isHeld.symm.trans unheld

theorem receive (spent : state.Spent) (hushed : state.HushedSince kind earlier) (number : Nat)
    (body : String) : (state.receive number body).Spent ∧
      (state.receive number body).HushedSince kind earlier := by
  rcases state.receive_cases number body with same | ⟨session, rfl, taken⟩
  · rw [same]
    exact ⟨spent, hushed⟩
  · rcases taken.place with ⟨isHeld, held, draft⟩ | ⟨isDraft, _⟩
    · have gone := spent.held session isHeld
      have still : (session.receive body).1.Gone :=
        ⟨(session.receive_alive body).trans gone.dead,
          (session.receive_attached body).trans gone.detached,
          (session.receive_tasks body).trans gone.resting⟩
      have deaf : session.hears = false := by simp [Session.hears, gone.detached]
      obtain ⟨seen, trace, quiet⟩ := hushed
      refine ⟨.of_held held still (draft.trans spent.undrafted), _, ?_,
        (Hushed.takes deaf state.now body).append quiet⟩
      rw [taken.trace, trace, List.append_assoc]
    · cases spent.undrafted.symm.trans isDraft

theorem passing (kind : Call → Prop) (earlier : List Record) :
    Passing fun state => state.Spent ∧ state.HushedSince kind earlier where
  aside := by
    rintro before after ⟨spent, seen, trace, quiet⟩ held draft _ same shuttingDown _
    exact ⟨spent.like held draft shuttingDown, seen, same.trans trace, quiet⟩
  tell := by
    rintro state what ⟨spent, hushed⟩ news
    refine ⟨spent.like rfl rfl rfl, hushed.note ?_⟩
    cases what with
    | delivered apps => exact .plain rfl rfl rfl
    | raised event => exact .one nofun (fun same => news (Option.some.inj same)) rfl
    | _ => exact news.elim
  receive := fun number body now => now.1.receive now.2 number body
  renew := by
    rintro state session task ⟨spent, _⟩ isHeld runs
    rw [(spent.held session isHeld).resting] at runs
    contradiction

/-- Nobody is called while somebody waits. -/
theorem passTo (spent : state.Spent) (instant : Nat) : (state.passTo instant).Spent ∧
    (state.passTo instant).HushedSince (fun _ => False) state.trace :=
  (passing _ _).passTo ⟨spent, [], rfl, .nil⟩ instant

theorem filter_alive (spent : state.Spent) : state.held.filter (·.alive) = none := by
  rw [Option.filter_eq_none_iff]
  intro session isHeld
  simp [(spent.held session isHeld).dead]

theorem stopSession (spent : state.Spent) : state.stopSession = state := by
  unfold State.stopSession
  rw [spent.filter_alive]

theorem changeHeldVolume (spent : state.Spent) (level : Media.Level) :
    state.changeHeldVolume level = (state, .ok ()) := by
  unfold State.changeHeldVolume
  rw [spent.filter_alive]

/-- The controller forgets a session that is spent when it shuts down. -/
theorem forgotten (spent : state.Spent) (shuttingDown : state.controller.shuttingDown = true) :
    { state with held := none }.Spent where
  held := by
    intro session isHeld
    cases isHeld
  undrafted := spent.undrafted
  ended := fun _ => shuttingDown

theorem ending (spent : state.Spent) : state.ending.Spent where
  held := spent.held
  undrafted := spent.undrafted
  ended := fun _ => rfl

/-- What others do goes on. -/
theorem lasting (earlier : List Record) :
    Enduring fun state => state.Spent ∧ state.HushedSince Call.Routine earlier where
  toPassing := passing Call.Routine earlier
  note := by
    rintro state what ⟨spent, hushed⟩ routine
    refine ⟨spent.like rfl rfl rfl, hushed.note ?_⟩
    cases what with
    | called call => exact .one (fun made same => Option.some.inj same ▸ routine) nofun rfl
    | published shown => exact .plain rfl rfl rfl
    | _ => exact routine.elim
  start := by
    rintro state location ⟨spent, _⟩ unheld running
    cases running.symm.trans (spent.ended unheld)
  volume := by
    rintro state level ⟨spent, hushed⟩
    rw [spent.changeHeldVolume]
    exact ⟨spent, hushed⟩
  shutdown := by
    rintro state ⟨spent, hushed⟩
    cases shutting : state.controller.shuttingDown with
    | true =>
        rw [shutdown_again shutting]
        exact ⟨spent, hushed⟩
    | false =>
        rw [shutdown_running shutting, spent.ending.stopSession]
        exact ⟨spent.ending.forgotten rfl, hushed⟩
  surround := fun _ _ _ _ ⟨spent, hushed⟩ => ⟨spent.like rfl rfl rfl, hushed⟩

end Spent

/-- A session that is being stopped, up to the moment when only its receiver is left. -/
def releasing (state : State) (session : Session) : State :=
  let released := (state.call .detach).hold session.released
  let quiet := if session.status = .subscribed then released.unsubscribeHeld.1 else released
  quiet.updateControl Control.stopRenewal

theorem stopSession_eq {session : Session} (isHeld : state.held = some session)
    (alive : session.alive = true) :
    state.stopSession = (state.releasing session).stopReceiver session.receiver := by
  have found : state.held.filter (·.alive) = some session := by
    rw [isHeld, Option.filter_some, if_pos alive]
  unfold stopSession
  rw [found]
  rfl

end State

namespace State

variable {state : State} {session : Session}

theorem exchange_spent (spent : state.Spent) {request built : Request}
    (found : request.built? = some built) : (state.exchange request).1.Spent ∧
      (state.exchange request).1.HushedSince (fun _ => False)
        (⟨state.now, .called (.http built)⟩ :: state.trace) := by
  have sent : (state.send request).1.Spent ∧
      (state.send request).1.trace = ⟨state.now, .called (.http built)⟩ :: state.trace := by
    unfold send
    rw [found]
    exact ⟨spent.like rfl rfl rfl, rfl⟩
  rw [← sent.2]
  exact sent.1.passTo _

theorem updateControl_spent (change : Control → Control) (isHeld : state.held = some session)
    (dead : session.alive = false) (undrafted : state.draft = none)
    (attached : (change session.control).attached = false)
    (resting : (change session.control).tasks = []) : (state.updateControl change).Spent := by
  have changed : (state.updateControl change).held =
      some { session with control := change session.control } := by
    simp [updateControl, isHeld]
  exact .of_held changed ⟨dead, attached, resting⟩ undrafted

theorem updateControl_resting (spent : state.Spent) :
    (state.updateControl Control.stopRenewal).Spent := by
  cases isHeld : state.held with
  | none =>
    refine spent.like ?_ rfl rfl
    simp [updateControl, isHeld]
  | some session =>
    have gone := spent.held session isHeld
    have tended : session.control.Tended := .of_idle gone.resting
    exact updateControl_spent _ isHeld gone.dead spent.undrafted gone.detached
      tended.stopRenewal_tasks

end State

/-- The handler went first, and the subscription has been ended if there was one; only the receiver
is left. -/
structure Released (session : Session) (before after : State) : Prop where
  seen : ∃ seen, after.trace = seen ++ ⟨before.now, .called .detach⟩ :: before.trace ∧
    Ending session (callsIn seen) ∧ .telemetryChanged ∉ raisedIn seen ∧ stoppedIn seen = []
  spent : after.Spent

/-- All of a session has been released, in its order. -/
structure TornDown (session : Session) (before after : State) : Prop where
  released : ∃ released, Released session before released ∧
    after.trace = (released.stopReceiver session.receiver).trace
  seen : ∃ seen ending, after.trace = seen ++ before.trace ∧ Ending session ending ∧
    callsIn seen = .stopReceiver :: (ending ++ [.detach]) ∧
    .telemetryChanged ∉ raisedIn seen ∧ stoppedIn seen = [session.receiver]
  deaf : ∀ receiver, after.receivers[session.receiver]? = some receiver →
    receiver.listening = false ∧ receiver.consumed = false

theorem Calls.eq_nil {seen : List Record} (none : Calls (fun _ => False) seen) :
    callsIn seen = [] :=
  List.eq_nil_iff_forall_not_mem.mpr none

namespace State

variable {state : State} {session : Session}

theorem releasing_released (serves : session.Serves) (undrafted : state.draft = none) :
    Released session state (state.releasing session) := by
  have held : ((state.call .detach).hold session.released).held = some session.released := rfl
  have tended : session.released.control.Tended := serves.tended.like rfl rfl
  by_cases subscribed : session.status = .subscribed
  · obtain ⟨sid, stored, sendable⟩ := serves.endable subscribed
    obtain ⟨request, built⟩ := Option.isSome_iff_exists.mp sendable
    let asked := (((state.call .detach).hold session.released).call .unsubscribe).updateControl
      Control.forget
    have askedSpent : asked.Spent :=
      updateControl_spent Control.forget held rfl undrafted rfl tended.stopRenewal_tasks
    have ended : state.releasing session = State.updateControl
        (asked.exchange (unsubscribe session.control.device.eventUrl sid)).1
        Control.stopRenewal := by
      have storedStill : session.released.control.sid = some sid := stored
      simp only [releasing, if_pos subscribed, unsubscribeHeld, hold, storedStill]
      rfl
    obtain ⟨spent, seen, trace, quiet⟩ := exchange_spent askedSpent built
    rw [ended]
    refine ⟨⟨seen ++ [⟨state.now, .called (.http request)⟩, ⟨state.now, .called .unsubscribe⟩],
      ?_, ?_, ?_, ?_⟩, updateControl_resting spent⟩
    · rw [List.append_assoc]
      exact trace
    · rw [callsIn_append, quiet.calls.eq_nil]
      exact .told subscribed stored built
    · rw [raisedIn_append]
      simpa [raisedIn, Record.event?] using quiet.unreported
    · rw [stoppedIn_append, quiet.unstopped]
      rfl
  · have skipped : state.releasing session =
        ((state.call .detach).hold session.released).updateControl
          Control.stopRenewal := by
      simp only [releasing, if_neg subscribed]
    rw [skipped]
    refine ⟨⟨[], rfl, .untold subscribed, by simp [raisedIn], rfl⟩, ?_⟩
    exact updateControl_spent Control.stopRenewal held rfl undrafted rfl tended.stopRenewal_tasks

theorem stopReceiver_spent (spent : state.Spent) (number : Nat) :
    (state.stopReceiver number).Spent ∧
    (∃ seen, (state.stopReceiver number).trace = seen ++ state.trace ∧
      callsIn seen = [.stopReceiver] ∧ .telemetryChanged ∉ raisedIn seen ∧
      stoppedIn seen = [number]) ∧
    ∀ receiver, (state.stopReceiver number).receivers[number]? = some receiver →
      receiver.listening = false ∧ receiver.consumed = false := by
  have called : (state.call .stopReceiver).Spent := spent.like rfl rfl rfl
  have waited := called.passTo ((state.call .stopReceiver).now + state.delays.stop)
  unfold stopReceiver
  simp only [wait]
  generalize (state.call .stopReceiver).passTo _ = quiet at waited ⊢
  obtain ⟨quietSpent, seen, trace, hushed⟩ := waited
  refine ⟨quietSpent.like rfl rfl rfl,
    ⟨⟨quiet.now, .stopped number⟩ :: (seen ++ [⟨state.now, .called .stopReceiver⟩]),
      ?_, ?_, ?_, ?_⟩,
    fun receiver found => ?_⟩
  · rw [List.cons_append, List.append_assoc]
    exact congrArg (List.cons _) trace
  · have unseen : callsIn (⟨quiet.now, .stopped number⟩ :: (seen ++ [_])) =
        callsIn (seen ++ [⟨state.now, .called .stopReceiver⟩]) := rfl
    rw [unseen, callsIn_append, hushed.calls.eq_nil]
    rfl
  · have unseen : raisedIn (⟨quiet.now, .stopped number⟩ :: (seen ++ [_])) =
        raisedIn (seen ++ [⟨state.now, .called .stopReceiver⟩]) := rfl
    rw [unseen, raisedIn_append]
    simpa [raisedIn, Record.event?] using hushed.unreported
  · have closed : stoppedIn (⟨quiet.now, .stopped number⟩ :: (seen ++ [_])) =
        number :: stoppedIn (seen ++ [⟨state.now, .called .stopReceiver⟩]) := rfl
    rw [closed, stoppedIn_append, hushed.unstopped]
    rfl
  · have changed : (quiet.updateReceiver number
        Receiver.stop).receivers[number]? =
          some receiver := found
    obtain ⟨old, _, rfl⟩ := updateReceiver_found changed
    rw [if_pos rfl]
    exact ⟨rfl, rfl⟩

theorem stopSession_tornDown (isHeld : state.held = some session) (serves : session.Serves)
    (undrafted : state.draft = none) :
    TornDown session state state.stopSession ∧ state.stopSession.Spent := by
  have released := releasing_released serves undrafted
  obtain ⟨spent, ⟨closing, closed, calls, unreported, stopped⟩, deaf⟩ :=
    stopReceiver_spent released.spent session.receiver
  obtain ⟨seen, trace, ending, unreportedSoFar, unstopped⟩ := released.seen
  rw [stopSession_eq isHeld serves.alive]
  refine ⟨⟨⟨_, released, rfl⟩, ⟨closing ++ (seen ++ [⟨state.now, .called .detach⟩]), callsIn seen,
    ?_, ending, ?_, ?_, ?_⟩, deaf⟩, spent⟩
  · rw [closed, trace]
    simp
  · rw [callsIn_append, callsIn_append, calls]
    rfl
  · rw [raisedIn_append, raisedIn_append]
    simpa [unreported, unreportedSoFar] using by simp [raisedIn, Record.event?]
  · rw [stoppedIn_append, stoppedIn_append, stopped, unstopped]
    rfl

end State

/-- A session in use can be ended properly, and none is being set up. -/
structure State.Serving (state : State) : Prop where
  held : ∀ session, state.held = some session → session.Serves
  undrafted : state.draft = none

namespace State.Serving

variable {state : State} {session : Session}

theorem like {after : State} (serving : state.Serving) (held : after.held = state.held)
    (draft : after.draft = state.draft) : after.Serving := by
  refine ⟨?_, draft.trans serving.undrafted⟩
  rw [held]
  exact serving.held

theorem of_held (isHeld : state.held = some session) (serves : session.Serves)
    (undrafted : state.draft = none) : state.Serving := by
  refine ⟨fun other otherHeld => ?_, undrafted⟩
  obtain rfl := Option.some.inj (isHeld.symm.trans otherHeld)
  exact serves

theorem of_unheld (unheld : state.held = none) (undrafted : state.draft = none) :
    state.Serving := by
  refine ⟨fun session isHeld => ?_, undrafted⟩
  cases unheld.symm.trans isHeld

theorem send_held (state : State) (request : Request) :
    (state.send request).1.held = state.held := by
  unfold send
  split <;> rfl

theorem send (serving : state.Serving) (request : Request) : (state.send request).1.Serving :=
  serving.like (send_held state request) (state.send_keeps request).1

theorem receive (serving : state.Serving) (number : Nat) (body : String) :
    (state.receive number body).Serving := by
  rcases state.receive_cases number body with same | ⟨session, rfl, taken⟩
  · rw [same]
    exact serving
  · rcases taken.place with ⟨isHeld, held, draft⟩ | ⟨isDraft, _⟩
    · obtain ⟨alive, tended, endable⟩ := serving.held session isHeld
      refine .of_held held ⟨(session.receive_alive body).trans alive,
        session.receive_tended tended body, fun subscribed => ?_⟩ (draft.trans serving.undrafted)
      rw [session.receive_status] at subscribed
      rw [session.receive_eq]
      exact endable subscribed
    · cases serving.undrafted.symm.trans isDraft

theorem resume (serving : state.Serving) (serves : session.Serves) {task : RenewalTask}
    (runs : task ∈ session.control.tasks) (next : Option Renewal) :
    (state.hold (session.resume task next)).Serving :=
  .of_held rfl (serves.resume runs next) serving.undrafted

theorem sendFor (serving : state.Serving) (serves : session.Serves) {task : RenewalTask}
    (runs : task ∈ session.control.tasks) (request : Request) (next : Exchange → Renewal) :
    (state.sendFor session task request next).Serving :=
  (serving.send request).resume serves runs _

/-- A subscription that goes on, or is replaced by another, can be ended like the one before. -/
theorem renewed (serving : state.Serving) (serves : session.Serves) {task : RenewalTask}
    (runs : task ∈ session.control.tasks) {answer : Answer} {grant : Grant}
    (granted : readGrant session.control.device.eventUrl answer = .ok grant) (now : Nat) :
    (state.hold { session with control := session.control.renewed task grant now }).Serving := by
  have tended := serves.tended.renewed runs grant now
  refine .of_held rfl ⟨serves.alive, tended, fun subscribed => ?_⟩ serving.undrafted
  obtain ⟨sid, _, sendable⟩ := serves.endable subscribed
  exact ⟨grant.sid, rfl, unsubscribe_built sendable rfl (readGrant_readable granted)⟩

theorem reported (serving : state.Serving) (task : RenewalTask) : (state.reported task).Serving :=
  reported_cases state task serving fun _ _ _ => serving.like rfl rfl

theorem continueRenewal (serving : state.Serving) (isHeld : state.held = some session)
    {task : RenewalTask} (runs : task ∈ session.control.tasks) :
    (state.continueRenewal session task).Serving := by
  have serves := serving.held session isHeld
  have told := serving.reported task
  have turn := state.continueRenewal_turn session task
  generalize state.reported task = reported at told turn
  generalize state.continueRenewal session task = after at turn ⊢
  cases turn with
  | ends | sleeps _ => exact told.resume serves runs _
  | granted granted => exact told.renewed serves runs granted _
  | renews _ | subscribes _ => exact told.sendFor serves runs _ _

theorem steady : Steady State.Serving where
  aside := fun serving held draft _ _ _ _ => serving.like held draft
  tell := fun serving _ => serving.like rfl rfl
  note := fun serving _ => serving.like rfl rfl
  receive := fun number body serving => serving.receive number body
  renew := fun serving isHeld runs => serving.continueRenewal isHeld runs

/-- A session that has just been begun can be ended. -/
theorem established {before : State} {device : Device} {callback : Option String} {status : Status}
    {sid : Option String} (established : Established before device status sid state)
    (decided : statusAfter? (before.subscription device.eventUrl callback) = some (status, sid)) :
    state.Serving := by
  obtain ⟨session, isHeld, alive, _, isDevice, isStatus, isSid, _, tended, _⟩ := established.session
  refine .of_held isHeld ⟨alive, tended, fun subscribed => ?_⟩ established.undrafted
  obtain rfl : status = .subscribed := isStatus.symm.trans subscribed
  cases callback with
  | none => cases decided
  | some callback =>
      cases answer : before.subscription device.eventUrl (some callback) with
      | error failure =>
          rw [answer, statusAfter?] at decided
          split at decided <;> cases decided
      | ok grant =>
          rw [answer] at decided
          cases decided
          have answered : readGrant device.eventUrl
              (before.send (subscribe device.eventUrl callback)).2.answer = .ok grant := answer
          have sendable : (unsubscribe device.eventUrl grant.sid).built?.isSome = true :=
            unsubscribe_built (built_of_granted answered) rfl (readGrant_readable answered)
          refine ⟨grant.sid, isSid, ?_⟩
          rw [isDevice]
          exact sendable

theorem startSession (serving : state.Serving) (unheld : state.held = none) (location : String) :
    (state.startSession location).1.Serving := by
  have attempted := startSession_attempted unheld serving.undrafted location
  generalize state.startSession location = started at attempted ⊢
  obtain ⟨after, start⟩ := started
  cases attempted with
  | unreachable _ _ attempt undrafted _ => exact .of_unheld attempt.unheld undrafted
  | undescribed _ _ attempt undrafted _ => exact .of_unheld attempt.unheld undrafted
  | unbound _ _ attempt undrafted _ => exact .of_unheld attempt.unheld undrafted
  | established _ _ decided isEstablished _ _ => exact .established isEstablished decided
  | undone _ _ _ _ undone _ => exact .of_unheld undone.unheld undone.undrafted

theorem changeHeldVolume (serving : state.Serving) (level : Media.Level) :
    (state.changeHeldVolume level).1.Serving := by
  unfold State.changeHeldVolume
  split
  · exact serving
  · have called : (state.call (.setVolume level)).Serving := serving.like rfl rfl
    exact steady.passTo (called.send _) _

theorem shutdown (serving : state.Serving) : state.shutdown.Serving := by
  cases shutting : state.controller.shuttingDown with
  | true =>
      rw [shutdown_again shutting]
      exact serving
  | false =>
      rw [shutdown_running shutting]
      have ending : state.ending.Serving := serving.like rfl rfl
      refine .of_unheld rfl ?_
      cases isHeld : state.ending.held with
      | none =>
          unfold stopSession
          rw [isHeld]
          exact ending.undrafted
      | some session =>
          have serves := ending.held session isHeld
          exact (stopSession_tornDown isHeld serves ending.undrafted).2.undrafted

theorem lasting : Enduring State.Serving where
  toSteady := steady
  start := fun location serving unheld _ => serving.startSession unheld location
  volume := fun level serving => serving.changeHeldVolume level
  shutdown := fun serving => serving.shutdown
  surround := fun _ _ _ _ serving => serving.like rfl rfl

end State.Serving

namespace State

end State

end Televisor.Run
