import Mathlib.Logic.Relation
import Televisor.Proofs.Telemetry.Beginning
import Televisor.Proofs.Telemetry.Housing

namespace Televisor.Telemetry

/-- What is left of a session when its subscription is taken away. -/
def Session.bare (session : Session) : Session :=
  { session with control := { session.control with sid := none, tasks := [], slot := none, spawned := 0 } }

/-- What becomes of a session that is not in use any more. -/
def Session.released (session : Session) : Session :=
  { session with
    control := { session.control with attached := false }, status := .unsubscribed, alive := false }

end Televisor.Telemetry

namespace Televisor.Run

open Controller Discovery Network Rendering Telemetry Relation

/-! Everything that is done, as far as sessions and what they tell are concerned.  A `Touch` is one
thing that is done; every function of the controller is a chain of them. -/

/-- What was seen has to do with no session and shows nothing. -/
def Record.Foreign (record : Record) : Prop :=
  match record.what with
  | .took .. | .raised .telemetryChanged | .published _ | .listening _ | .answered (.caller _) _ =>
    False
  | _ => True

/-- Whether what comes to the receiver is taken. -/
def State.consumes (state : State) (number : Nat) : Bool :=
  (state.receivers[number]?).any (·.consumed)

/-- A session is set up with its receiver, and has not asked for events yet. -/
def State.drafting (state : State) (session : Session) : State :=
  { (state.updateReceiver session.receiver Receiver.consume).call .attach with
    draft := some session }

/-- Sessions were left alone, but for their subscriptions, and so was what the controller knows of
them. -/
structure Aloof (before after : State) : Prop where
  trace : ∃ seen, after.trace = seen ++ before.trace ∧ ∀ record ∈ seen, record.Foreign
  held : after.held.map Session.bare = before.held.map Session.bare
  draft : after.draft.map Session.bare = before.draft.map Session.bare
  volume : after.controller.volume = before.controller.volume
  muted : after.controller.muted = before.controller.muted
  shuttingDown : after.controller.shuttingDown = before.controller.shuttingDown
  consumes : ∀ number, before.consumes number = true → after.consumes number = true

inductive Touch (before : State) : State → Prop where
  | aloof {after} (aloof : Aloof before after) : Touch before after
  | listening {number} (fresh : number ∉ begunIn before.trace) (unheld : before.held = none) :
      Touch before
        ((before.updateReceiver number Receiver.listen).note (.listening number))
  | answered {renewing answer} (unheld : before.held = none) :
      Touch before (before.note (.answered (.caller renewing) answer))
  /-- A session is set up with the receiver that has just begun to listen. -/
  | drafted {device callback number time earlier}
      (listens : before.trace = ⟨time, .listening number⟩ :: earlier)
      (fresh : number ∉ begunIn earlier) (present : number < before.receivers.length)
      (unheld : before.held = none) (undrafted : before.draft = none)
      (running : before.controller.shuttingDown = false) :
      Touch before (before.drafting (.fresh (.ofDevice device callback) number))
  | received (number : Nat) (body : String) : Touch before (before.receive number body)
  | granted {session grant} (isDraft : before.draft = some session) (unheld : before.held = none) :
      Touch before (before.adopt fun session =>
        { session with
          control := session.control.granted grant before.now, status := .subscribed })
  /-- The subscription has just been answered, and refused. -/
  | rejected {session reply time earlier} (isDraft : before.draft = some session)
      (unheld : before.held = none)
      (answered : before.trace = ⟨time, .answered (.caller true) (.reply reply)⟩ :: earlier)
      (refused : reply.isSuccess = false) :
      Touch before (before.adopt fun session => { session with status := .rejected })
  | dropped : Touch before { before.call .detach with draft := none }
  | detached {session} (isHeld : before.held = some session) :
      Touch before ((before.call .detach).hold session.released)
  /-- No session that is in use has this receiver. -/
  | closed {number}
      (spare : ∀ session, before.held = some session → session.alive = false)
      (undrafted : before.draft = none) :
      Touch before ((before.updateReceiver number
        Receiver.stop).note (.stopped number))
  | ending : Touch before before.ending
  | forgotten (shutting : before.controller.shuttingDown = true) (undrafted : before.draft = none) :
      Touch before { before with held := none }
  | refreshed : Touch before before.refresh
  | published : Touch before before.publish

abbrev Touches : State → State → Prop :=
  ReflTransGen Touch

namespace Aloof

variable {before middle after : State}

theorem refl (state : State) : Aloof state state :=
  ⟨⟨[], rfl, by simp⟩, rfl, rfl, rfl, rfl, rfl, fun _ => id⟩

theorem trans (first : Aloof before middle) (second : Aloof middle after) : Aloof before after where
  trace := by
    obtain ⟨seen, trace, foreign⟩ := first.trace
    obtain ⟨later, traceLater, foreignLater⟩ := second.trace
    refine ⟨later ++ seen, ?_, fun record member => ?_⟩
    · rw [traceLater, trace, List.append_assoc]
    · exact (List.mem_append.mp member).elim (foreignLater record) (foreign record)
  held := second.held.trans first.held
  draft := second.draft.trans first.draft
  volume := second.volume.trans first.volume
  muted := second.muted.trans first.muted
  shuttingDown := second.shuttingDown.trans first.shuttingDown
  consumes := fun number => second.consumes number ∘ first.consumes number

theorem unseen (trace : after.trace = before.trace) (held : after.held = before.held)
    (draft : after.draft = before.draft) (receivers : after.receivers = before.receivers)
    (volume : after.controller.volume = before.controller.volume)
    (muted : after.controller.muted = before.controller.muted)
    (shuttingDown : after.controller.shuttingDown = before.controller.shuttingDown) :
    Aloof before after where
  trace := ⟨[], trace, by simp⟩
  held := by rw [held]
  draft := by rw [draft]
  volume := volume
  muted := muted
  shuttingDown := shuttingDown
  consumes := by
    intro number
    rw [State.consumes, State.consumes, receivers]
    exact id

theorem touches (aloof : Aloof before after) : Touches before after :=
  .single (.aloof aloof)

end Aloof

namespace State

variable (state : State)

theorem note_aloof (what : Occurrence) (foreign : Record.Foreign ⟨state.now, what⟩) :
    Aloof state (state.note what) :=
  ⟨⟨[⟨state.now, what⟩], rfl, by simpa using foreign⟩, rfl, rfl, rfl, rfl, rfl, fun _ => id⟩

theorem call_aloof (call : Call) : Aloof state (state.call call) :=
  state.note_aloof (.called call) trivial

theorem raise_aloof {event : Event} (other : event ≠ .telemetryChanged) :
    Aloof state (state.raise event) := by
  have foreign : Record.Foreign ⟨state.now, .raised event⟩ := by
    cases event with
    | telemetryChanged => exact absurd rfl other
    | _ => trivial
  exact (state.note_aloof _ foreign).trans (.unseen rfl rfl rfl rfl rfl rfl rfl)

theorem send_aloof (request : Request) : Aloof state (state.send request).1 := by
  unfold send
  split
  · exact .refl state
  · rename_i built _
    exact (state.call_aloof (.http built)).trans (.unseen rfl rfl rfl rfl rfl rfl rfl)

theorem refuse_aloof : Aloof state state.refuse := by
  have refused : Aloof state
      { state with controller := { state.controller with authFailed := true } } :=
    .unseen rfl rfl rfl rfl rfl rfl rfl
  exact refused.trans (raise_aloof _ nofun)

theorem deliver_aloof (apps : Apps) : Aloof state (state.deliver apps) := by
  have delivered : Aloof state ({ state with
      gate := state.gate.deliver apps
      discovery := state.discovery.bind Phase.delivered? }.note (.delivered apps)) :=
    ⟨⟨[⟨state.now, .delivered apps⟩], rfl, by simp [Record.Foreign]⟩, rfl, rfl, rfl, rfl, rfl,
      fun _ => id⟩
  exact delivered.trans (raise_aloof _ nofun)

theorem reach_aloof (instant : Nat) : Aloof state (state.reach instant) :=
  .unseen rfl rfl rfl rfl rfl rfl rfl

theorem continueDiscovery_aloof (phase : Phase) : Aloof state (state.continueDiscovery phase) := by
  cases phase with
  | requesting due =>
      simp only [continueDiscovery]
      split <;> exact .unseen rfl rfl rfl rfl rfl rfl rfl
  | waiting deadline => exact .unseen rfl rfl rfl rfl rfl rfl rfl

theorem hold_aloof {session after : Session} (isHeld : state.held.map Session.bare = some session.bare)
    (same : after.bare = session.bare) : Aloof state (state.hold after) :=
  ⟨⟨[], rfl, by simp⟩, (congrArg some same).trans isHeld.symm, rfl, rfl, rfl, rfl, fun _ => id⟩

theorem sendFor_aloof {session : Session} (isHeld : state.held.map Session.bare = some session.bare)
    (task : RenewalTask) (request : Request) (next : Exchange → Renewal) :
    Aloof state (state.sendFor session task request next) := by
  have sent := state.send_aloof request
  exact sent.trans (hold_aloof _ (sent.held.trans isHeld) rfl)

theorem reported_aloof (task : RenewalTask) : Aloof state (state.reported task) := by
  refine reported_cases state task (.refl state) fun asker answer asked => ?_
  refine state.note_aloof (.answered asker answer) ?_
  rcases asked with rfl | rfl <;> exact trivial

theorem continueRenewal_aloof {session : Session} (isHeld : state.held = some session)
    (task : RenewalTask) : Aloof state (state.continueRenewal session task) := by
  have reported := state.reported_aloof task
  have bare : (state.reported task).held.map Session.bare = some session.bare := by
    rw [state.reported_held task, isHeld, Option.map_some]
  have turn := state.continueRenewal_turn session task
  generalize state.reported task = told at reported turn bare
  generalize state.continueRenewal session task = after at turn ⊢
  refine reported.trans ?_
  cases turn with
  | ends | sleeps _ | granted _ => exact told.hold_aloof bare rfl
  | renews _ | subscribes _ => exact told.sendFor_aloof bare task _ _

theorem happen_touches (what : Happening) : Touches state (state.happen what) := by
  cases what with
  | apps apps => exact (state.deliver_aloof apps).touches
  | body number body => exact .single (.received number body)
  | delivery number delivery =>
      exact state.happen_delivery number delivery .refl fun body => .single (.received number body)
  | refusal => exact state.refuse_aloof.touches

theorem perform_touches {activity : Activity} (next : state.nextActivity? = some activity) :
    Touches state (state.perform activity) := by
  have reached := (state.reach_aloof activity.due).touches
  rcases nextActivity?_cases next with ⟨phase, _, rfl⟩ | ⟨arrival, later, _, rfl⟩ |
    ⟨session, task, isHeld, _, rfl⟩
  · exact reached.trans (continueDiscovery_aloof _ phase).touches
  · have taken : Aloof (state.reach arrival.due)
        { state.reach arrival.due with arrivals := later } :=
      .unseen rfl rfl rfl rfl rfl rfl rfl
    exact (reached.trans taken.touches).trans (happen_touches _ arrival.what)
  · have renewed := continueRenewal_aloof (state.reach task.due) isHeld task
    exact reached.trans renewed.touches

theorem passWhile_touches (instant : Nat) (more : State → Bool) :
    Touches state (passWhile instant more state) := by
  refine passWhile_keeps (Touches state) ?_ instant more .refl
  intro middle activity touches next
  exact touches.trans (middle.perform_touches next)

theorem passTo_touches (instant : Nat) : Touches state (state.passTo instant) :=
  (state.passWhile_touches instant _).trans (reach_aloof _ instant).touches

theorem wait_touches (duration : Nat) : Touches state (state.wait duration) :=
  state.passTo_touches _

theorem awaitDiscovery_touches : Touches state state.awaitDiscovery := by
  unfold awaitDiscovery
  split
  · exact state.passWhile_touches _ _
  · exact .refl

theorem demand_touches (call : Call) (duration : Nat) :
    Touches state ((state.call call).wait duration) :=
  (state.call_aloof call).touches.trans (wait_touches _ duration)

theorem exchange_touches (request : Request) : Touches state (state.exchange request).1 :=
  (state.send_aloof request).touches.trans (passTo_touches _ _)

theorem addReceiver_aloof : Aloof state state.addReceiver.1 := by
  have called := state.call_aloof (.receiver (Receiver.new state.host).source)
  refine ⟨called.trace, rfl, rfl, rfl, rfl, rfl, fun number consumes => ?_⟩
  obtain ⟨receiver, found, consumed⟩ := (Option.any_eq_true _ _).mp consumes
  have present : number < state.receivers.length := (List.getElem?_eq_some_iff.mp found).1
  refine (Option.any_eq_true _ _).mpr ⟨receiver, ?_, consumed⟩
  exact (List.getElem?_append_left present).trans found

variable {state} {number : Nat}

theorem fresh_of_lodged {time : Nat} {earlier : List Record} (lodged : Lodged state (some number))
    (listens : state.trace = ⟨time, .listening number⟩ :: earlier) :
    number ∉ begunIn earlier ∧ number < state.receivers.length := by
  have orderly := lodged.orderly
  have numbered := lodged.numbered number
  rw [listens] at orderly numbered
  refine ⟨?_, numbered List.mem_cons_self⟩
  cases orderly with
  | other begins _ _ => contradiction
  | listening fresh _ => exact fresh

theorem startReceiver_touches (lodged : Lodged state none) (settled : state.Settled none) :
    Touches state state.startReceiver.1 ∧
      ∀ number, state.startReceiver.2 = .ok number →
        ∃ time earlier, state.startReceiver.1.trace = ⟨time, .listening number⟩ :: earlier := by
  obtain ⟨seen, course, _⟩ := startReceiver_course (.refl lodged) settled
  have unheld : state.held = none := settled.held_none
  obtain ⟨routing, routed⟩ := state.wait_passage state.delays.route
  have found := (state.wait_touches state.delays.route).trans
    (addReceiver_aloof (state.wait state.delays.route)).touches
  have unheldFound := routed.held_none unheld
  unfold startReceiver at course ⊢
  generalize state.wait state.delays.route = waited at *
  have bindingPassage := (waited.addReceiver.1.call .startReceiver).wait_passage
    waited.addReceiver.1.host.startDelay
  have bound := found.trans
    (waited.addReceiver.1.demand_touches .startReceiver waited.addReceiver.1.host.startDelay)
  simp only at course ⊢
  split
  · exact ⟨bound, nofun⟩
  · rename_i binds
    obtain ⟨binding, passed⟩ := bindingPassage
    have unheldReady := passed.held_none unheldFound
    rw [if_neg binds] at course
    have fresh := (fresh_of_lodged course.lodged rfl).1
    refine ⟨bound.tail (.listening fresh unheldReady), fun number same => ?_⟩
    obtain rfl := Except.ok.inj same
    exact ⟨_, _, rfl⟩

theorem askForEvents_touches (unheld : state.held = none) (control : Control) (renewing : Bool) :
    Touches state (state.askForEvents control renewing).1 := by
  have called := (state.call_aloof (.subscribe renewing)).touches
  unfold askForEvents
  cases control.callback with
  | none => exact called
  | some callback =>
      obtain ⟨seen, asked, _⟩ := (state.call (.subscribe renewing)).exchange_drift
        (subscribe control.device.eventUrl callback)
      exact (called.trans (exchange_touches _ _)).tail (.answered (asked.held_none unheld))

theorem readGrant_rejected {url : String} {answer : Answer} {failure : Rendering.Failure}
    (read : readGrant url answer = .error failure) (rejection : failure.isRejection = true) :
    ∃ reply, answer = .reply reply ∧ reply.isSuccess = false := by
  cases answer with
  | breakdown reason =>
      obtain rfl : failureOf url reason = failure := Except.error.inj read
      cases reason <;> contradiction
  | reply reply =>
      cases success : reply.isSuccess with
      | false => exact ⟨reply, rfl, success⟩
      | true =>
          simp only [readGrant, success] at read
          split at read
          · contradiction
          · split at read
            · obtain rfl := Except.error.inj read
              contradiction
            · contradiction

theorem askForEvents_rejected {control : Control} {renewing : Bool} {failure : Rendering.Failure}
    (asked : (state.askForEvents control renewing).2 = .error failure)
    (rejection : failure.isRejection = true) :
    ∃ reply time earlier, (state.askForEvents control renewing).1.trace =
      ⟨time, .answered (.caller renewing) (.reply reply)⟩ :: earlier ∧ reply.isSuccess = false := by
  unfold askForEvents at asked ⊢
  cases callback : control.callback with
  | none =>
      rw [callback] at asked
      obtain rfl : notListening = failure := Except.error.inj asked
      contradiction
  | some callback' =>
      simp only [callback] at asked ⊢
      obtain ⟨reply, same, unsuccessful⟩ := readGrant_rejected asked rejection
      exact ⟨reply, _, _, by rw [same]; rfl, unsuccessful⟩

theorem spare_of_still {after : State}
    (still : after.held.map Session.still = state.held.map Session.still)
    (spare : ∀ session, state.held = some session → session.alive = false) (session : Session)
    (isHeld : after.held = some session) : session.alive = false := by
  have wasHeld : state.held.map Session.still = some session.still := by
    rw [← still, isHeld, Option.map_some]
  obtain ⟨old, isOld, same⟩ := Option.map_eq_some_iff.mp wasHeld
  have alive : old.still.alive = session.still.alive := congrArg Session.alive same
  exact alive.symm.trans (spare old isOld)

theorem stopReceiver_touches (number : Nat)
    (spare : ∀ session, state.held = some session → session.alive = false)
    (undrafted : state.draft = none) : Touches state (state.stopReceiver number) := by
  obtain ⟨seen, passed⟩ := (state.call .stopReceiver).wait_passage state.delays.stop
  have waited := state.demand_touches .stopReceiver state.delays.stop
  exact waited.tail (.closed (spare_of_still passed.held spare) (passed.draft_none undrafted))

theorem abandon_touches (number : Nat) (unheld : state.held = none) :
    Touches state (state.abandon number) := by
  refine .head .dropped (stopReceiver_touches number (fun session isHeld => ?_) rfl)
  cases unheld.symm.trans isHeld

theorem setUp_eq (state : State) (device : Device) (number : Nat) :
    let session := Session.fresh
      (.ofDevice device ((state.receivers[number]?).bind Receiver.callback?)) number
    let asked := (state.drafting session).askForEvents session.control true
    state.setUp device number = asked.1.conclude number asked.2 := rfl

theorem setUp_touches (device : Device) {time : Nat} {earlier : List Record}
    (lodged : Lodged state (some number)) (settled : state.Settled none)
    (listens : state.trace = ⟨time, .listening number⟩ :: earlier)
    (running : state.controller.shuttingDown = false) :
    Touches state (state.setUp device number).1 := by
  obtain ⟨fresh, present⟩ := fresh_of_lodged lodged listens
  rw [state.setUp_eq device number]
  generalize (state.receivers[number]?).bind Receiver.callback? = callback
  have drafted : Touch state (state.drafting (.fresh (.ofDevice device callback) number)) :=
    .drafted listens fresh present settled.held_none settled.draft running
  have unheld : (state.drafting (.fresh (.ofDevice device callback) number)).held = none :=
    settled.held_none
  generalize Session.fresh (.ofDevice device callback) number = session at *
  obtain ⟨seen, drift, _⟩ := askForEvents_drift (state.drafting session) session.control true
  have asked : Touches state ((state.drafting session).askForEvents session.control true).1 :=
    .head drafted (askForEvents_touches unheld _ _)
  have unheldStill := drift.held_none unheld
  have draft : ((state.drafting session).askForEvents session.control true).1.draft.map
      Session.still = some session.still := drift.draft
  obtain ⟨current, isDraft, _⟩ := Option.map_eq_some_iff.mp draft
  cases outcome : ((state.drafting session).askForEvents session.control true).2 with
  | ok grant => exact asked.tail (.granted isDraft unheldStill)
  | error failure =>
      cases rejection : failure.isRejection with
      | true =>
          obtain ⟨reply, time, earlier, answered, refused⟩ :=
            askForEvents_rejected outcome rejection
          simp only [conclude, rejection, if_true]
          exact asked.tail (.rejected isDraft unheldStill answered refused)
      | false =>
          simp only [conclude, rejection, Bool.false_eq_true, if_false]
          exact asked.trans (abandon_touches number unheldStill)

theorem startSession_touches (location : String) (lodged : Lodged state none)
    (settled : state.Settled none) (running : state.controller.shuttingDown = false) :
    Touches state (state.startSession location).1 := by
  have noted := (state.note_aloof (.starting location) trivial).touches
  have fetched := noted.trans (exchange_touches _ (fetch location))
  have lodgedNoted : Lodged (state.note (.starting location)) none := lodged.note _ ⟨rfl, rfl⟩
  have settledNoted : (state.note (.starting location)).Settled none :=
    ⟨settled.held, settled.alive, settled.draft⟩
  obtain ⟨seen, drift, _⟩ := (state.note (.starting location)).exchange_drift (fetch location)
  have lodgedFetched := lodgedNoted.drift drift
  have settledFetched := settledNoted.drift drift
  have runningFetched := drift.shuttingDown.trans running
  unfold startSession
  simp only
  split
  · exact fetched
  · obtain ⟨starting, course, settledStarted⟩ :=
      startReceiver_course (.refl lodgedFetched) settledFetched
    obtain ⟨started, listens⟩ := startReceiver_touches lodgedFetched settledFetched
    have runningStarted := course.shuttingDown.trans runningFetched
    split
    · rename_i refused
      rw [refused] at started
      exact fetched.trans started
    · rename_i device _ _ _ number listening
      rw [listening] at started course settledStarted listens runningStarted
      obtain ⟨time, earlier, trace⟩ := listens number rfl
      exact (fetched.trans started).trans
        (setUp_touches device course.lodged settledStarted trace runningStarted)

theorem updateControl_aloof (change : Control → Control)
    (same : ∀ session : Session,
      ({ session with control := change session.control } : Session).bare = session.bare) :
    Aloof state (state.updateControl change) := by
  refine ⟨⟨[], rfl, by simp⟩, ?_, rfl, rfl, rfl, rfl, fun _ => id⟩
  cases isHeld : state.held <;> simp [updateControl, isHeld, same]

theorem unsubscribeHeld_touches : Touches state state.unsubscribeHeld.1 := by
  have called := (state.call_aloof .unsubscribe).trans
    ((state.call .unsubscribe).updateControl_aloof
      Control.forget fun _ => rfl)
  unfold unsubscribeHeld
  cases state.held with
  | none => exact .refl
  | some session =>
      simp only
      split
      · exact called.touches
      · exact called.touches.trans (exchange_touches _ _)

/-- A session that is not in use any more loses its subscription, its renewal and its receiver. -/
theorem endSession_touches (session : Session)
    (spare : ∀ other, state.held = some other → other.alive = false)
    (undrafted : state.draft = none) :
    let quiet := if session.status = .subscribed then state.unsubscribeHeld.1 else state
    Touches state
      ((quiet.updateControl Control.stopRenewal).stopReceiver session.receiver) := by
  intro quiet
  obtain ⟨ended, seen, drift⟩ : Touches state quiet ∧ ∃ seen, Drift state seen quiet := by
    by_cases subscribed : session.status = .subscribed
    · have same : quiet = state.unsubscribeHeld.1 := if_pos subscribed
      obtain ⟨seen, drift, _⟩ := state.unsubscribeHeld_drift
      rw [same]
      exact ⟨unsubscribeHeld_touches, seen, drift⟩
    · have same : quiet = state := if_neg subscribed
      rw [same]
      exact ⟨.refl, [], .refl state⟩
  have forgotten : Aloof quiet (quiet.updateControl Control.stopRenewal) :=
    updateControl_aloof _ fun _ => rfl
  have rested := drift.trans (quiet.updateControl_drift Control.stopRenewal fun _ => rfl)
  exact (ended.trans forgotten.touches).trans (stopReceiver_touches session.receiver
    (spare_of_still rested.held spare) (rested.draft_none undrafted))

/-- The handler of a session goes before anything else when the session is stopped. -/
theorem stopSession_released {session : Session} (isHeld : state.held = some session)
    (alive : session.alive = true) (undrafted : state.draft = none) :
    Touches ((state.call .detach).hold session.released) state.stopSession := by
  have found : state.held.filter (·.alive) = some session := by
    rw [isHeld, Option.filter_some, if_pos alive]
  unfold stopSession
  rw [found]
  refine endSession_touches session (fun other held => ?_) undrafted
  cases held
  rfl

theorem stopSession_touches (undrafted : state.draft = none) :
    Touches state state.stopSession := by
  cases found : state.held.filter (·.alive) with
  | none =>
      unfold stopSession
      rw [found]
  | some session =>
      obtain ⟨isHeld, alive⟩ := Option.filter_eq_some_iff.mp found
      exact .head (.detached isHeld) (stopSession_released isHeld alive undrafted)

theorem ending_forgotten (housed : state.Housed) :
    Touches state.ending.stopSession { state.ending.stopSession with held := none } := by
  have settled := housed.settled
  have lodged : Lodged state.ending _ := housed.lodged.unchanged rfl rfl
  have settledEnding : state.ending.Settled _ := ⟨settled.held, settled.alive, settled.draft⟩
  obtain ⟨seen, course, undrafted⟩ := stopSession_course lodged settledEnding
  exact .single (.forgotten course.shuttingDown undrafted)

/-- The controller stops its session when it shuts down. -/
theorem shutdown_released (housed : state.Housed) {session : Session}
    (isHeld : state.held = some session) :
    Touches ((state.ending.call .detach).hold session.released) state.shutdown := by
  have running : state.controller.shuttingDown = false := by
    refine Bool.eq_false_iff.mpr fun shutting => ?_
    cases (housed.ended shutting).symm.trans isHeld
  have settled := housed.settled
  have stopped : Touches ((state.ending.call .detach).hold session.released)
      state.ending.stopSession :=
    stopSession_released isHeld (settled.alive session isHeld) settled.draft
  rw [shutdown_running running]
  exact stopped.trans (ending_forgotten housed)

theorem shutdown_touches (housed : state.Housed) : Touches state state.shutdown := by
  cases shutting : state.controller.shuttingDown with
  | true =>
      rewrite [shutdown_again shutting]
      exact .refl
  | false =>
      have stopped : Touches state state.ending.stopSession :=
        .head .ending (stopSession_touches housed.settled.draft)
      rw [shutdown_running shutting]
      exact stopped.trans (ending_forgotten housed)

theorem beginDiscovery_aloof : Aloof state state.beginDiscovery := by
  unfold beginDiscovery promiseApps
  split
  · exact .refl state
  · have called := state.call_aloof .requestAppList
    split
    · exact called.trans (.unseen rfl rfl rfl rfl rfl rfl rfl)
    · split
      · exact (called.trans (deliver_aloof _ _)).trans (.unseen rfl rfl rfl rfl rfl rfl rfl)
      · exact called.trans (.unseen rfl rfl rfl rfl rfl rfl rfl)

theorem startTelemetry_touches {lodger : Option Nat} (lodged : Lodged state lodger)
    (settled : state.Settled lodger) (running : state.controller.shuttingDown = false) :
    Touches state state.startTelemetry := by
  unfold startTelemetry
  split
  · rename_i location unheld _
    have vacant : lodger = none := by
      rw [← settled.held, unheld, Option.map_none]
    subst vacant
    exact startSession_touches location lodged settled running
  · exact .refl

theorem answered_touches (state : State) : Touches state state.answered := by
  have waited := state.demand_touches .isOn state.television.onDelay
  have queried : Touches state state.queryPower.1 := by
    unfold queryPower
    simp only
    split
    · exact waited.trans (refuse_aloof _).touches
    · exact waited
  have adopted : Aloof state.queryPower.1 state.answered := .unseen rfl rfl rfl rfl rfl rfl rfl
  exact queried.trans adopted.touches

theorem gather_touches (housed : state.Housed) : Touches state state.gather := by
  cases held : state.guards.hold with
  | true =>
      rewrite [gather_held state held]
      exact .refl
  | false =>
      cases isOpen : state.controller.isPoweringOff state.now with
      | true =>
          have off : Aloof state (state.setPower .off) := .unseen rfl rfl rfl rfl rfl rfl rfl
          rw [gather_poweringOff state held isOpen]
          exact off.touches
      | false =>
          rw [gather_asking state held isOpen]
          split
          · obtain ⟨rest, asked, _⟩ := answered_asked isOpen housed.lodged housed.settled
            obtain ⟨seen, began, _⟩ := state.answered.beginDiscovery_drift
            have running : state.controller.shuttingDown = false := by
              simpa [guards, Guards.hold] using (Bool.or_eq_false_iff.mp held).2
            have runningNow := began.shuttingDown.trans (asked.shuttingDown.trans running)
            have started := startTelemetry_touches (asked.lodged.drift began)
              (asked.settled.drift began) runningNow
            exact (((state.answered_touches.trans beginDiscovery_aloof.touches).trans started).trans
              (awaitDiscovery_touches _)).tail .refreshed
          · exact state.answered_touches

theorem prepared_touches (command : Command) : Touches state (state.prepared command) := by
  by_cases off : command = .turnOff
  · subst off
    have armed : Aloof state { state with controller := { state.controller with
        window := state.controller.window.arm state.now state.controller.options.pollInterval } } :=
      .unseen rfl rfl rfl rfl rfl rfl rfl
    exact armed.touches.tail .published
  · obtain ⟨playing, same⟩ := prepare_other state.controller state.gate state.now off
    have silent : Aloof state (state.prepared command) := by
      unfold State.prepared
      rw [same, setController_eq]
      exact .unseen (by simp [shows]) rfl rfl rfl rfl rfl rfl
    exact silent.touches

theorem act_touches (action : Action) : Touches state (state.act action).1 := by
  cases action with
  | setVolume level =>
      simp only [act, changeHeldVolume]
      cases state.held.filter (·.alive) with
      | none => exact .refl
      | some session =>
          exact (state.call_aloof (.setVolume level)).touches.trans (exchange_touches _ _)
  | _ => exact state.demand_touches _ _

theorem execute_touches (command : Command) : Touches state (state.execute command).1 := by
  have prepared := state.prepared_touches command
  unfold execute
  simp only
  split
  · exact prepared
  · exact prepared
  · exact prepared.trans (act_touches _)

theorem handleEvent_touches (event : Event) : Touches state (state.handleEvent event) := by
  cases event with
  | telemetryChanged => exact .tail (.single .refreshed) .published
  | _ => exact .single .published

theorem apply_touches (housed : state.Housed) (operation : Operation) :
    Touches state (state.apply operation) := by
  cases operation with
  | poll =>
      rw [apply, tick_eq_publish]
      exact (gather_touches housed).tail .published
  | command command => exact execute_touches command
  | event =>
      simp only [apply, handleFirst]
      split
      · exact .refl
      · rename_i event rest _
        have popped : Aloof state { state with queue := rest } :=
          .unseen rfl rfl rfl rfl rfl rfl rfl
        exact popped.touches.trans (handleEvent_touches event)
  | shutdown => exact shutdown_touches housed
  | pass duration => exact state.wait_touches duration
  | happen what => exact state.happen_touches what
  | expect arrival => exact .single (.aloof (.unseen rfl rfl rfl rfl rfl rfl rfl))
  | surround television host replies delays =>
      exact .single (.aloof (.unseen rfl rfl rfl rfl rfl rfl rfl))

theorem run_touches (housed : state.Housed) (operations : List Operation) :
    Touches state (state.run operations) := by
  induction operations generalizing state with
  | nil => exact .refl
  | cons operation rest ih =>
      rw [run_cons]
      exact (apply_touches housed operation).trans (ih (housed.apply operation))

end State

end Televisor.Run
