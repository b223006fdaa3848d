import Televisor.Proofs.Run.Lull

namespace Televisor.Network

/-- Which answer a scripted one ends with does not depend on when it is asked for. -/
theorem Scripted.exchange_answer (scripted : Scripted) (limit : Option Nat) (now later : Nat) :
    (scripted.exchange limit now).answer = (scripted.exchange limit later).answer := by
  cases limit with
  | none => rfl
  | some limit =>
      simp only [exchange]
      split <;> rfl

/-- A reply to one method is not taken from those to another. -/
theorem Replies.next_find_other (replies : Replies) {method other : String}
    (different : other ≠ method) :
    (replies.next method).2.find? (·.1 == other) = replies.find? (·.1 == other) := by
  unfold Replies.next
  split
  · rename_i name first second rest _
    rw [List.find?_map]
    have names : ((fun queue : String × List Scripted => queue.1 == other) ∘ fun queue =>
        if queue.1 == method then (method, second :: rest) else queue) =
        fun queue => queue.1 == other := by
      funext queue
      by_cases isMethod : queue.1 = method <;> simp [isMethod]
    rw [names]
    cases found : replies.find? (·.1 == other) with
    | none => rfl
    | some queue =>
        have isOther : queue.1 = other := by simpa using List.find?_some found
        simp [isOther, different]
  · rfl
  · rfl

theorem Replies.next_first {replies later : Replies} {method : String}
    (same : later.find? (·.1 == method) = replies.find? (·.1 == method)) :
    (later.next method).1 = (replies.next method).1 := by
  unfold Replies.next
  rw [same]
  split <;> rfl

end Televisor.Network

namespace Televisor.Run

open Network Rendering Telemetry

/-! How a session is begun.  Whatever the renderer and the host answer, and however long they take,
there is a session in the end or nothing is left of it. -/

namespace State

/-- The answer that a request gets if it is sent now. -/
def answerTo (state : State) (request : Request) : Answer :=
  (state.send request).2.answer

theorem answerTo_congr {state after : State} (request : Request)
    (replies : after.replies.find? (·.1 == request.method) =
      state.replies.find? (·.1 == request.method))
    (patience : after.patience = state.patience) :
    after.answerTo request = state.answerTo request := by
  unfold answerTo send
  cases found : request.built? with
  | none => rfl
  | some built =>
      rw [← Request.built?_method found] at replies
      simp only [Replies.next_first replies, patience]
      exact Scripted.exchange_answer _ _ _ _

end State

/-- The calls that a request comes to: none if it cannot be built. -/
def requestsOf (request : Request) : List Call :=
  request.built?.toList.map .http

/-- What is done while no session is held; the calls are those made on the way, the latest first. -/
structure Attempt (before : State) (made : List Call) (after : State) : Prop where
  unheld : after.held = none
  host : after.host = before.host
  trace : before.trace <:+ after.trace
  calls : callsIn after.trace = made ++ callsIn before.trace

/-- What comes before a renderer is asked for its events. -/
structure Preparation (before : State) (made : List Call) (after : State) : Prop
    extends Attempt before made after where
  draft : after.draft.map Session.deaf = before.draft.map Session.deaf
  answers : ∀ request, request.method = "SUBSCRIBE" →
    after.answerTo request = before.answerTo request

section Ways

variable {before middle after : State} {made more : List Call}

theorem Attempt.trans (first : Attempt before made middle) (second : Attempt middle more after) :
    Attempt before (more ++ made) after where
  unheld := second.unheld
  host := second.host.trans first.host
  trace := first.trace.trans second.trace
  calls := by rw [second.calls, first.calls, List.append_assoc]

theorem Preparation.trans (first : Preparation before made middle)
    (second : Preparation middle more after) : Preparation before (more ++ made) after where
  toAttempt := first.toAttempt.trans second.toAttempt
  draft := second.draft.trans first.draft
  answers := fun request asks => (second.answers request asks).trans (first.answers request asks)

theorem Lull.preparation (lull : Lull before after) (unheld : before.held = none) :
    Preparation before [] after where
  unheld := lull.held.trans unheld
  host := lull.host
  trace := lull.trace
  calls := lull.calls
  draft := lull.draft
  answers := fun request _ => State.answerTo_congr request (by rw [lull.replies]) lull.patience

/-- Nothing waits meanwhile. -/
theorem Attempt.lull (attempt : Attempt before made middle) (lull : Lull middle after) :
    Attempt before made after :=
  attempt.trans (lull.preparation attempt.unheld).toAttempt

theorem Preparation.lull (preparation : Preparation before made middle) (lull : Lull middle after) :
    Preparation before made after :=
  preparation.trans (lull.preparation preparation.unheld)

end Ways

namespace State

variable {state : State}

theorem call_preparation (unheld : state.held = none) (call : Call) :
    Preparation state [call] (state.call call) where
  unheld := unheld
  host := rfl
  trace := List.suffix_cons _ _
  calls := rfl
  draft := rfl
  answers := fun request _ => answerTo_congr request rfl rfl

theorem send_attempt (unheld : state.held = none) (request : Request) :
    Attempt state (requestsOf request) (state.send request).1 := by
  unfold send requestsOf
  cases found : request.built? with
  | none => exact ⟨unheld, rfl, List.suffix_refl _, rfl⟩
  | some built => exact ⟨unheld, rfl, List.suffix_cons _ _, rfl⟩

theorem send_keeps (state : State) (request : Request) : (state.send request).1.draft = state.draft ∧
    (state.send request).1.receivers = state.receivers ∧
    (state.send request).1.patience = state.patience := by
  unfold send
  split
  · exact ⟨rfl, rfl, rfl⟩
  · exact ⟨rfl, rfl, rfl⟩

theorem send_answers {request other : Request} (different : other.method ≠ request.method) :
    (state.send request).1.answerTo other = state.answerTo other := by
  refine answerTo_congr other ?_ (state.send_keeps request).2.2
  unfold send
  cases found : request.built? with
  | none => rfl
  | some built =>
      rw [← Request.built?_method found] at different
      exact Replies.next_find_other _ different

theorem exchange_lull (unheld : state.held = none) (request : Request) :
    Lull (state.send request).1 (state.exchange request).1 :=
  passTo_lull (send_attempt unheld request).unheld _

theorem exchange_attempt (unheld : state.held = none) (request : Request) :
    Attempt state (requestsOf request) (state.exchange request).1 :=
  (send_attempt unheld request).lull (exchange_lull unheld request)

theorem exchange_draft (unheld : state.held = none) (request : Request) :
    (state.exchange request).1.draft.map Session.deaf = state.draft.map Session.deaf := by
  rw [(exchange_lull unheld request).draft, (state.send_keeps request).1]

theorem exchange_receivers (unheld : state.held = none) (request : Request) :
    (state.exchange request).1.receivers = state.receivers :=
  (exchange_lull unheld request).receivers.trans (state.send_keeps request).2.1

theorem exchange_preparation (unheld : state.held = none) {request : Request}
    (other : request.method ≠ "SUBSCRIBE") :
    Preparation state (requestsOf request) (state.exchange request).1 where
  toAttempt := exchange_attempt unheld request
  draft := exchange_draft unheld request
  answers := fun asking asks => by
    have lull := exchange_lull unheld request
    rw [answerTo_congr asking (by rw [lull.replies]) lull.patience]
    exact send_answers (asks ▸ other.symm)

end State

/-- The address that a receiver set up on this host would be called by. -/
def Host.callback? (host : Host) : Option String :=
  (Receiver.new host).listen.callback?

namespace State

variable {state : State}

theorem receivers_preparation (unheld : state.held = none) (receivers : List Receiver) :
    Preparation state [] { state with receivers := receivers } where
  unheld := unheld
  host := rfl
  trace := List.suffix_refl _
  calls := rfl
  draft := rfl
  answers := fun request _ => answerTo_congr request rfl rfl

theorem modify_last (earlier : List Receiver) (last : Receiver) (change : Receiver → Receiver) :
    (earlier ++ [last]).modify earlier.length change = earlier ++ [change last] := by
  induction earlier with
  | nil => rfl
  | cons first rest ih => exact congrArg (first :: ·) ih

/-- A receiver that is set up listens, unless the host does not let it. -/
theorem startReceiver_spec (unheld : state.held = none) :
    Preparation state [.startReceiver, .receiver (Receiver.new state.host).source]
      state.startReceiver.1 ∧
    state.startReceiver.1.receivers =
      state.receivers ++
        [if state.host.startFails then .new state.host else (Receiver.new state.host).listen] ∧
    state.startReceiver.2 =
      if state.host.startFails then .error (.io "cannot bind") else .ok state.receivers.length := by
  have routed := wait_lull unheld state.delays.route
  unfold startReceiver
  generalize state.wait state.delays.route = found at routed
  have unheldFound := routed.held.trans unheld
  have called := call_preparation unheldFound (.receiver (Receiver.new found.host).source)
  have added : Preparation found [.receiver (Receiver.new found.host).source] found.addReceiver.1 :=
    called.trans (receivers_preparation called.unheld _)
  have number : found.addReceiver.2 = state.receivers.length := by
    simp only [addReceiver, routed.receivers]
  have receivers : (found.addReceiver.1.call .startReceiver).receivers =
      state.receivers ++ [Receiver.new state.host] := by
    simp only [call, note, addReceiver, routed.receivers, routed.host]
  have binding := (routed.preparation unheld).trans
    (added.trans (call_preparation added.unheld .startReceiver))
  simp only [number]
  generalize found.addReceiver.1.call .startReceiver = asking at receivers binding ⊢
  rw [routed.host] at binding
  have bound := wait_lull binding.unheld asking.host.startDelay
  have ready := binding.lull bound
  have same := bound.receivers.trans receivers
  generalize asking.wait asking.host.startDelay = bounded at ready same
  rw [binding.host]
  cases fails : state.host.startFails with
  | true => exact ⟨ready, same, rfl⟩
  | false =>
      have listens := receivers_preparation ready.unheld
        (bounded.receivers.modify state.receivers.length Receiver.listen)
      refine ⟨(ready.trans listens).lull (note_lull _ (.listening state.receivers.length) rfl), ?_, rfl⟩
      simp only [note, updateReceiver, same]
      exact modify_last _ _ _

/-- What becomes of asking a renderer for its events now. -/
def subscription (state : State) (url : String) (callback : Option String) : Except Failure Grant :=
  match callback with
  | none => .error notListening
  | some callback => readGrant url (state.answerTo (subscribe url callback))

end State

/-- The calls made to ask a renderer for its events, for good. -/
def subscriptionCalls (url : String) : Option String → List Call
  | none => [.subscribe true]
  | some callback => requestsOf (subscribe url callback) ++ [.subscribe true]

namespace State

variable {state : State}

theorem askForEvents_outcome (state : State) (control : Control) (renewing : Bool) :
    (state.askForEvents control renewing).2 =
      state.subscription control.device.eventUrl control.callback := by
  unfold askForEvents subscription
  cases control.callback with
  | none => rfl
  | some callback =>
      have same : (state.call (.subscribe renewing)).answerTo
          (subscribe control.device.eventUrl callback) =
            state.answerTo (subscribe control.device.eventUrl callback) :=
        answerTo_congr _ rfl rfl
      exact congrArg (readGrant control.device.eventUrl) same

theorem askForEvents_attempt (unheld : state.held = none) (control : Control) :
    Attempt state (subscriptionCalls control.device.eventUrl control.callback)
      (state.askForEvents control true).1 ∧
    (state.askForEvents control true).1.draft.map Session.deaf = state.draft.map Session.deaf ∧
    (state.askForEvents control true).1.receivers = state.receivers := by
  have called := call_preparation unheld (.subscribe true)
  unfold askForEvents subscriptionCalls
  cases control.callback with
  | none => exact ⟨called.toAttempt, rfl, rfl⟩
  | some callback =>
      have asked := exchange_attempt called.unheld (subscribe control.device.eventUrl callback)
      refine ⟨(called.toAttempt.trans asked).lull (note_lull _ (.answered (.caller true) _) rfl), ?_, ?_⟩
      · exact exchange_draft called.unheld _
      · exact exchange_receivers called.unheld _

theorem stopReceiver_attempt (unheld : state.held = none) (undrafted : state.draft = none)
    {earlier : List Receiver} {last : Receiver} (receivers : state.receivers = earlier ++ [last]) :
    Attempt state [.stopReceiver] (state.stopReceiver earlier.length) ∧
    (state.stopReceiver earlier.length).draft = none ∧
    (state.stopReceiver earlier.length).receivers =
      earlier ++ [last.stop] := by
  have called := call_preparation unheld .stopReceiver
  have ended := wait_lull called.unheld state.delays.stop
  have before := called.lull ended
  have same := ended.receivers.trans receivers
  have draft : ((state.call .stopReceiver).wait state.delays.stop).draft.map Session.deaf = none := by
    rw [ended.draft]
    exact congrArg _ undrafted
  unfold stopReceiver
  simp only
  generalize (state.call .stopReceiver).wait state.delays.stop = quiet at before same draft ⊢
  have silenced := receivers_preparation before.unheld
    (quiet.receivers.modify earlier.length Receiver.stop)
  refine ⟨((before.trans silenced).lull (note_lull _ (.stopped earlier.length) rfl)).toAttempt,
    Option.map_eq_none_iff.mp draft, ?_⟩
  simp only [note, updateReceiver, same]
  exact modify_last _ _ _

end State

/-- What a subscription that is answered makes of a session, if there is to be one. -/
def statusAfter? : Except Rendering.Failure Grant → Option (Status × Option String)
  | .ok grant => some (.subscribed, some grant.sid)
  | .error failure => if failure.isRejection then some (.rejected, none) else none

theorem statusAfter?_eq_none {answer : Except Rendering.Failure Grant}
    (undecided : statusAfter? answer = none) :
    ∃ failure, answer = .error failure ∧ failure.isRejection = false := by
  cases answer with
  | ok grant => contradiction
  | error failure =>
      simp only [statusAfter?] at undecided
      split at undecided
      · contradiction
      · rename_i accepted
        exact ⟨failure, rfl, by simpa using accepted⟩

/-- There is a session, whole, with a receiver that listens for it. -/
structure Established (before : State) (device : Device) (status : Status) (sid : Option String)
    (after : State) : Prop where
  session : ∃ session, after.held = some session ∧ session.alive = true ∧
    session.control.attached = true ∧ session.control.device = device ∧ session.status = status ∧
    session.control.sid = sid ∧ session.control.renewal.isSome = sid.isSome ∧
    session.control.Tended ∧ session.receiver = before.receivers.length
  undrafted : after.draft = none
  receivers : after.receivers =
    before.receivers ++ [(Receiver.new before.host).listen.consume]

/-- Nothing is left of a session that was being set up: its handler went first, then the handle, and
then the receiver was stopped. -/
structure Undone (before after : State) : Prop where
  released : ∃ released : State, released.held = none ∧ released.draft = none ∧
    released.trace.head? = some ⟨released.now, .called .detach⟩ ∧
    after = released.stopReceiver before.receivers.length
  unheld : after.held = none
  undrafted : after.draft = none
  receivers : after.receivers = before.receivers ++ [Receiver.new before.host]

/-- The calls made to set up a session, up to the answer to its subscription. -/
def setUpCalls (host : Host) (device : Device) : List Call :=
  subscriptionCalls device.eventUrl host.callback? ++ [.attach]

namespace State

variable {before state : State}

theorem subscription_congr (url : String) (callback : Option String) {after : State}
    (answers : ∀ request, request.method = "SUBSCRIBE" →
      after.answerTo request = state.answerTo request) :
    after.subscription url callback = state.subscription url callback := by
  cases callback with
  | none => rfl
  | some callback => exact congrArg (readGrant url) (answers (subscribe url callback) rfl)

/-- What is made of a session that is being set up once its subscription has been answered. -/
def conclude (state : State) (number : Nat) : Except Rendering.Failure Grant → State × Start
  | .ok grant =>
    (state.adopt fun session =>
      { session with control := session.control.granted grant state.now, status := .subscribed },
      .session)
  | .error failure =>
    if failure.isRejection then
      (state.adopt fun session => { session with status := .rejected }, .session)
    else (state.abandon number, .failed failure)

/-- The session that is being set up, as far as events do not touch it. -/
structure Drafted (before : State) (device : Device) (state : State) : Prop where
  unheld : state.held = none
  session : ∃ session, state.draft = some session ∧ session.deaf = Session.fresh
    (.ofDevice device before.host.callback?) before.receivers.length
  receivers : state.receivers =
    before.receivers ++ [(Receiver.new before.host).listen.consume]

theorem setUp_conclude (unheld : state.held = none)
    (started : state.receivers =
      before.receivers ++ [(Receiver.new before.host).listen]) (device : Device) :
    ∃ waited, Attempt state (setUpCalls before.host device) waited ∧ Drafted before device waited ∧
      state.setUp device before.receivers.length = waited.conclude before.receivers.length
        (state.subscription device.eventUrl before.host.callback?) := by
  have callback : (state.receivers[before.receivers.length]?).bind Receiver.callback? =
      before.host.callback? := by
    rw [started, List.getElem?_concat_length]
    rfl
  have consuming := receivers_preparation unheld
    (state.receivers.modify before.receivers.length Receiver.consume)
  have attached := consuming.trans (call_preparation consuming.unheld .attach)
  have receivers : state.receivers.modify before.receivers.length Receiver.consume =
      before.receivers ++ [(Receiver.new before.host).listen.consume] := by
    rw [started]
    exact modify_last _ _ _
  let session := Session.fresh (.ofDevice device before.host.callback?) before.receivers.length
  let attaching := (state.updateReceiver before.receivers.length
    Receiver.consume).call .attach
  have drafted : Attempt state [.attach] { attaching with draft := some session } :=
    ⟨attached.unheld, attached.host, attached.trace, attached.calls⟩
  obtain ⟨asked, draft, kept⟩ := askForEvents_attempt drafted.unheld session.control
  obtain ⟨session', isDraft, deaf⟩ := Option.map_eq_some_iff.mp draft
  have answered := askForEvents_outcome { attaching with draft := some session } session.control
    true
  have same : ({ attaching with draft := some session }.askForEvents session.control true).2 =
      state.subscription device.eventUrl before.host.callback? :=
    answered.trans (subscription_congr _ _ fun request _ => answerTo_congr request rfl rfl)
  refine ⟨_, drafted.trans asked, ⟨asked.unheld, ⟨session', isDraft, deaf⟩, kept.trans receivers⟩, ?_⟩
  rw [← same, setUp, callback]
  rfl

variable {device : Device}

theorem adopt_held {session : Session} (isDraft : state.draft = some session)
    (finish : Session → Session) : (state.adopt finish).held = some (finish session) := by
  simp only [adopt, isDraft, Option.map_some]

theorem Drafted.establish {waited : State} (drafted : Drafted before device waited)
    (answer : Except Rendering.Failure Grant) {status : Status} {sid : Option String}
    (decided : statusAfter? answer = some (status, sid)) :
    (waited.conclude before.receivers.length answer).2 = .session ∧
    Established before device status sid (waited.conclude before.receivers.length answer).1 ∧
    (waited.conclude before.receivers.length answer).1.trace = waited.trace := by
  obtain ⟨session, isDraft, deaf⟩ := drafted.session
  have control : session.deaf.control = _ := congrArg Session.control deaf
  have alive : session.alive = true := congrArg Session.alive deaf
  have receiver : session.receiver = before.receivers.length := congrArg Session.receiver deaf
  have attached : session.control.attached = true := congrArg Control.attached control
  have known : session.control.device = device := congrArg Control.device control
  have idle : session.control.tasks = [] := congrArg Control.tasks control
  have tended : session.control.Tended := .of_idle idle
  cases answer with
  | ok grant =>
      cases decided
      exact ⟨rfl, ⟨⟨_, adopt_held isDraft _, alive, attached, known, rfl, rfl, rfl,
        tended.granted grant waited.now, receiver⟩, rfl, drafted.receivers⟩, rfl⟩
  | error failure =>
      simp only [statusAfter?] at decided
      split at decided
      · rename_i rejection
        cases decided
        have sid : session.control.sid = none := congrArg Control.sid control
        have renewal : session.control.renewal = none := congrArg Control.renewal control
        have concluded : waited.conclude before.receivers.length (.error failure) =
            (waited.adopt fun session => { session with status := .rejected }, .session) :=
          if_pos rejection
        rw [concluded]
        exact ⟨rfl, ⟨⟨_, adopt_held isDraft _, alive, attached, known, rfl, sid, by rw [renewal]; rfl,
          tended, receiver⟩, rfl, drafted.receivers⟩, rfl⟩
      · contradiction

theorem Drafted.undo {waited : State} (drafted : Drafted before device waited)
    {failure : Rendering.Failure} (accepted : failure.isRejection = false) :
    (waited.conclude before.receivers.length (.error failure)).2 = .failed failure ∧
    Undone before (waited.conclude before.receivers.length (.error failure)).1 ∧
    Attempt waited [.stopReceiver, .detach]
      (waited.conclude before.receivers.length (.error failure)).1 := by
  have concluded : waited.conclude before.receivers.length (.error failure) =
      (waited.abandon before.receivers.length, .failed failure) :=
    if_neg (by simp [accepted])
  have detached := call_preparation drafted.unheld .detach
  have released : Attempt waited [.detach] { waited.call .detach with draft := none } :=
    ⟨detached.unheld, detached.host, detached.trace, detached.calls⟩
  obtain ⟨stopped, undrafted, receivers⟩ :=
    stopReceiver_attempt released.unheld rfl drafted.receivers
  rw [concluded]
  exact ⟨rfl, ⟨⟨_, released.unheld, rfl, rfl, rfl⟩, stopped.unheld, undrafted, receivers⟩,
    released.trans stopped⟩

/-- What becomes of the description of a renderer if it is fetched now. -/
def description (state : State) (location : String) : Except Rendering.Failure Device :=
  readDevice location (state.answerTo (fetch location))

end State

/-- The calls made to have a receiver listen. -/
def receiverCalls (host : Host) : List Call :=
  [.startReceiver, .receiver (Receiver.new host).source]

/-- How the attempt to begin a session ends. -/
inductive Attempted (state : State) (location : String) (after : State) : Start → Prop where
  | unreachable {failure} (described : state.description location = .error failure)
      (connection : failure.isConnection = true)
      (attempt : Attempt state (requestsOf (fetch location)) after)
      (undrafted : after.draft = none) (receivers : after.receivers = state.receivers) :
      Attempted state location after .unreachable
  | undescribed {failure} (described : state.description location = .error failure)
      (reached : failure.isConnection = false)
      (attempt : Attempt state (requestsOf (fetch location)) after)
      (undrafted : after.draft = none) (receivers : after.receivers = state.receivers) :
      Attempted state location after (.failed failure)
  | unbound {device} (described : state.description location = .ok device)
      (fails : state.host.startFails = true)
      (attempt : Attempt state (receiverCalls state.host ++ requestsOf (fetch location)) after)
      (undrafted : after.draft = none)
      (receivers : after.receivers = state.receivers ++ [Receiver.new state.host]) :
      Attempted state location after (.failed (.io "cannot bind"))
  | established {device status sid} (described : state.description location = .ok device)
      (binds : state.host.startFails = false)
      (decided : statusAfter? (state.subscription device.eventUrl state.host.callback?) =
        some (status, sid))
      (established : Established state device status sid after)
      (trace : state.trace <:+ after.trace)
      (calls : callsIn after.trace = setUpCalls state.host device ++ (receiverCalls state.host ++
        (requestsOf (fetch location) ++ callsIn state.trace))) :
      Attempted state location after .session
  | undone {device failure} (described : state.description location = .ok device)
      (binds : state.host.startFails = false)
      (refused : state.subscription device.eventUrl state.host.callback? = .error failure)
      (accepted : failure.isRejection = false) (undone : Undone state after)
      (attempt : Attempt state ([.stopReceiver, .detach] ++ (setUpCalls state.host device ++
        (receiverCalls state.host ++ requestsOf (fetch location)))) after) :
      Attempted state location after (.failed failure)

namespace State

variable {state : State}

theorem setUp_attempted {location : String} {prepared : State} {device : Device}
    (described : state.description location = .ok device) (binds : state.host.startFails = false)
    (way : Preparation state (receiverCalls state.host ++ requestsOf (fetch location)) prepared)
    (started : prepared.receivers =
      state.receivers ++ [(Receiver.new state.host).listen]) :
    Attempted state location (prepared.setUp device state.receivers.length).1
      (prepared.setUp device state.receivers.length).2 := by
  obtain ⟨waited, asked, drafted, concludes⟩ := setUp_conclude way.unheld started device
  have attempt := way.toAttempt.trans asked
  rw [concludes, subscription_congr _ _ way.answers]
  cases decided : statusAfter? (state.subscription device.eventUrl state.host.callback?) with
  | some verdict =>
      obtain ⟨start, established, trace⟩ := drafted.establish _ decided
      rw [start]
      refine .established described binds decided established ?_ ?_
      · exact trace ▸ attempt.trace
      · rw [trace, attempt.calls, List.append_assoc, List.append_assoc]
  | none =>
      obtain ⟨failure, refused, accepted⟩ := statusAfter?_eq_none decided
      rw [refused]
      obtain ⟨start, undone, cleared⟩ := drafted.undo accepted
      rw [start]
      exact .undone described binds refused accepted undone (attempt.trans cleared)

theorem exchange_snd (state : State) (request : Request) : (state.exchange request).2 = state.answerTo request :=
  rfl

/-- From the moment the attempt is noted. -/
theorem startSession_attempted (unheld : state.held = none) (undrafted : state.draft = none)
    (location : String) :
    Attempted (state.note (.starting location)) location (state.startSession location).1
      (state.startSession location).2 := by
  generalize isNoted : state.note (.starting location) = noted
  have unheldNoted : noted.held = none := isNoted ▸ unheld
  have undraftedNoted : noted.draft = none := isNoted ▸ undrafted
  have fetches : (fetch location).method ≠ "SUBSCRIBE" := by simp [fetch]
  have fetched := exchange_preparation unheldNoted fetches
  have receivers := exchange_receivers unheldNoted (fetch location)
  have answer := noted.exchange_snd (fetch location)
  unfold startSession
  rw [isNoted]
  generalize noted.exchange (fetch location) = fetching at fetched receivers answer ⊢
  obtain ⟨found, reply⟩ := fetching
  simp only at fetched receivers answer ⊢
  have described : noted.description location = readDevice location reply := by
    rw [answer, description]
  have undraftedFound : found.draft = none := by
    have draft := fetched.draft
    rwa [undraftedNoted, Option.map_none, Option.map_eq_none_iff] at draft
  cases read : readDevice location reply with
  | error failure =>
      rw [read] at described
      simp only
      cases connection : failure.isConnection with
      | true => exact .unreachable described connection fetched.toAttempt undraftedFound receivers
      | false => exact .undescribed described connection fetched.toAttempt undraftedFound receivers
  | ok device =>
      rw [read] at described
      obtain ⟨started, added, outcome⟩ := startReceiver_spec fetched.unheld
      rw [fetched.host] at started added outcome
      rw [receivers] at added outcome
      generalize found.startReceiver = starting at started added outcome ⊢
      obtain ⟨prepared, listening⟩ := starting
      simp only at started added outcome ⊢
      have way := fetched.trans started
      cases fails : noted.host.startFails with
      | true =>
          simp only [fails, if_true] at outcome added
          subst outcome
          have undraftedThen : prepared.draft = none := by
            have draft := started.draft
            rwa [undraftedFound, Option.map_none, Option.map_eq_none_iff] at draft
          exact .unbound described fails way.toAttempt undraftedThen added
      | false =>
          simp only [fails, Bool.false_eq_true, if_false] at outcome added
          subst outcome
          exact setUp_attempted described fails way added

end State

end Televisor.Run
