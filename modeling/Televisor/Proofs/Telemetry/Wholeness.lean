import Televisor.Proofs.Rendering.Outcome
import Televisor.Proofs.Telemetry.Aftermath

namespace Televisor.Run

open Network Rendering Telemetry

/-! A session comes about whole or not at all. -/

/-- What a renderer's reply to a subscription makes of a session: its status, and the name of the
subscription. -/
inductive Verdict (reply : Reply) : Status → Option String → Prop where
  | granted {sid} (success : reply.isSuccess = true) (named : reply.header? "sid" = some sid) :
      Verdict reply .subscribed (some sid)
  | rejected (failure : reply.isSuccess = false) : Verdict reply .rejected none

theorem statusAfter?_readGrant (url : String) (answer : Answer) (status : Status)
    (sid : Option String) : statusAfter? (readGrant url answer) = some (status, sid) ↔
      ∃ reply, answer = .reply reply ∧ Verdict reply status sid := by
  constructor
  · intro decided
    cases answer with
    | breakdown reason =>
        cases reason <;> simp [readGrant, statusAfter?, failureOf, Failure.isRejection] at decided
    | reply reply =>
        refine ⟨reply, rfl, ?_⟩
        cases success : reply.isSuccess with
        | false =>
            simp only [readGrant, success, Bool.not_false, if_true, statusAfter?,
              Failure.isRejection] at decided
            cases decided
            exact .rejected success
        | true =>
            simp only [readGrant, success, Bool.not_true, Bool.false_eq_true, if_false] at decided
            cases named : reply.header? "sid" with
            | none => simp [named, statusAfter?, Failure.isRejection] at decided
            | some name =>
                simp only [named, statusAfter?] at decided
                cases decided
                exact .granted success named
  · rintro ⟨reply, rfl, verdict⟩
    cases verdict with
    | granted success named => simp [readGrant, success, named, statusAfter?]
    | rejected failure => simp [readGrant, failure, statusAfter?, Failure.isRejection]

/-- The renderer is described, a receiver listens for it, and it replies to the subscription. -/
structure Answered (state : State) (location : String) (device : Device) (callback : String)
    (reply : Reply) : Prop where
  described : readDevice location (state.answerTo (fetch location)) = .ok device
  binds : state.host.startFails = false
  called : state.host.callback? = some callback
  replied : state.answerTo (subscribe device.eventUrl callback) = .reply reply

/-- A failure before a receiver listens. -/
inductive Unprovided (state : State) (location : String) : Rendering.Failure → Prop where
  | undescribed {failure}
      (failed : readDevice location (state.answerTo (fetch location)) = .error failure)
      (reached : failure.isConnection = false) : Unprovided state location failure
  | unbound {device}
      (described : readDevice location (state.answerTo (fetch location)) = .ok device)
      (fails : state.host.startFails = true) : Unprovided state location (.io "cannot bind")

/-- A failure when a receiver listens already. -/
inductive Unsubscribed (state : State) (location : String) (device : Device) :
    Rendering.Failure → Prop where
  | uncalled (described : readDevice location (state.answerTo (fetch location)) = .ok device)
      (binds : state.host.startFails = false) (nowhere : state.host.callback? = none) :
      Unsubscribed state location device notListening
  | unanswered {callback failure}
      (described : readDevice location (state.answerTo (fetch location)) = .ok device)
      (binds : state.host.startFails = false) (called : state.host.callback? = some callback)
      (failed : readGrant device.eventUrl
        (state.answerTo (subscribe device.eventUrl callback)) = .error failure)
      (accepted : failure.isRejection = false) : Unsubscribed state location device failure

section Reading

variable {state after : State} {location : String} {start : Start}

theorem Attempted.of_note
    (attempted : Attempted (state.note (.starting location)) location after start) :
    Attempted state location after start := by
  have described : (state.note (.starting location)).description location =
      state.description location :=
    congrArg (readDevice location) (State.answerTo_congr _ rfl rfl)
  have asked (url : String) (callback : Option String) :
      (state.note (.starting location)).subscription url callback =
        state.subscription url callback :=
    State.subscription_congr _ _ fun _ _ => State.answerTo_congr _ rfl rfl
  have noted := state.note_lull (.starting location) rfl
  have fromHere {made : List Call} (attempt : Attempt (state.note (.starting location)) made after) :
      Attempt state made after := by
    refine ⟨attempt.unheld, attempt.host, noted.trace.trans attempt.trace, ?_⟩
    rw [attempt.calls, noted.calls]
  cases attempted with
  | unreachable failed connection attempt undrafted receivers =>
      exact .unreachable (described ▸ failed) connection (fromHere attempt) undrafted receivers
  | undescribed failed reached attempt undrafted receivers =>
      exact .undescribed (described ▸ failed) reached (fromHere attempt) undrafted receivers
  | unbound found fails attempt undrafted receivers =>
      exact .unbound (described ▸ found) fails (fromHere attempt) undrafted receivers
  | established found binds decided established trace calls =>
      rw [asked] at decided
      exact .established (described ▸ found) binds decided
        ⟨established.session, established.undrafted, established.receivers⟩
        (noted.trace.trans trace) (noted.calls ▸ calls)
  | undone found binds refused accepted undone attempt =>
      rw [asked] at refused
      exact .undone (described ▸ found) binds refused accepted
        ⟨undone.released, undone.unheld, undone.undrafted, undone.receivers⟩ (fromHere attempt)

/-- What the subscription is answered, if the renderer knows whom to send events to. -/
theorem Answered.subscription {device : Device} {callback : String} {reply : Reply}
    (answered : Answered state location device callback reply) :
    state.subscription device.eventUrl state.host.callback? =
      readGrant device.eventUrl (.reply reply) := by
  rw [answered.called, State.subscription, answered.replied]

theorem Unsubscribed.subscription {device : Device} {failure : Rendering.Failure}
    (unsubscribed : Unsubscribed state location device failure) :
    state.description location = .ok device ∧ state.host.startFails = false ∧
      state.subscription device.eventUrl state.host.callback? = .error failure ∧
      failure.isRejection = false := by
  cases unsubscribed with
  | uncalled described binds nowhere =>
      refine ⟨described, binds, ?_, rfl⟩
      rw [nowhere]
      rfl
  | unanswered described binds called failed accepted =>
      refine ⟨described, binds, ?_, accepted⟩
      rw [called]
      exact failed

namespace Attempted

variable (attempted : Attempted state location after start)
include attempted

theorem of_unreached {failure : Rendering.Failure}
    (failed : state.description location = .error failure) (connection : failure.isConnection = true) :
    start = .unreachable := by
  cases attempted with
  | unreachable _ _ _ _ _ => rfl
  | undescribed described reached _ _ _ =>
      cases failed.symm.trans described
      simp [connection] at reached
  | unbound described _ _ _ _ => cases failed.symm.trans described
  | established described _ _ _ _ _ => cases failed.symm.trans described
  | undone described _ _ _ _ _ => cases failed.symm.trans described

theorem of_unprovided {failure : Rendering.Failure}
    (unprovided : Unprovided state location failure) : start = .failed failure := by
  cases unprovided with
  | undescribed failed reached =>
      have known : state.description location = .error failure := failed
      cases attempted with
      | unreachable described connection _ _ _ =>
          cases known.symm.trans described
          simp [connection] at reached
      | undescribed described _ _ _ _ =>
          cases known.symm.trans described
          rfl
      | unbound described _ _ _ _ => cases known.symm.trans described
      | established described _ _ _ _ _ => cases known.symm.trans described
      | undone described _ _ _ _ _ => cases known.symm.trans described
  | unbound found fails =>
      have known : state.description location = .ok _ := found
      cases attempted with
      | unreachable described _ _ _ _ => cases known.symm.trans described
      | undescribed described _ _ _ _ => cases known.symm.trans described
      | unbound _ _ _ _ _ => rfl
      | established _ binds _ _ _ _ => simp [fails] at binds
      | undone _ binds _ _ _ _ => simp [fails] at binds

theorem of_answered {device : Device} {callback : String} {reply : Reply} {status : Status}
    {sid : Option String} (answered : Answered state location device callback reply)
    (verdict : Verdict reply status sid) :
    start = .session ∧ Established state device status sid after := by
  have known : state.description location = .ok device := answered.described
  have decision : statusAfter? (state.subscription device.eventUrl state.host.callback?) =
      some (status, sid) := by
    rw [answered.subscription]
    exact (statusAfter?_readGrant _ _ _ _).mpr ⟨reply, rfl, verdict⟩
  cases attempted with
  | unreachable described _ _ _ _ => cases known.symm.trans described
  | undescribed described _ _ _ _ => cases known.symm.trans described
  | unbound _ fails _ _ _ => simp [answered.binds] at fails
  | established described _ decided established _ _ =>
      cases known.symm.trans described
      cases decision.symm.trans decided
      exact ⟨rfl, established⟩
  | undone described _ refused accepted _ _ =>
      cases known.symm.trans described
      simp [refused, statusAfter?, accepted] at decision

theorem of_unsubscribed {device : Device} {failure : Rendering.Failure}
    (unsubscribed : Unsubscribed state location device failure) :
    start = .failed failure ∧ Undone state after ∧
      callsIn after.trace = [.stopReceiver, .detach] ++ (setUpCalls state.host device ++
        (receiverCalls state.host ++ (requestsOf (fetch location) ++ callsIn state.trace))) := by
  obtain ⟨known, binding, answer, accepted⟩ := unsubscribed.subscription
  cases attempted with
  | unreachable described _ _ _ _ => cases known.symm.trans described
  | undescribed described _ _ _ _ => cases known.symm.trans described
  | unbound _ fails _ _ _ => simp [binding] at fails
  | established described _ decided _ _ _ =>
      cases known.symm.trans described
      simp [answer, statusAfter?, accepted] at decided
  | undone described _ refused _ undone attempt =>
      cases known.symm.trans described
      cases answer.symm.trans refused
      refine ⟨rfl, undone, ?_⟩
      rw [attempt.calls]
      simp only [List.append_assoc]

/-- Every outcome has its reason. -/
theorem reason : (start = .unreachable ∧ ∃ failure, state.description location = .error failure ∧
      failure.isConnection = true) ∨
    (start = .session ∧ ∃ device callback reply status sid,
      Answered state location device callback reply ∧ Verdict reply status sid) ∨
    ∃ failure, start = .failed failure ∧ (Unprovided state location failure ∨
      ∃ device, Unsubscribed state location device failure) := by
  cases attempted with
  | unreachable described connection _ _ _ => exact .inl ⟨rfl, _, described, connection⟩
  | undescribed described reached _ _ _ =>
      exact .inr (.inr ⟨_, rfl, .inl (.undescribed described reached)⟩)
  | unbound described fails _ _ _ => exact .inr (.inr ⟨_, rfl, .inl (.unbound described fails)⟩)
  | @established device status sid described binds decided _ _ _ =>
      cases called : state.host.callback? with
      | none => simp [called, State.subscription, statusAfter?, notListening, Failure.isRejection] at decided
      | some callback =>
          rw [called] at decided
          obtain ⟨reply, replied, verdict⟩ := (statusAfter?_readGrant _ _ _ _).mp decided
          exact .inr (.inl ⟨rfl, device, callback, reply, status, sid,
            ⟨described, binds, called, replied⟩, verdict⟩)
  | @undone device failure described binds refused accepted _ _ =>
      refine .inr (.inr ⟨failure, rfl, .inr ⟨device, ?_⟩⟩)
      cases called : state.host.callback? with
      | none =>
          rw [called] at refused
          cases refused
          exact .uncalled described binds called
      | some callback =>
          rw [called] at refused
          exact .unanswered described binds called refused accepted

theorem untouched (unreachable : start = .unreachable) :
    after.receivers = state.receivers ∧
      callsIn after.trace = requestsOf (fetch location) ++ callsIn state.trace := by
  cases attempted with
  | unreachable _ _ attempt _ receivers => exact ⟨receivers, attempt.calls⟩
  | _ => contradiction

/-- Where there is no session there is nothing left of one. -/
theorem vacant (none : start ≠ .session) : after.Vacant ∧
    ∃ added, after.receivers = state.receivers ++ added ∧
      ∀ receiver ∈ added, receiver.listening = false ∧ receiver.consumed = false := by
  have silent : ∀ receiver ∈ [Receiver.new state.host],
      receiver.listening = false ∧ receiver.consumed = false := by
    simp
  cases attempted with
  | unreachable _ _ attempt undrafted receivers =>
      exact ⟨⟨attempt.unheld, undrafted⟩, [], by simp [receivers], by simp⟩
  | undescribed _ _ attempt undrafted receivers =>
      exact ⟨⟨attempt.unheld, undrafted⟩, [], by simp [receivers], by simp⟩
  | unbound _ _ attempt undrafted receivers =>
      exact ⟨⟨attempt.unheld, undrafted⟩, _, receivers, silent⟩
  | established _ _ _ _ _ _ => contradiction
  | undone _ _ _ _ undone _ => exact ⟨⟨undone.unheld, undone.undrafted⟩, _, undone.receivers, silent⟩

end Attempted

end Reading

namespace State

/-- A session comes about exactly when its renderer is described, a receiver listens and the renderer
replies to the subscription, be it with a grant or with a refusal; it is whole then. -/
theorem session_whole_or_undone (state : State) (location : String) (unheld : state.held = none)
    (undrafted : state.draft = none) :
    let after := (state.startSession location).1
    let start := (state.startSession location).2
    (start = .unreachable ↔ ∃ message,
      state.answerTo (fetch location) = .breakdown (.connect message) ∨
      state.answerTo (fetch location) = .breakdown (.timeout message)) ∧
    (start = .unreachable → after.receivers = state.receivers ∧
      callsIn after.trace = requestsOf (fetch location) ++ callsIn state.trace) ∧
    (start = .session ↔ ∃ device callback reply status sid,
      Answered state location device callback reply ∧ Verdict reply status sid) ∧
    (∀ device callback reply status sid, Answered state location device callback reply →
      Verdict reply status sid → Established state device status sid after) ∧
    (∀ failure, start = .failed failure ↔ Unprovided state location failure ∨
      ∃ device, Unsubscribed state location device failure) ∧
    (∀ device failure, Unsubscribed state location device failure → Undone state after ∧
      callsIn after.trace = [.stopReceiver, .detach] ++ (setUpCalls state.host device ++
        (receiverCalls state.host ++ (requestsOf (fetch location) ++ callsIn state.trace)))) ∧
    (start ≠ .session → after.held = none ∧ after.draft = none ∧
      (∃ added, after.receivers = state.receivers ++ added ∧
        ∀ receiver ∈ added, receiver.listening = false ∧ receiver.consumed = false) ∧
      ∀ operations, ∃ seen, (after.run operations).trace = seen ++ after.trace ∧ Heralded seen) := by
  intro after start
  have attempted := (startSession_attempted unheld undrafted location).of_note
  refine ⟨?_, ?_, ?_, ?_, ?_, ?_, ?_⟩
  · rw [← readDevice_unreached location]
    constructor
    · intro unreachable
      rcases attempted.reason with ⟨_, failed⟩ | ⟨same, _⟩ | ⟨failure, same, _⟩
      · exact failed
      · cases unreachable.symm.trans same
      · cases unreachable.symm.trans same
    · rintro ⟨failure, failed, connection⟩
      exact attempted.of_unreached failed connection
  · exact attempted.untouched
  · constructor
    · intro session
      rcases attempted.reason with ⟨same, _⟩ | ⟨_, answered⟩ | ⟨failure, same, _⟩
      · cases session.symm.trans same
      · exact answered
      · cases session.symm.trans same
    · rintro ⟨device, callback, reply, status, sid, answered, verdict⟩
      exact (attempted.of_answered answered verdict).1
  · intro device callback reply status sid answered verdict
    exact (attempted.of_answered answered verdict).2
  · intro failure
    constructor
    · intro failed
      rcases attempted.reason with ⟨same, _⟩ | ⟨same, _⟩ | ⟨other, same, reason⟩
      · cases failed.symm.trans same
      · cases failed.symm.trans same
      · cases failed.symm.trans same
        exact reason
    · rintro (unprovided | ⟨device, unsubscribed⟩)
      · exact attempted.of_unprovided unprovided
      · exact (attempted.of_unsubscribed unsubscribed).1
  · intro device failure unsubscribed
    exact (attempted.of_unsubscribed unsubscribed).2
  · intro none
    obtain ⟨vacant, added⟩ := attempted.vacant none
    refine ⟨vacant.held, vacant.draft, added, fun operations => ?_⟩
    obtain ⟨seen, trace, heralded, _⟩ := (vacant.run operations).trace
    exact ⟨seen, trace, heralded⟩

/-- A renderer that describes itself, and a host where no receiver can be called. -/
def uncalled : State :=
  { plain with
    host := ⟨none, false, 3, true, 8058, "/notify/6f2c"⟩
    replies := [("GET", [⟨.reply ⟨200, [], "<service><serviceType>RenderingControl</serviceType>" ++
      "<controlURL>/control</controlURL><eventSubURL>/events</eventSubURL></service>", false⟩, 5⟩])] }

def uncalledDevice : Device :=
  ⟨"http://10.0.0.2/tv", none, "RenderingControl", "http://10.0.0.2/control",
    "http://10.0.0.2/events"⟩

theorem uncalled_session_undone : uncalled.held = none ∧ uncalled.draft = none ∧
    (uncalled.startSession "http://10.0.0.2/tv").2 = .failed notListening ∧
    Undone uncalled (uncalled.startSession "http://10.0.0.2/tv").1 := by
  have read : (readDevice "http://10.0.0.2/tv"
      (uncalled.answerTo (fetch "http://10.0.0.2/tv"))).toOption = some uncalledDevice := by
    decide +kernel
  have described : readDevice "http://10.0.0.2/tv"
      (uncalled.answerTo (fetch "http://10.0.0.2/tv")) = .ok uncalledDevice := by
    cases answer : readDevice "http://10.0.0.2/tv" (uncalled.answerTo (fetch "http://10.0.0.2/tv")) with
    | ok device =>
        rw [answer] at read
        exact congrArg Except.ok (Option.some.inj read)
    | error failure =>
        rw [answer] at read
        contradiction
  have unsubscribed : Unsubscribed uncalled "http://10.0.0.2/tv" uncalledDevice notListening :=
    .uncalled described rfl rfl
  have whole := session_whole_or_undone uncalled "http://10.0.0.2/tv" rfl rfl
  exact ⟨rfl, rfl, (whole.2.2.2.2.1 _).mpr (.inr ⟨_, unsubscribed⟩),
    (whole.2.2.2.2.2.1 _ _ unsubscribed).1⟩

end State

end Televisor.Run
