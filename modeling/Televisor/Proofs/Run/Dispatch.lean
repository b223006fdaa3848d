import Televisor.Proofs.Power.Suppression
import Televisor.Proofs.Telemetry.Beginning

namespace Televisor.Controller

open Media Remote

/-! A command that is refused has been asked for wrongly, and it changes nothing. -/

/-- A renderer that refuses an action. -/
def Failure.isRefusedAction : Failure → Bool
  | .rendering (.actionResponse ..) => true
  | _ => false

/-- Whatever is refused is the fault of the caller. -/
def Decision.Fair (decision : Decision) : Prop :=
  ∀ failure, decision = .refuse failure → failure.isCallerError = true

namespace Decision

theorem hold_fair : hold.Fair := nofun

theorem act_fair (action : Action) : (act action).Fair := nofun

theorem misuse_fair (fault : Misuse) : (refuse (.misuse fault)).Fair := by
  rintro _ ⟨⟩
  rfl

theorem unsupported_fair (feature : String) : (refuse (.unsupported feature)).Fair := by
  rintro _ ⟨⟩
  rfl

end Decision

open Decision

variable (controller : Controller) (at_ : Circumstances)

theorem decideKeys_cons {now : Nat} (first : String) (rest : List String) :
    decideKeys controller now (first :: rest) = .hold ∨
      decideKeys controller now (first :: rest) = .act (.sendKeys (first :: rest)) := by
  simp only [decideKeys]
  split
  · exact .inl rfl
  · exact .inr rfl

theorem decideKeys_fair (now : Nat) (keys : List String) :
    (decideKeys controller now keys).Fair := by
  cases keys with
  | nil => exact misuse_fair _
  | cons first rest =>
      rcases decideKeys_cons controller first rest with held | sent
      · rw [held]
        exact hold_fair
      · rw [sent]
        exact act_fair _

theorem decideLaunch_fair (id : String) : (decideLaunch controller at_ id).Fair := by
  unfold decideLaunch
  split
  · exact hold_fair
  · split
    · exact act_fair _
    · exact unsupported_fair _

theorem decideTurnOn_fair : (decideTurnOn controller).Fair := by
  unfold decideTurnOn
  split
  · exact act_fair _
  · exact act_fair _
  · exact unsupported_fair _

theorem decideVolume_fair (level : Level) : (decideVolume at_ level).Fair := by
  unfold decideVolume
  split
  · exact misuse_fair _
  · split
    · exact act_fair _
    · exact hold_fair

theorem decideMedia_fair (kind mediaId : String) :
    (decideMedia controller at_ kind mediaId).Fair := by
  unfold decideMedia
  split
  · exact decideLaunch_fair _ _ _
  · split
    · split
      · exact decideKeys_fair _ _ _
      · exact misuse_fair _
    · exact misuse_fair _

theorem decideSource_fair (name : String) : (decideSource controller at_ name).Fair := by
  unfold decideSource
  split
  · exact decideLaunch_fair _ _ _
  · split
    · exact decideKeys_fair _ _ _
    · exact misuse_fair _

theorem decide_fair (command : Command) : (decide controller at_ command).Fair := by
  cases command with
  | turnOn => exact decideTurnOn_fair _
  | turnOff => exact act_fair _
  | launchApp id => exact decideLaunch_fair _ _ _
  | setVolume level => exact decideVolume_fair _ _
  | playMedia kind mediaId => exact decideMedia_fair _ _ _ _
  | selectSource name => exact decideSource_fair _ _ _
  | _ =>
      simp only [decide]
      exact decideKeys_fair _ _ _

/-- A command that changes the controller is never refused. -/
theorem prepare_refused {command : Command} {failure : Failure}
    (refused : decide controller at_ command = .refuse failure) (gate : Discovery.Gate)
    (now : Nat) : prepare controller gate now command = controller := by
  have accepted (key : String) : decideKeys controller at_.now [key] ≠ .refuse failure := by
    rcases decideKeys_cons controller key [] with held | sent
    · rw [held]
      exact Decision.noConfusion
    · rw [sent]
      exact Decision.noConfusion
  cases command with
  | turnOff => cases refused
  | mediaPlay => exact absurd refused (accepted _)
  | mediaPause => exact absurd refused (accepted _)
  | mediaPlayPause => exact absurd refused (accepted _)
  | _ => rfl

variable {controller at_} {action : Action}

theorem decideKeys_act {now : Nat} {keys : List String}
    (decided : decideKeys controller now keys = .act action) : action = .sendKeys keys := by
  cases keys with
  | nil => cases decided
  | cons first rest =>
      rcases decideKeys_cons controller first rest with held | sent
      · cases held.symm.trans decided
      · exact (Decision.act.inj (sent.symm.trans decided)).symm

theorem decideLaunch_act {id : String} (decided : decideLaunch controller at_ id = .act action) :
    action = .launchApp id := by
  unfold decideLaunch at decided
  split at decided
  · cases decided
  · split at decided
    · exact (Decision.act.inj decided).symm
    · cases decided

theorem decideMedia_act {kind mediaId : String}
    (decided : decideMedia controller at_ kind mediaId = .act action) :
    (∃ id, action = .launchApp id) ∨ ∃ keys, action = .sendKeys keys := by
  unfold decideMedia at decided
  split at decided
  · exact .inl ⟨_, decideLaunch_act decided⟩
  · split at decided
    · split at decided
      · exact .inr ⟨_, decideKeys_act decided⟩
      · cases decided
    · cases decided

theorem decideSource_act {name : String}
    (decided : decideSource controller at_ name = .act action) :
    (∃ id, action = .launchApp id) ∨ ∃ keys, action = .sendKeys keys := by
  unfold decideSource at decided
  split at decided
  · exact .inl ⟨_, decideLaunch_act decided⟩
  · split at decided
    · exact .inr ⟨_, decideKeys_act decided⟩
    · cases decided

/-- Only a session that is alive is asked for a volume, and only by the command for it. -/
theorem decide_setVolume {command : Command} {level : Level}
    (decided : decide controller at_ command = .act (.setVolume level)) :
    command = .setVolume level ∧ at_.sessionAlive = true := by
  cases command with
  | turnOn => rcases decideTurnOn_act decided with ⟨_, same⟩ | ⟨_, same⟩ <;> cases same
  | turnOff => cases decided
  | launchApp id => cases decideLaunch_act decided
  | playMedia kind mediaId =>
      rcases decideMedia_act decided with ⟨_, same⟩ | ⟨_, same⟩ <;> cases same
  | selectSource name =>
      rcases decideSource_act decided with ⟨_, same⟩ | ⟨_, same⟩ <;> cases same
  | setVolume asked =>
      simp only [decide, decideVolume] at decided
      split at decided
      · cases decided
      · split at decided
        · rename_i alive
          cases decided
          exact ⟨rfl, alive⟩
        · cases decided
  | _ =>
      simp only [decide] at decided
      cases decideKeys_act decided

end Televisor.Controller

namespace Televisor.Run

open Controller Network

/-! What a command dispatches: a call of somebody else, of which there is at most one.  Its answer
is what becomes of the command. -/

/-- A call that is made for a command. -/
def Call.isDispatch : Call → Bool
  | .powerOff | .sendKeys _ | .launchApp _ | .setVolume _ | .runProgram _ | .wake _ => true
  | _ => false

def dispatchesIn (trace : List Record) : List Call :=
  (callsIn trace).filter Call.isDispatch

/-- A request that subscribes to nothing. -/
def Call.posted? : Call → Option Request
  | .http request => if request.method = "SUBSCRIBE" then none else some request
  | _ => none

def postedIn (trace : List Record) : List Request :=
  (callsIn trace).filterMap Call.posted?

section Dispatches

variable {seen later : List Record}

@[simp] theorem dispatchesIn_append :
    dispatchesIn (later ++ seen) = dispatchesIn later ++ dispatchesIn seen := by
  simp [dispatchesIn]

theorem Calls.undispatched (calls : Calls (fun call => call.isDispatch = false) seen) :
    dispatchesIn seen = [] :=
  List.filter_eq_nil_iff.mpr fun call member => by simp [calls call member]

theorem Call.Requests.undispatched {method : String} {call : Call}
    (requests : call.Requests method) : call.isDispatch = false := by
  obtain ⟨request, rfl, _⟩ := requests
  rfl

@[simp] theorem postedIn_append : postedIn (later ++ seen) = postedIn later ++ postedIn seen := by
  simp [postedIn]

theorem Passage.unposted {before after : State} (passage : Passage before seen after) :
    postedIn seen = [] := by
  refine List.filterMap_eq_nil_iff.mpr fun call member => ?_
  obtain ⟨request, rfl, renews⟩ := passage.calls call member
  exact if_pos renews

theorem Passage.undispatched {before after : State} (passage : Passage before seen after) :
    dispatchesIn seen = [] :=
  (passage.calls.imp fun _ requests => requests.undispatched).undispatched

theorem dispatchesIn_called {call : Call} (dispatch : call.isDispatch = true) (time : Nat) :
    dispatchesIn [⟨time, .called call⟩] = [call] := by
  have called : dispatchesIn [⟨time, .called call⟩] = [call].filter Call.isDispatch := rfl
  rw [called, List.filter_cons_of_pos dispatch]
  rfl

theorem postedIn_called {call : Call} (dispatch : call.isDispatch = true) (time : Nat) :
    postedIn [⟨time, .called call⟩] = [] := by
  cases call <;> first | rfl | cases dispatch

theorem actionCall_isDispatch (action : Action) : (actionCall action).isDispatch = true := by
  cases action <;> rfl

end Dispatches

/-- The call that a decision comes to. -/
def callOf : Decision → Option Call
  | .act action => some (actionCall action)
  | _ => none

namespace State

/-- What a call that is made now is answered in the end. -/
def replyTo (state : State) : Call → Except Failure Unit
  | .powerOff => outcomeOf state.television.powerOff
  | .sendKeys _ => outcomeOf state.television.sendKeys
  | .launchApp _ => outcomeOf state.television.launch
  | .setVolume level =>
    match state.held.filter (·.alive) with
    | none => .ok ()
    | some session =>
      let device := session.control.device
      let answer := state.answerTo (Rendering.setVolume device level)
      (Rendering.readAction device.controlUrl answer).mapError .rendering
  | .runProgram arguments => (Host.runCommand arguments).mapError .wake
  | .wake mac =>
    (Wake.wake state.network mac state.controller.options.host).2.mapError .wake
  | _ => .ok ()

/-- What a call that is made now sends to a renderer. -/
def posting (state : State) : Call → List Request
  | .setVolume level =>
    match state.held.filter (·.alive) with
    | none => []
    | some session => (Rendering.setVolume session.control.device level).built?.toList
  | _ => []

/-- What has been seen from one state to the next. -/
def since (before after : State) : List Record :=
  after.trace.take (after.trace.length - before.trace.length)

variable {state : State}

theorem since_eq {after : State} {seen : List Record} (trace : after.trace = seen ++ state.trace) :
    state.since after = seen := by
  simp [since, trace]

/-- The answer depends on the surroundings and the session in use. -/
theorem replyTo_congr {after : State} (television : after.television = state.television)
    (network : after.network = state.network) (held : after.held = state.held)
    (replies : after.replies = state.replies) (patience : after.patience = state.patience)
    (options : after.controller.options = state.controller.options) (call : Call) :
    after.replyTo call = state.replyTo call := by
  cases call with
  | setVolume level =>
      have answer (request : Request) : after.answerTo request = state.answerTo request :=
        answerTo_congr request (by rw [replies]) patience
      simp only [replyTo, held, answer]
  | _ => simp only [replyTo, television, network, options]

theorem replyTo_prepared (command : Command) (call : Call) :
    (state.prepared command).replyTo call = state.replyTo call := by
  refine replyTo_congr ?_ ?_ ?_ ?_ ?_ ?_ call <;> rw [prepared, setController_eq]
  exact prepare_options state.controller state.gate state.now command

theorem posting_prepared (command : Command) (call : Call) :
    (state.prepared command).posting call = state.posting call := by
  rw [prepared, setController_eq]
  rfl

/-- What becomes of a command whose dispatch is answered: only a renderer that refuses to change its
volume is not held against it. -/
def outcomeFor : Except Failure Unit → Except Failure Unit
  | .ok () => .ok ()
  | .error failure => if failure.isRefusedAction then .ok () else .error failure

theorem volumeOutcome_eq (outcome : Except Rendering.Failure Unit) :
    volumeOutcome outcome = outcomeFor (outcome.mapError .rendering) := by
  cases outcome with
  | ok _ => rfl
  | error failure => cases failure <;> rfl

theorem outcomeFor_outcomeOf (failure : Option Remote.Failure) :
    outcomeFor (outcomeOf failure) = outcomeOf failure := by
  cases failure <;> rfl

theorem outcomeFor_wake (outcome : Except Wake.Failure Unit) :
    outcomeFor (outcome.mapError .wake) = outcome.mapError .wake := by
  cases outcome <;> rfl

theorem act_outcome (action : Action) :
    (state.act action).2 = outcomeFor (state.replyTo (actionCall action)) := by
  cases action with
  | powerOff => exact (outcomeFor_outcomeOf _).symm
  | sendKeys keys => exact (outcomeFor_outcomeOf _).symm
  | launchApp id => exact (outcomeFor_outcomeOf _).symm
  | runProgram arguments => exact (outcomeFor_wake _).symm
  | wake mac => exact (outcomeFor_wake _).symm
  | setVolume level =>
      have changed : (state.act (.setVolume level)).2 =
          volumeOutcome (state.changeHeldVolume level).2 := rfl
      simp only [changed, volumeOutcome_eq, actionCall, replyTo, changeHeldVolume]
      cases state.held.filter (·.alive) with
      | none => rfl
      | some session =>
          have answer : (state.call (.setVolume level)).answerTo
              (Rendering.setVolume session.control.device level) =
                state.answerTo (Rendering.setVolume session.control.device level) :=
            answerTo_congr _ rfl rfl
          simp only [changeVolume, exchange_snd, answer]

theorem postedIn_requested (state : State) {request : Request}
    (other : request.method ≠ "SUBSCRIBE") :
    postedIn (state.requested request) = request.built?.toList := by
  cases found : request.built? with
  | none =>
      rw [requested, found]
      rfl
  | some built =>
      have isOther : built.method ≠ "SUBSCRIBE" := Request.built?_method found ▸ other
      have posted : postedIn (state.requested request) =
          [Call.http built].filterMap Call.posted? := by
        rw [requested, found]
        rfl
      rw [posted]
      exact List.filterMap_cons_some (if_neg isOther)

/-- A request is sent once, and nothing else meanwhile but what keeps a subscription. -/
theorem exchange_posts (state : State) {request : Request} (other : request.method ≠ "SUBSCRIBE") :
    ∃ seen, Drift state seen (state.exchange request).1 ∧ dispatchesIn seen = [] ∧
      postedIn seen = request.built?.toList := by
  have sent := state.send_drift request
  have undispatched : dispatchesIn (state.requested request) = [] :=
    ((state.requested_calls request).imp fun _ requests => requests.undispatched).undispatched
  obtain ⟨meanwhile, passage⟩ := (state.send request).1.passTo_passage (state.send request).2.due
  refine ⟨_, sent.trans passage.toDrift, ?_, ?_⟩
  · rw [dispatchesIn_append, passage.undispatched, undispatched, List.append_nil]
  · rw [postedIn_append, passage.unposted, state.postedIn_requested other, List.nil_append]

theorem act_dispatches {action : Action} (served : ∀ level, action = .setVolume level →
      ∃ session, state.held.filter (·.alive) = some session) :
    ∃ seen, Drift state seen (state.act action).1 ∧ dispatchesIn seen = [actionCall action] ∧
      postedIn seen = state.posting (actionCall action) := by
  have called := state.call_drift (actionCall action)
  have dispatched := dispatchesIn_called (actionCall_isDispatch action) state.now
  have unposted := postedIn_called (actionCall_isDispatch action) state.now
  by_cases volume : ∃ level, action = .setVolume level
  · obtain ⟨level, rfl⟩ := volume
    obtain ⟨session, found⟩ := served level rfl
    have post : (Rendering.setVolume session.control.device level).method ≠ "SUBSCRIBE" := by
      simp [Rendering.setVolume]
    obtain ⟨asking, asked, undispatched, posted⟩ :=
      (state.call (.setVolume level)).exchange_posts post
    have changed : (state.act (.setVolume level)).1 = ((state.call (.setVolume level)).exchange
        (Rendering.setVolume session.control.device level)).1 := by
      simp only [act, changeHeldVolume, found]
      rfl
    rw [changed]
    refine ⟨_, called.trans asked, ?_, ?_⟩
    · rw [dispatchesIn_append, undispatched, dispatched, List.nil_append]
    · rw [postedIn_append, unposted, posted, List.append_nil]
      simp only [actionCall, posting, found]
  · obtain ⟨later, passed⟩ := state.act_passage fun level same => volume ⟨level, same⟩
    have silent : state.posting (actionCall action) = [] := by
      cases action with
      | setVolume level => exact absurd ⟨level, rfl⟩ volume
      | _ => rfl
    refine ⟨_, called.trans passed.toDrift, ?_, ?_⟩
    · rw [dispatchesIn_append, passed.undispatched, dispatched, List.nil_append]
    · rw [postedIn_append, passed.unposted, unposted, silent, List.append_nil]

theorem execute_dispatches (state : State) (command : Command) :
    ∃ seen, Drift (state.prepared command) seen (state.execute command).1 ∧
      dispatchesIn seen =
        (callOf (decide state.controller state.circumstances command)).toList ∧
      postedIn seen = (dispatchesIn seen).flatMap state.posting := by
  cases decided : decide state.controller state.circumstances command with
  | act action =>
      rw [state.execute_act decided]
      have served (level : Media.Level) (same : action = .setVolume level) :
          ∃ session, (state.prepared command).held.filter (·.alive) = some session := by
        have alive := (decide_setVolume (same ▸ decided)).2
        obtain ⟨session, isHeld, living⟩ := (Option.any_eq_true _ _).mp alive
        refine ⟨session, ?_⟩
        rw [prepared, setController_eq]
        exact Option.filter_eq_some_iff.mpr ⟨isHeld, living⟩
      obtain ⟨seen, drift, dispatched, posted⟩ := act_dispatches served
      refine ⟨seen, drift, dispatched, ?_⟩
      rw [posted, dispatched, posting_prepared, List.flatMap_singleton]
  | refuse failure =>
      rw [state.execute_idle fun action acts => by cases decided.symm.trans acts]
      exact ⟨[], .refl _, rfl, rfl⟩
  | hold =>
      rw [state.execute_idle fun action acts => by cases decided.symm.trans acts]
      exact ⟨[], .refl _, rfl, rfl⟩

theorem shows_self : state.shows state.controller = [] :=
  if_pos rfl

theorem prepared_self {command : Command}
    (same : prepare state.controller state.gate state.now command = state.controller) :
    state.prepared command = state := by
  rw [prepared, same, setController_eq, shows_self]
  rfl

/-- Everything that a command has seen, from its beginning. -/
theorem execute_seen (state : State) (command : Command) : ∃ seen,
    (state.execute command).1.trace = seen ++ state.trace ∧
    dispatchesIn seen =
      (callOf (decide state.controller state.circumstances command)).toList ∧
    postedIn seen = (dispatchesIn seen).flatMap state.posting ∧
    (prepare state.controller state.gate state.now command = state.controller →
      Drift state seen (state.execute command).1) := by
  obtain ⟨later, drift, dispatched, posted⟩ := state.execute_dispatches command
  generalize isPrepared : prepare state.controller state.gate state.now command = controller
  have prepared : state.prepared command = state.setController controller := by
    rw [State.prepared, isPrepared]
  have unseen : dispatchesIn (later ++ state.shows controller) = dispatchesIn later := by
    rw [dispatchesIn_append, dispatchesIn, dispatchesIn, callsIn_shows, List.filter_nil,
      List.append_nil]
  refine ⟨later ++ state.shows controller, ?_, ?_, ?_, fun same => ?_⟩
  · rw [drift.trace, prepared, setController_eq, List.append_assoc]
  · rw [unseen, dispatched]
  · rw [unseen, ← posted, postedIn_append, postedIn, postedIn, callsIn_shows, List.filterMap_nil,
      List.append_nil]
  · rw [same, shows_self, List.append_nil]
    rwa [prepared_self (isPrepared.trans same)] at drift

theorem execute_outcome (state : State) (command : Command) : (state.execute command).2 =
    match decide state.controller state.circumstances command with
    | .refuse failure => .error failure
    | .hold => .ok ()
    | .act action => outcomeFor (state.replyTo (actionCall action)) := by
  cases decided : decide state.controller state.circumstances command with
  | act action => rw [state.execute_act decided, act_outcome, replyTo_prepared]
  | refuse failure => simp only [execute, decided]
  | hold => simp only [execute, decided]

/-- Nobody who is called blames the caller. -/
theorem replyTo_error {call : Call} {failure : Failure}
    (failed : state.replyTo call = .error failure) : failure.isCallerError = false := by
  have remote (cause : Option Remote.Failure) (same : outcomeOf cause = .error failure) :
      failure.isCallerError = false := by
    cases cause <;> cases same
    rfl
  have mapped {cause : Type} (outcome : Except cause Unit) (wrap : cause → Failure)
      (blameless : ∀ cause, (wrap cause).isCallerError = false)
      (same : outcome.mapError wrap = .error failure) : failure.isCallerError = false := by
    cases outcome <;> cases same
    exact blameless _
  cases call with
  | powerOff => exact remote _ failed
  | sendKeys keys => exact remote _ failed
  | launchApp id => exact remote _ failed
  | runProgram arguments => exact mapped _ _ (fun _ => rfl) failed
  | wake mac => exact mapped _ _ (fun _ => rfl) failed
  | setVolume level =>
      simp only [replyTo] at failed
      split at failed
      · cases failed
      · exact mapped _ _ (fun _ => rfl) failed
  | _ => cases failed

theorem replyTo_refused {call : Call} {failure : Failure}
    (failed : state.replyTo call = .error failure) (refused : failure.isRefusedAction = true) :
    ∃ level, call = .setVolume level := by
  have remote (cause : Option Remote.Failure) : outcomeOf cause ≠ .error failure := by
    intro same
    cases cause <;> cases same
    cases refused
  have wake (outcome : Except Wake.Failure Unit) : outcome.mapError .wake ≠ .error failure := by
    intro same
    cases outcome <;> cases same
    cases refused
  cases call with
  | powerOff => exact absurd failed (remote _)
  | sendKeys keys => exact absurd failed (remote _)
  | launchApp id => exact absurd failed (remote _)
  | runProgram arguments => exact absurd failed (wake _)
  | wake mac => exact absurd failed (wake _)
  | setVolume level => exact ⟨level, rfl⟩
  | _ => cases failed

/-- A command that fails through the caller is refused, and leaves everything as it was. -/
theorem execute_callerError {command : Command} {failure : Failure}
    (failed : (state.execute command).2 = .error failure) (caller : failure.isCallerError = true) :
    decide state.controller state.circumstances command = .refuse failure ∧
      (state.execute command).1 = state := by
  rw [execute_outcome] at failed
  cases decided : decide state.controller state.circumstances command with
  | hold =>
      rw [decided] at failed
      cases failed
  | act action =>
      rw [decided] at failed
      cases reply : state.replyTo (actionCall action) with
      | ok _ =>
          simp only [reply, outcomeFor] at failed
          cases failed
      | error other =>
          simp only [reply, outcomeFor] at failed
          split at failed
          · cases failed
          · cases failed
            rw [replyTo_error reply] at caller
            cases caller
  | refuse other =>
      rw [decided] at failed
      cases failed
      refine ⟨rfl, ?_⟩
      rw [state.execute_idle fun action acts => by cases decided.symm.trans acts]
      exact prepared_self (prepare_refused _ _ decided _ _)

theorem execute_callerError_iff {command : Command} {failure : Failure}
    (caller : failure.isCallerError = true) : (state.execute command).2 = .error failure ↔
      decide state.controller state.circumstances command = .refuse failure := by
  constructor
  · exact fun failed => (execute_callerError failed caller).1
  · intro refused
    rw [execute_outcome, refused]

theorem callOf_eq_some {decision : Decision} {call : Call} :
    callOf decision = some call ↔ ∃ action, decision = .act action ∧ actionCall action = call := by
  cases decision with
  | act action => simp [callOf]
  | _ => simp [callOf]

/-- Without a dispatch nothing can fail but what the caller has asked for. -/
theorem execute_uncalled {command : Command}
    (uncalled : callOf (decide state.controller state.circumstances command) = none) :
    (state.execute command).2 = .ok () ∨
      ∃ failure, (state.execute command).2 = .error failure ∧ failure.isCallerError = true := by
  rw [execute_outcome]
  cases decided : decide state.controller state.circumstances command with
  | hold => exact .inl rfl
  | refuse failure => exact .inr ⟨failure, rfl, decide_fair _ _ _ _ decided⟩
  | act action =>
      rw [decided] at uncalled
      cases uncalled

section Called

variable {command : Command} {call : Call}
  (called : callOf (decide state.controller state.circumstances command) = some call)
include called

theorem execute_called : (state.execute command).2 = outcomeFor (state.replyTo call) := by
  obtain ⟨action, decided, rfl⟩ := callOf_eq_some.mp called
  rw [execute_outcome, decided]

/-- Only the command for the volume is ever refused by a renderer; it leaves the controller alone. -/
theorem prepare_refusedAction {failure : Failure} (failed : state.replyTo call = .error failure)
    (refused : failure.isRefusedAction = true) :
    prepare state.controller state.gate state.now command = state.controller := by
  obtain ⟨action, decided, rfl⟩ := callOf_eq_some.mp called
  obtain ⟨level, isVolume⟩ := replyTo_refused failed refused
  obtain rfl : action = .setVolume level := by
    cases action <;> cases isVolume
    rfl
  obtain ⟨rfl, _⟩ := decide_setVolume decided
  rfl

end Called

/-- Every command makes at most one call of somebody else, whose failure is the command's unless it
is the renderer's refusal of a volume.  One that fails through the caller has no effect at all. -/
theorem command_dispatches_once (state : State) (command : Command) :
    ∃ seen, (state.execute command).1.trace = seen ++ state.trace ∧
      (dispatchesIn seen).length ≤ 1 ∧
      postedIn seen = (dispatchesIn seen).flatMap state.posting ∧
      (∀ failure, (state.execute command).2 = .error failure → failure.isCallerError = true →
        (state.execute command).1 = state ∧ seen = []) ∧
      (dispatchesIn seen = [] → (state.execute command).2 = .ok () ∨
        ∃ failure, (state.execute command).2 = .error failure ∧ failure.isCallerError = true) ∧
      ∀ call ∈ dispatchesIn seen,
        (state.replyTo call = .ok () → (state.execute command).2 = .ok ()) ∧
        ∀ failure, state.replyTo call = .error failure →
          (failure.isRefusedAction = true → (state.execute command).2 = .ok () ∧
            Drift state seen (state.execute command).1) ∧
          (failure.isRefusedAction = false → (state.execute command).2 = .error failure) := by
  obtain ⟨seen, trace, dispatches, posts, drift⟩ := state.execute_seen command
  refine ⟨_, trace, ?_, posts, fun failure failed caller => ?_, fun none => ?_,
    fun call member => ?_⟩
  · rw [dispatches]
    exact Option.length_toList_le
  · have same := (execute_callerError failed caller).2
    rw [same] at trace
    exact ⟨same, List.self_eq_append_left.mp trace⟩
  · rw [dispatches, Option.toList_eq_nil_iff] at none
    exact execute_uncalled none
  · rw [dispatches, Option.mem_toList] at member
    have outcome := execute_called member
    refine ⟨fun succeeded => ?_, fun failure failed => ⟨fun refused => ⟨?_, ?_⟩, fun other => ?_⟩⟩
    · rw [outcome, succeeded]
      rfl
    · rw [outcome, failed, outcomeFor, if_pos refused]
    · exact drift (prepare_refusedAction member failed refused)
    · rw [outcome, failed, outcomeFor, other]
      rfl

end State

end Televisor.Run
