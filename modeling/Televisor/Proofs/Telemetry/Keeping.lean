import Televisor.Proofs.Telemetry.Bookkeeping

namespace Televisor.Run

open Controller Network Rendering Telemetry

/-! A handle by itself keeps its books, whatever is called and however long it takes. -/

theorem Sendable.renamed {url sid : String} {callback : Option String} {answer : Answer}
    {grant : Grant} (sendable : Sendable url callback sid)
    (granted : readGrant url answer = .ok grant) : Sendable url callback grant.sid := by
  obtain ⟨place, known, built⟩ := sendable.subscribes
  exact .granted known built granted

/-- What was never sent is not granted either. -/
theorem State.built_of_granted {state : State} {url : String} {request : Request} {grant : Grant}
    (granted : readGrant url (state.send request).2.answer = .ok grant) :
    request.built?.isSome = true := by
  cases found : request.built? with
  | some built => rfl
  | none => simp [send, found, unbuilt, readGrant] at granted

/-- Nothing goes on but the renewal of the handle in use. -/
structure Alone (url : String) (callback : Option String) (asked : Option Bool) (state : State) :
    Prop where
  idle : state.discovery = none
  quiet : state.arrivals = []
  kept : ∃ session, state.held = some session ∧ session.alive = true ∧
    Kept url callback asked state.trace state.now session.control

namespace Alone

variable {url : String} {callback : Option String} {asked then_ : Option Bool} {state : State}

theorem handling (options : Options) (television : Television) (host : Host) (replies : Replies)
    (patience : Option Nat) (device : Device) (callback : Option String) :
    Alone device.eventUrl callback none
      (.handling options television host replies patience device callback) :=
  ⟨rfl, rfl, _, rfl, rfl, .fresh device callback⟩

theorem nextActivity? (alone : Alone url callback asked state) {session : Session}
    (held : state.held = some session) :
    state.nextActivity? = Activity.earliest? (session.control.tasks.map (.renewal session)) := by
  simp [State.nextActivity?, State.pendingDiscovery?, State.pendingArrival?,
    State.pendingRenewal?, alone.idle, alone.quiet, Activity.earlier?, held]

/-- The clock goes on, but not past what the renewal waits for. -/
theorem reach (alone : Alone url callback asked state) {instant : Nat}
    (early : ∀ activity, state.nextActivity? = some activity → instant ≤ activity.due) :
    Alone url callback asked (state.reach instant) := by
  obtain ⟨session, held, alive, kept⟩ := alone.kept
  refine ⟨alone.idle, alone.quiet, session, held, alive, ?_⟩
  refine kept.later (Nat.le_max_left _ _) fun renewal running => ?_
  obtain ⟨task, runs, rfl⟩ := Control.exists_task running
  have next : state.nextActivity? = some (.renewal session task) := by
    rw [alone.nextActivity? held, kept.tended.tasks_eq runs]
    rfl
  exact Nat.max_le.mpr ⟨kept.punctual _ running, early _ next⟩

theorem sendFor {before : State} (alone : Alone url callback asked before) (state : State)
    (idle : state.discovery = before.discovery) (quiet : state.arrivals = before.arrivals)
    {session : Session} (alive : session.alive = true) {task : RenewalTask}
    {request built : Request} {next : Exchange → Renewal}
    (found : request.built? = some built)
    (kept : Kept url callback asked (⟨state.now, .called (.http built)⟩ :: state.trace) state.now
      (session.control.resume task (some (next (state.send request).2)))) :
    Alone url callback asked (state.sendFor session task request next) := by
  have sent : (state.send request).1 =
      { state.call (.http built) with replies := (state.replies.next built.method).2 } := by
    simp [State.send, found]
  have spelled : state.sendFor session task request next =
      (state.send request).1.hold (session.resume task (some (next (state.send request).2))) := rfl
  rw [spelled, sent]
  exact ⟨idle.trans alone.idle, quiet.trans alone.quiet, _, rfl, alive, kept⟩

/-- A task goes on in its time: it sends what it has to, or takes an answer. -/
theorem continueRenewal (alone : Alone url callback asked state) {session : Session}
    {task : RenewalTask} (alive : session.alive = true)
    (kept : Kept url callback asked state.trace state.now session.control)
    (runs : task ∈ session.control.tasks) (reached : state.now = task.due) :
    Alone url callback asked (state.continueRenewal session task) := by
  obtain ⟨sid, stored⟩ := Option.isSome_iff_exists.mp (kept.supplies runs)
  have sendable := kept.sendable sid stored
  obtain ⟨place, known, subscribes⟩ := sendable.subscribes
  obtain ⟨again, builtAgain⟩ := Option.isSome_iff_exists.mp subscribes
  have placed : session.control.callback = some place := kept.place.trans known
  obtain ⟨number, renewal⟩ := task
  cases renewal with
  | sleeping wake =>
      obtain ⟨request, built⟩ := Option.isSome_iff_exists.mp sendable.renews
      obtain rfl : state.now = wake := reached
      simp only [State.continueRenewal, stored, kept.device]
      exact alone.sendFor state rfl rfl alive built
        (kept.round runs rfl stored built (state.send_due_ge _))
  | renewing exchange =>
      simp only [State.continueRenewal, placed, kept.device]
      cases outcome : readGrant url exchange.answer with
      | ok grant =>
          have granted := kept.granted_task runs (.renewed (kept.stands runs)) (by rintro ⟨⟩) outcome
            (sendable.renamed outcome) kept.awaited
          exact ⟨alone.idle, alone.quiet, _, rfl, alive, granted⟩
      | error failure =>
          let refused := state.note (.answered .renewal exchange.answer)
          exact alone.sendFor refused rfl rfl alive builtAgain
            (kept.again runs rfl outcome known builtAgain (refused.send_due_ge _))
  | resubscribing exchange =>
      simp only [State.continueRenewal, kept.device]
      cases outcome : readGrant url exchange.answer with
      | ok grant =>
          have granted := kept.granted_task runs (.resubscribed (kept.stands runs)) (by rintro ⟨⟩)
            outcome (sendable.renamed outcome) kept.awaited
          exact ⟨alone.idle, alone.quiet, _, rfl, alive, granted⟩
      | error failure =>
          exact ⟨alone.idle, alone.quiet, _, rfl, alive, kept.retried runs rfl outcome⟩

theorem perform (alone : Alone url callback asked state) {activity : Activity}
    (next : state.nextActivity? = some activity) :
    Alone url callback asked (state.perform activity) := by
  obtain ⟨session, held, alive, kept⟩ := alone.kept
  have listed := (alone.nextActivity? held).symm.trans next
  obtain ⟨task, runs, rfl⟩ := List.mem_map.mp (Activity.earliest?_mem listed)
  have reached : Alone url callback asked (state.reach task.due) := by
    refine alone.reach fun other isNext => ?_
    cases next.symm.trans isNext
    exact Nat.le_refl _
  have now : (state.reach task.due).now = task.due :=
    Nat.max_eq_right (kept.punctual _ (kept.tended.renewal_eq runs))
  have keptThere : Kept url callback asked (state.reach task.due).trace
      (state.reach task.due).now session.control := by
    obtain ⟨other, isHeld, _, kept⟩ := reached.kept
    cases held.symm.trans isHeld
    exact kept
  exact reached.continueRenewal alive keptThere runs now

theorem passWhile (alone : Alone url callback asked state) (instant : Nat) (more : State → Bool) :
    Alone url callback asked (.passWhile instant more state) :=
  State.passWhile_keeps (Alone url callback asked) (fun _ _ alone next => alone.perform next)
    instant more alone

theorem passTo (alone : Alone url callback asked state) (instant : Nat) :
    Alone url callback asked (state.passTo instant) :=
  (alone.passWhile instant _).reach (State.passWhile_left state rfl)

/-- What is noted while the handle stays as it is. -/
theorem noted (alone : Alone url callback asked state) {what : Occurrence}
    (kept : ∀ control, Kept url callback asked state.trace state.now control →
      Kept url callback then_ (⟨state.now, what⟩ :: state.trace) state.now control) :
    Alone url callback then_ (state.note what) := by
  obtain ⟨session, held, alive, before⟩ := alone.kept
  exact ⟨alone.idle, alone.quiet, session, held, alive, kept _ before⟩

/-- What is noted while the handle changes with it. -/
theorem changed (alone : Alone url callback asked state) {what : Occurrence}
    {change : Control → Control}
    (kept : ∀ control, Kept url callback asked state.trace state.now control →
      Kept url callback then_ (⟨state.now, what⟩ :: state.trace) state.now (change control)) :
    Alone url callback then_ ((state.note what).updateControl change) := by
  obtain ⟨session, held, alive, before⟩ := alone.kept
  have changes : ((state.note what).updateControl change).held =
      some { session with control := change session.control } := by
    simp [State.updateControl, State.note, held]
  exact ⟨alone.idle, alone.quiet, _, changes, alive, kept _ before⟩

theorem send (alone : Alone url callback asked state) {request : Request}
    (sends : ∀ built, request.built? = some built → ∀ control,
      Kept url callback asked state.trace state.now control → Kept url callback asked
        (⟨state.now, .called (.http built)⟩ :: state.trace) state.now control) :
    Alone url callback asked (state.send request).1 := by
  unfold State.send
  split
  · exact alone
  · rename_i built found
    have called := alone.noted (sends built found)
    exact ⟨called.idle, called.quiet, called.kept⟩

theorem asks (alone : Alone url callback asked state) (renewing : Bool) :
    Alone url callback (some renewing) (state.call (.subscribe renewing)) :=
  alone.noted fun _ kept => kept.asks renewing

theorem sendSubscribe {place : String} {renewing : Bool}
    (alone : Alone url (some place) asked state) :
    Alone url (some place) (some renewing)
      ((state.call (.subscribe renewing)).send (subscribe url place)).1 :=
  (alone.asks renewing).send fun _ built _ kept => kept.sends rfl rfl built

theorem ends (alone : Alone url callback asked state) : Alone url callback none
    ((state.call .unsubscribe).updateControl Control.forget) :=
  alone.changed fun _ kept => kept.ends

theorem sendUnsubscribe {sid : String} (alone : Alone url callback asked state)
    (stored : storedIn url state.trace = some sid) : Alone url callback none
      (((state.call .unsubscribe).updateControl
        Control.forget).send (unsubscribe url sid)).1 :=
  alone.ends.send fun _ built _ kept => kept.last rfl stored built

/-- Somebody subscribes; a grant is taken over, whatever else was granted meanwhile. -/
theorem subscribeHeld (alone : Alone url callback asked state) (renewing : Bool) :
    ∃ then_, Alone url callback then_ (state.subscribeHeld renewing).1 := by
  obtain ⟨session, held, alive, kept⟩ := alone.kept
  simp only [State.subscribeHeld, held, State.askForEvents, kept.device, kept.place]
  cases callback with
  | none => exact ⟨_, alone.asks renewing⟩
  | some place =>
      have answered : Alone url (some place) (some renewing)
          ((state.call (.subscribe renewing)).exchange (subscribe url place)).1 :=
        alone.sendSubscribe.passTo _
      cases outcome : readGrant url
          ((state.call (.subscribe renewing)).exchange (subscribe url place)).2 with
      | error failure =>
          simp only [outcome]
          exact ⟨_, answered.noted fun _ kept => kept.failed outcome⟩
      | ok grant =>
          have sendable : Sendable url (some place) grant.sid :=
            .granted rfl (State.built_of_granted outcome) outcome
          simp only [outcome]
          cases renewing with
          | true =>
              exact ⟨_, answered.changed fun _ kept =>
                kept.granted_caller outcome sendable⟩
          | false =>
              exact ⟨_, answered.changed fun _ kept => kept.granted_once outcome sendable⟩

theorem unsubscribeHeld (alone : Alone url callback asked state) :
    Alone url callback none state.unsubscribeHeld.1 := by
  obtain ⟨session, held, alive, kept⟩ := alone.kept
  simp only [State.unsubscribeHeld, held, kept.device]
  cases stored : session.control.sid with
  | none => exact alone.ends
  | some sid => exact (alone.sendUnsubscribe (kept.stored.symm.trans stored)).passTo _

theorem inUse (alone : Alone url callback asked state) : state.held.any (·.alive) = true := by
  obtain ⟨session, held, alive, _⟩ := alone.kept
  rw [held, Option.any_some, alive]

/-- A call is as good while it waits. -/
theorem begun (alone : Alone url callback asked state) (handling : Handling) :
    ∃ then_, Alone url callback then_ (state.begun handling) := by
  obtain ⟨session, held, alive, kept⟩ := alone.kept
  have inUse : state.held.filter (·.alive) = some session := by
    rw [held, Option.filter_some, if_pos alive]
  simp only [State.begun, inUse, kept.device, kept.place]
  cases handling with
  | subscribe renewing =>
      cases callback with
      | none => exact ⟨_, alone.asks renewing⟩
      | some place => exact ⟨_, alone.sendSubscribe⟩
  | unsubscribe =>
      cases stored : session.control.sid with
      | none => exact ⟨_, alone.ends⟩
      | some sid => exact ⟨_, alone.sendUnsubscribe (kept.stored.symm.trans stored)⟩
  | drop | pass _ | answers _ => exact ⟨_, alone⟩

end Alone

variable {url : String} {callback : Option String}

/-- Nothing happens before its time. -/
theorem State.passWhile_early {state : State} {instant : Nat} {more : State → Bool}
    (early : ∀ activity, state.nextActivity? = some activity → instant ≤ activity.due) :
    passWhile instant more state = state := by
  fun_induction passWhile instant more state with
  | case1 state goesOn activity next before ih =>
      exact absurd (early activity next) (Nat.not_le_of_lt before)
  | case2 state goesOn activity next late => rfl
  | case3 state goesOn idle => rfl
  | case4 state done => rfl

/-- Nobody has the handle any more, and nothing goes on. -/
structure Gone (url : String) (callback : Option String) (state : State) : Prop where
  idle : state.discovery = none
  quiet : state.arrivals = []
  dead : ∀ session, state.held = some session → session.alive = false
  resting : ∀ session, state.held = some session → session.control.tasks = []
  booked : Booked url callback state.trace
  calm : standingIn url state.trace ≠ .refused

namespace Gone

variable {state : State}

theorem nextActivity? (gone : Gone url callback state) : state.nextActivity? = none := by
  have unwanted : state.pendingRenewal? = none := by
    unfold State.pendingRenewal?
    split
    · rename_i session isHeld
      rw [gone.resting session isHeld]
      rfl
    · rfl
  simp [State.nextActivity?, State.pendingDiscovery?, State.pendingArrival?, unwanted, gone.idle,
    gone.quiet, Activity.earlier?]

theorem unused (gone : Gone url callback state) : state.held.any (·.alive) = false := by
  cases isHeld : state.held with
  | none => rfl
  | some session => simp [gone.dead session isHeld]

theorem passTo (gone : Gone url callback state) (instant : Nat) :
    Gone url callback (state.passTo instant) ∧ (state.passTo instant).trace = state.trace := by
  have done := gone.nextActivity?
  have still : state.passTo instant = state.reach instant := by
    rw [State.passTo, State.passWhile_early fun activity next => by cases done.symm.trans next]
  rw [still]
  exact ⟨⟨gone.idle, gone.quiet, gone.dead, gone.resting, gone.booked, gone.calm⟩, rfl⟩

/-- Whatever is called, nothing is seen. -/
theorem handle (gone : Gone url callback state) (handling : Handling) :
    Gone url callback (state.handle handling) ∧ (state.handle handling).trace = state.trace := by
  cases handling with
  | subscribe renewing =>
      have same : state.handle (.subscribe renewing) = state := by
        simp [State.handle, gone.unused]
      rw [same]
      exact ⟨gone, rfl⟩
  | unsubscribe =>
      have same : state.handle .unsubscribe = state := by
        simp [State.handle, gone.unused]
      rw [same]
      exact ⟨gone, rfl⟩
  | drop =>
      refine ⟨⟨gone.idle, gone.quiet, ?_, ?_, gone.booked, gone.calm⟩, rfl⟩
      · intro session dropped
        obtain ⟨_, _, rfl⟩ := Option.map_eq_some_iff.mp dropped
        rfl
      · intro session dropped
        obtain ⟨old, isHeld, rfl⟩ := Option.map_eq_some_iff.mp dropped
        simp [Control.stopRenewal, gone.resting old isHeld]
  | pass duration => exact gone.passTo _
  | answers replies =>
      exact ⟨⟨gone.idle, gone.quiet, gone.dead, gone.resting, gone.booked, gone.calm⟩, rfl⟩

theorem handles (gone : Gone url callback state) (list : List Handling) :
    Gone url callback (state.handles list) ∧ (state.handles list).trace = state.trace := by
  induction list generalizing state with
  | nil => exact ⟨gone, rfl⟩
  | cons handling rest ih =>
      obtain ⟨goneThen, seen⟩ := gone.handle handling
      obtain ⟨goneAtLast, seenAtLast⟩ := ih goneThen
      rw [State.handles_cons]
      exact ⟨goneAtLast, seenAtLast.trans seen⟩

end Gone

/-- The handle is there, or nobody has it. -/
inductive Managed (url : String) (callback : Option String) (state : State) : Prop where
  | there {asked : Option Bool} (alone : Alone url callback asked state)
  | gone (gone : Gone url callback state)

theorem Alone.drop {state : State} {asked : Option Bool} (alone : Alone url callback asked state) :
    Gone url callback (state.handle .drop) := by
  obtain ⟨session, held, _, kept⟩ := alone.kept
  have dropped : (state.handle .drop).held =
      some { session with control := session.control.stopRenewal, alive := false } := by
    rw [State.handle, State.dropHeld, held, Option.map_some]
  refine ⟨alone.idle, alone.quiet, fun other isHeld => ?_, fun other isHeld => ?_, kept.booked,
    kept.calm⟩
  · cases dropped.symm.trans isHeld
    rfl
  · cases dropped.symm.trans isHeld
    exact kept.tended.stopRenewal_tasks

namespace Managed

variable {state : State}

theorem handle (managed : Managed url callback state) (handling : Handling) :
    Managed url callback (state.handle handling) := by
  cases managed with
  | gone gone => exact .gone (gone.handle handling).1
  | there alone =>
      have inUse := alone.inUse
      cases handling with
      | subscribe renewing =>
          obtain ⟨asked, subscribed⟩ := alone.subscribeHeld renewing
          rw [State.handle, if_pos inUse]
          exact .there subscribed
      | unsubscribe =>
          rw [State.handle, if_pos inUse]
          exact .there alone.unsubscribeHeld
      | drop => exact .gone alone.drop
      | pass duration => exact .there (alone.passTo _)
      | answers replies => exact .there ⟨alone.idle, alone.quiet, alone.kept⟩

theorem handles (managed : Managed url callback state) (list : List Handling) :
    Managed url callback (state.handles list) := by
  induction list generalizing state with
  | nil => exact managed
  | cons handling rest ih => exact ih (managed.handle handling)

theorem begun (managed : Managed url callback state) (handling : Handling) (instant : Nat) :
    Managed url callback ((state.begun handling).passTo instant) := by
  cases managed with
  | gone gone =>
      have unused : state.held.filter (·.alive) = none := by
        rw [Option.filter_eq_none_iff]
        exact fun session isHeld => by simp [gone.dead session isHeld]
      have same : state.begun handling = state := by
        rw [State.begun, unused]
      rw [same]
      exact .gone (gone.passTo instant).1
  | there alone =>
      obtain ⟨asked, waiting⟩ := alone.begun handling
      exact .there (waiting.passTo instant)

end Managed

namespace State

theorem subscribeHeld_trace {state : State} {session : Session} (held : state.held = some session)
    (renewing : Bool) : (state.subscribeHeld renewing).1.trace =
      (state.askForEvents session.control renewing).1.trace := by
  simp only [subscribeHeld, held]
  split
  · rfl
  · rfl

theorem subscribeHeld_suffix (state : State) (renewing : Bool) :
    state.trace <:+ (state.subscribeHeld renewing).1.trace := by
  cases held : state.held with
  | none => simp [subscribeHeld, held]
  | some session =>
      rw [subscribeHeld_trace held]
      exact (state.askForEvents_meanwhile session.control renewing).trace

theorem handle_suffix (state : State) (handling : Handling) :
    state.trace <:+ (state.handle handling).trace := by
  cases handling with
  | subscribe renewing =>
      rw [handle]
      split
      · exact state.subscribeHeld_suffix renewing
      · exact List.suffix_refl _
  | unsubscribe =>
      rw [handle]
      split
      · exact state.unsubscribeHeld_meanwhile.trace
      · exact List.suffix_refl _
  | drop | answers _ => exact List.suffix_refl _
  | pass duration => exact (state.wait_meanwhile duration).trace

/-- What is seen while a call waits is a part of what is seen of it. -/
theorem begun_handle (state : State) (handling : Handling) :
    ∃ instant, ((state.begun handling).passTo instant).trace <:+ (state.handle handling).trace := by
  -- Where nothing is waited for, no time has to pass.
  have atOnce {begun after : State} (suffix : begun.trace <:+ after.trace) :
      ∃ instant, (begun.passTo instant).trace <:+ after.trace := by
    refine ⟨0, ?_⟩
    rw [passTo, passWhile_early fun _ _ => Nat.zero_le _]
    exact suffix
  cases inUse : state.held.filter (·.alive) with
  | none => simpa only [begun, inUse] using atOnce (state.handle_suffix handling)
  | some session =>
      obtain ⟨held, alive⟩ := Option.filter_eq_some_iff.mp inUse
      have used : state.held.any (·.alive) = true := by rw [held, Option.any_some, alive]
      let url := session.control.device.eventUrl
      simp only [begun, inUse]
      cases handling with
      | subscribe renewing =>
          rw [handle, if_pos used, subscribeHeld_trace held, askForEvents]
          cases session.control.callback with
          | none => exact atOnce (List.suffix_refl _)
          | some place =>
              let asked := (state.call (.subscribe renewing)).send (subscribe url place)
              exact ⟨asked.2.due, List.suffix_cons _ _⟩
      | unsubscribe =>
          rw [handle, if_pos used]
          simp only [unsubscribeHeld, held]
          cases session.control.sid with
          | none => exact atOnce (List.suffix_refl _)
          | some sid =>
              let ended := (state.call .unsubscribe).updateControl Control.forget
              exact ⟨(ended.send (unsubscribe url sid)).2.due, List.suffix_refl _⟩
      | drop | pass _ | answers _ => exact atOnce (state.handle_suffix _)

end State

end Televisor.Run
