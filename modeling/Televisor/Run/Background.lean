import Televisor.Run.State

namespace Televisor.Run

open Discovery Network Rendering Telemetry

/-! What goes on while somebody waits: discovery's timers, things that happen by themselves, and the
renewal of the subscription.  They are taken in the order of their instants; `passTo` lets all pass
that is due before an instant, so that whoever waits for that instant goes first. -/

inductive Activity where
  | discovery (phase : Phase)
  | arrival (arrival : Arrival) (later : List Arrival)
  | renewal (session : Session) (task : RenewalTask)

def Activity.due : Activity → Nat
  | .discovery phase => phase.due
  | .arrival next _ => next.due
  | .renewal _ task => task.due

/-- The earlier of two, the first if they are due together. -/
def Activity.earlier? : Option Activity → Option Activity → Option Activity
  | none, second => second
  | first, none => first
  | some first, some second => if first.due ≤ second.due then some first else some second

def Activity.earliest? : List Activity → Option Activity
  | [] => none
  | first :: rest => earlier? (some first) (earliest? rest)

theorem Activity.earlier?_eq_or {first second : Option Activity} {activity : Activity}
    (chosen : Activity.earlier? first second = some activity) :
    first = some activity ∨ second = some activity := by
  unfold Activity.earlier? at chosen
  split at chosen
  · exact .inr chosen
  · exact .inl chosen
  · split at chosen
    · exact .inl chosen
    · exact .inr chosen

theorem Activity.earliest?_mem {activities : List Activity} {activity : Activity}
    (chosen : Activity.earliest? activities = some activity) : activity ∈ activities := by
  induction activities with
  | nil => contradiction
  | cons first rest ih =>
      rcases Activity.earlier?_eq_or chosen with same | later
      · rw [Option.some.inj same]
        exact List.mem_cons_self
      · exact List.mem_cons_of_mem first (ih later)

namespace State

def pendingDiscovery? (state : State) : Option Activity :=
  state.discovery.map .discovery

def pendingArrival? (state : State) : Option Activity :=
  match state.arrivals with
  | arrival :: later => some (.arrival arrival later)
  | [] => none

def pendingRenewal? (state : State) : Option Activity :=
  match state.held with
  | some session => Activity.earliest? (session.control.tasks.map (.renewal session))
  | none => none

def nextActivity? (state : State) : Option Activity :=
  Activity.earlier? (Activity.earlier? state.pendingDiscovery? state.pendingArrival?)
    state.pendingRenewal?

/-- The clock never goes back. -/
def reach (state : State) (instant : Nat) : State :=
  { state with now := max state.now instant }

def appListTimeout (state : State) : Nat :=
  state.controller.options.appListTimeout

/-- The request for the list has returned, or waiting for the list ends. -/
def continueDiscovery (state : State) : Phase → State
  | .requesting _ =>
    if state.gate.isResolved then { state with discovery := none }
    else { state with discovery := some (.waiting (state.now + state.appListTimeout)) }
  | .waiting _ => { state with gate := state.gate.expire, discovery := none }

def hold (state : State) (session : Session) : State :=
  { state with held := some session }

def sendFor (state : State) (session : Session) (task : RenewalTask) (request : Request)
    (next : Exchange → Renewal) : State :=
  let (state, exchange) := state.send request
  state.hold (session.resume task (some (next exchange)))

/-- A task goes on: it asks for the subscription to be continued, if that fails for a new one, and if
that fails too it tries again later.  It ends where there is no subscription. -/
def continueRenewal (state : State) (session : Session) (task : RenewalTask) : State :=
  let control := session.control
  let url := control.device.eventUrl
  match task.renewal with
  | .sleeping _ =>
    match control.sid with
    | none => state.hold (session.resume task none)
    | some sid => state.sendFor session task (renew url sid) .renewing
  | .renewing exchange =>
    let state := state.note (.answered .renewal exchange.answer)
    match readGrant url exchange.answer with
    | .ok grant => state.hold { session with control := control.renewed task grant state.now }
    | .error _ =>
      match control.callback with
      | some callback => state.sendFor session task (subscribe url callback) .resubscribing
      | none => state.hold (session.resume task none)
  | .resubscribing exchange =>
    let state := state.note (.answered .fallback exchange.answer)
    match readGrant url exchange.answer with
    | .ok grant => state.hold { session with control := control.renewed task grant state.now }
    | .error _ => state.hold (session.resume task (some (.sleeping (state.now + retryAfter))))

/-- What a task has waited for, if it did, has been answered. -/
def reported (state : State) (task : RenewalTask) : State :=
  match task.renewal with
  | .sleeping _ => state
  | .renewing exchange => state.note (.answered .renewal exchange.answer)
  | .resubscribing exchange => state.note (.answered .fallback exchange.answer)

@[elab_as_elim]
theorem reported_cases {motive : State → Prop} (state : State) (task : RenewalTask)
    (unanswered : motive state)
    (answered : ∀ asker answer, asker = .renewal ∨ asker = .fallback →
      motive (state.note (.answered asker answer))) : motive (state.reported task) := by
  unfold reported
  split
  · exact unanswered
  · exact answered _ _ (.inl rfl)
  · exact answered _ _ (.inr rfl)

/-- What becomes of a task that goes on, once its answer has been noted. -/
inductive Turn (state : State) (session : Session) (task : RenewalTask) : State → Prop where
  | ends : Turn state session task (state.hold (session.resume task none))
  | sleeps {wake} (ahead : state.now ≤ wake) :
      Turn state session task (state.hold (session.resume task (some (.sleeping wake))))
  | granted {answer grant} (granted : readGrant session.control.device.eventUrl answer = .ok grant) :
      Turn state session task
        (state.hold { session with control := session.control.renewed task grant state.now })
  | renews (sid : String) :
      Turn state session task
        (state.sendFor session task (renew session.control.device.eventUrl sid) .renewing)
  | subscribes {callback} (known : session.control.callback = some callback) :
      Turn state session task (state.sendFor session task
        (subscribe session.control.device.eventUrl callback) .resubscribing)

theorem continueRenewal_turn (state : State) (session : Session) (task : RenewalTask) :
    Turn (state.reported task) session task (state.continueRenewal session task) := by
  obtain ⟨number, renewal⟩ := task
  cases renewal with
  | sleeping wake =>
      simp only [continueRenewal, reported]
      split
      · exact .ends
      · exact .renews _
  | renewing exchange =>
      simp only [continueRenewal, reported]
      split
      · exact .granted ‹_›
      · split
        · exact .subscribes ‹_›
        · exact .ends
  | resubscribing exchange =>
      simp only [continueRenewal, reported]
      split
      · exact .granted ‹_›
      · exact .sleeps (Nat.le_add_right _ _)

def perform (state : State) (activity : Activity) : State :=
  let state := state.reach activity.due
  match activity with
  | .discovery phase => state.continueDiscovery phase
  | .arrival next later => { state with arrivals := later }.happen next.what
  | .renewal session next => state.continueRenewal session next

def discoveryWeight : Option Phase → Nat
  | none => 0
  | some (.waiting _) => 1
  | some (.requesting _) => 2

/-- The tasks of the session in use, if there is one. -/
def tasks (state : State) : List RenewalTask :=
  state.held.elim [] (·.control.tasks)

/-- A bound on the steps a task takes before the given instant, counting its end as one. -/
def renewalWeight (instant : Nat) : Renewal → Nat
  | .sleeping wake => 3 * (instant - wake) + 3
  | .renewing exchange => 3 * (instant - exchange.due) + 2
  | .resubscribing exchange => 3 * (instant - exchange.due) + 1

def taskWeight (instant : Nat) : List RenewalTask → Nat
  | [] => 0
  | task :: tasks => renewalWeight instant task.renewal + taskWeight instant tasks

def weight (instant : Nat) (state : State) : Nat :=
  state.arrivals.length + discoveryWeight state.discovery + taskWeight instant state.tasks

@[simp] theorem note_now (state : State) (what : Occurrence) : (state.note what).now = state.now :=
  rfl

@[simp] theorem note_arrivals (state : State) (what : Occurrence) :
    (state.note what).arrivals = state.arrivals := rfl

@[simp] theorem note_discovery (state : State) (what : Occurrence) :
    (state.note what).discovery = state.discovery := rfl

theorem send_arrivals (state : State) (request : Request) :
    (state.send request).1.arrivals = state.arrivals := by
  unfold send
  split <;> rfl

theorem send_discovery (state : State) (request : Request) :
    (state.send request).1.discovery = state.discovery := by
  unfold send
  split <;> rfl

theorem reach_ge (state : State) (instant : Nat) : instant ≤ (state.reach instant).now :=
  Nat.le_max_right _ _

theorem continueDiscovery_weight (instant : Nat) (state : State) (phase : Phase)
    (running : state.discovery = some phase) :
    (state.continueDiscovery phase).weight instant < state.weight instant := by
  cases phase with
  | requesting due =>
      simp only [continueDiscovery]
      split <;> simp [weight, tasks, running, discoveryWeight]
  | waiting deadline => simp [continueDiscovery, weight, tasks, running, discoveryWeight]

theorem receiveBy_weight (instant : Nat) (state : State) (session : Session) (body : String)
    (put : Session → State)
    (kept : ∀ after : Session, after.control.tasks = session.control.tasks →
      (put after).weight instant ≤ state.weight instant) :
    (receiveBy session body put).weight instant ≤ state.weight instant := by
  have same := session.receive_tasks body
  unfold receiveBy
  split
  rename_i after changed received
  rw [received] at same
  split
  · exact kept after same
  · exact kept after same

theorem receive_weight (instant : Nat) (state : State) (number : Nat) (body : String) :
    (state.receive number body).weight instant ≤ state.weight instant := by
  unfold receive
  split
  · split
    · rename_i session found
      have isHeld : state.held = some session := (Option.filter_eq_some_iff.mp found).1
      refine receiveBy_weight instant state session body _ fun after same => ?_
      simp [weight, tasks, isHeld, same]
    · split
      · exact receiveBy_weight instant state _ body _ fun _ _ => Nat.le_refl _
      · exact Nat.le_refl _
  · exact Nat.le_refl _

theorem delivered_weight (phase : Option Phase) :
    discoveryWeight (phase.bind Phase.delivered?) ≤ discoveryWeight phase := by
  rcases phase with _ | _ | _ <;> simp [Phase.delivered?, discoveryWeight]

theorem happen_weight (instant : Nat) (state : State) (what : Happening) :
    (state.happen what).weight instant ≤ state.weight instant := by
  cases what with
  | apps apps =>
      have bound := delivered_weight state.discovery
      simp only [happen, deliver, raise, note, weight, tasks]
      omega
  | body number body => exact receive_weight instant state number body
  | delivery number delivery =>
      exact state.happen_delivery number delivery (Nat.le_refl _) (receive_weight instant state number)
  | refusal => exact Nat.le_refl _

theorem erase_weight (instant : Nat) {tasks : List RenewalTask} {task : RenewalTask}
    (runs : task ∈ tasks) : taskWeight instant tasks =
      renewalWeight instant task.renewal + taskWeight instant (tasks.erase task) := by
  induction tasks with
  | nil => contradiction
  | cons first rest ih =>
      by_cases same : first = task
      · rw [same, List.erase_cons_head, taskWeight]
      · have later := (List.mem_cons.mp runs).resolve_left (Ne.symm same)
        rw [List.erase_cons_tail (by simpa using same), taskWeight, taskWeight, ih later]
        omega

/-- However a task goes on, the others are as they were. -/
theorem resume_weight (instant : Nat) {control : Control} {task : RenewalTask}
    (runs : task ∈ control.tasks) (next : Option Renewal) :
    taskWeight instant (control.resume task next).tasks + renewalWeight instant task.renewal =
      (next.map (renewalWeight instant)).getD 0 + taskWeight instant control.tasks := by
  have split := erase_weight instant runs
  cases next with
  | none => simp [Control.resume]; omega
  | some next => simp [Control.resume, taskWeight]; omega

theorem hold_weight (instant : Nat) (state : State) (session : Session) :
    (state.hold session).weight instant = state.arrivals.length + discoveryWeight state.discovery +
      taskWeight instant session.control.tasks := rfl

theorem sendFor_weight (instant : Nat) (state : State) {session : Session} {task : RenewalTask}
    (request : Request) (next : Exchange → Renewal) :
    (state.sendFor session task request next).weight instant =
      state.arrivals.length + discoveryWeight state.discovery +
        taskWeight instant
          (session.control.resume task (some (next (state.send request).2))).tasks := by
  simp only [sendFor, hold_weight, send_arrivals, send_discovery]
  rfl

theorem continueRenewal_weight (instant : Nat) (state : State) (session : Session)
    (task : RenewalTask) (runs : task ∈ session.control.tasks) (reached : task.due ≤ state.now)
    (before : task.due < instant) :
    (state.continueRenewal session task).weight instant <
      state.arrivals.length + discoveryWeight state.discovery +
        taskWeight instant session.control.tasks := by
  have patient : 30000 ≤ retryAfter := by decide
  have resumed := resume_weight instant runs
  obtain ⟨number, renewal⟩ := task
  simp only [RenewalTask.due] at reached before
  cases renewal with
  | sleeping wake =>
      simp only [Renewal.due, renewalWeight] at reached before resumed
      simp only [continueRenewal]
      split
      · have ended := resumed none
        simp only [hold_weight, Session.resume, Option.map_none, Option.getD_none] at ended ⊢
        omega
      · rename_i sid _
        have later := state.send_due_ge (renew session.control.device.eventUrl sid)
        have asks := resumed
          (some (.renewing (state.send (renew session.control.device.eventUrl sid)).2))
        simp only [sendFor_weight, Option.map_some, Option.getD_some, renewalWeight] at asks ⊢
        omega
  | renewing exchange =>
      simp only [Renewal.due, renewalWeight] at reached before resumed
      simp only [continueRenewal]
      split
      · rename_i grant _
        have long : 30000 ≤ renewAfter grant.duration := Nat.le_max_right _ _
        have sleeps := resumed (some (.sleeping (state.now + renewAfter grant.duration)))
        simp only [hold_weight, Control.renewed_tasks, note_now, note_arrivals, note_discovery,
          Option.map_some, Option.getD_some, renewalWeight] at sleeps ⊢
        omega
      · split
        · rename_i callback _
          have later := (state.note (.answered .renewal exchange.answer)).send_due_ge
            (subscribe session.control.device.eventUrl callback)
          simp only [note_now] at later
          have asks := resumed (some (.resubscribing
            ((state.note (.answered .renewal exchange.answer)).send
              (subscribe session.control.device.eventUrl callback)).2))
          simp only [sendFor_weight, note_arrivals, note_discovery, Option.map_some,
            Option.getD_some, renewalWeight] at asks ⊢
          omega
        · have ended := resumed none
          simp only [hold_weight, Session.resume, note_arrivals, note_discovery, Option.map_none,
            Option.getD_none] at ended ⊢
          omega
  | resubscribing exchange =>
      simp only [Renewal.due, renewalWeight] at reached before resumed
      simp only [continueRenewal]
      split
      · rename_i grant _
        have long : 30000 ≤ renewAfter grant.duration := Nat.le_max_right _ _
        have sleeps := resumed (some (.sleeping (state.now + renewAfter grant.duration)))
        simp only [hold_weight, Control.renewed_tasks, note_now, note_arrivals, note_discovery,
          Option.map_some, Option.getD_some, renewalWeight] at sleeps ⊢
        omega
      · have sleeps := resumed (some (.sleeping (state.now + retryAfter)))
        simp only [hold_weight, Session.resume, note_now, note_arrivals, note_discovery,
          Option.map_some, Option.getD_some, renewalWeight] at sleeps ⊢
        omega

theorem pendingRenewal?_mem {state : State} {activity : Activity}
    (isNext : state.pendingRenewal? = some activity) :
    ∃ session task, state.held = some session ∧ task ∈ session.control.tasks ∧
      activity = .renewal session task := by
  unfold pendingRenewal? at isNext
  split at isNext
  · rename_i session isHeld
    obtain ⟨task, runs, same⟩ := List.mem_map.mp (Activity.earliest?_mem isNext)
    exact ⟨session, task, isHeld, runs, same.symm⟩
  · contradiction

theorem nextActivity?_cases {state : State} {activity : Activity}
    (next : state.nextActivity? = some activity) :
    (∃ phase, state.discovery = some phase ∧ activity = .discovery phase) ∨
    (∃ arrival later, state.arrivals = arrival :: later ∧ activity = .arrival arrival later) ∨
    ∃ session task, state.held = some session ∧ task ∈ session.control.tasks ∧
      activity = .renewal session task := by
  rcases Activity.earlier?_eq_or next with inner | isRenewal
  · rcases Activity.earlier?_eq_or inner with isDiscovery | isArrival
    · obtain ⟨phase, running, same⟩ := Option.map_eq_some_iff.mp isDiscovery
      exact .inl ⟨phase, running, same.symm⟩
    · unfold pendingArrival? at isArrival
      split at isArrival
      · rename_i arrival later waiting
        exact .inr (.inl ⟨arrival, later, waiting, (Option.some.inj isArrival).symm⟩)
      · contradiction
  · exact .inr (.inr (pendingRenewal?_mem isRenewal))

theorem perform_weight {instant : Nat} {state : State} {activity : Activity}
    (next : state.nextActivity? = some activity) (before : activity.due < instant) :
    (state.perform activity).weight instant < state.weight instant := by
  rcases nextActivity?_cases next with ⟨phase, running, rfl⟩ | ⟨arrival, later, waiting, rfl⟩ |
    ⟨session, task, isHeld, runs, rfl⟩
  · exact continueDiscovery_weight instant (state.reach phase.due) phase running
  · refine Nat.lt_of_le_of_lt (happen_weight instant _ _) ?_
    simp only [weight, tasks, reach, waiting, List.length_cons]
    omega
  · refine Nat.lt_of_lt_of_eq (continueRenewal_weight instant (state.reach task.due) session
      task runs (reach_ge _ _) before) ?_
    simp [weight, tasks, reach, isHeld]

/-- Lets things go on that are due before the instant, as long as `more` holds. -/
def passWhile (instant : Nat) (more : State → Bool) (state : State) : State :=
  if more state then
    match _next : state.nextActivity? with
    | some activity =>
      if _before : activity.due < instant then passWhile instant more (state.perform activity)
      else state
    | none => state
  else state
termination_by state.weight instant
decreasing_by exact perform_weight _next _before

/-- What every activity keeps is kept as long as things go on. -/
theorem passWhile_keeps (holds : State → Prop)
    (performs : ∀ state activity, holds state → state.nextActivity? = some activity →
      holds (state.perform activity))
    (instant : Nat) (more : State → Bool) {state : State} (now : holds state) :
    holds (passWhile instant more state) := by
  fun_induction passWhile instant more state with
  | case1 state goesOn activity next before ih => exact ih (performs state activity now next)
  | case2 state goesOn activity next late => exact now
  | case3 state goesOn idle => exact now
  | case4 state done => exact now

def passTo (state : State) (instant : Nat) : State :=
  (passWhile instant (fun _ => true) state).reach instant

def settle (state : State) : State :=
  passWhile (state.now + 1) (fun _ => true) state

def awaitDiscovery (state : State) : State :=
  match state.discovery with
  | some phase => passWhile (phase.latest state.appListTimeout + 1) (·.discovery.isSome) state
  | none => state

end State

end Televisor.Run
