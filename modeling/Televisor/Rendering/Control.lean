import Televisor.Rendering.Exchange
import Televisor.Rendering.LastChange

namespace Televisor.Rendering

open Media Network

/-! The handle on a renderer.  Volume and mute are whatever the last event said; the subscription is
kept alive by a task that goes on by itself.  A task ends on its own or is stopped through the slot it
was put in; one that is not in the slot any more cannot be stopped. -/

inductive Renewal where
  | sleeping (wake : Nat)
  /-- The subscription has been asked to go on. -/
  | renewing (exchange : Exchange)
  /-- It would not go on, and a new one has been asked for. -/
  | resubscribing (exchange : Exchange)
deriving Repr, DecidableEq

def Renewal.due : Renewal → Nat
  | .sleeping wake => wake
  | .renewing exchange => exchange.due
  | .resubscribing exchange => exchange.due

/-- Milliseconds until the next attempt when neither renewing nor subscribing again worked. -/
def retryAfter : Nat :=
  renewAfter (2 * leastRenewal)

structure RenewalTask where
  /-- No two tasks that one handle has spawned have the same number. -/
  number : Nat
  renewal : Renewal
deriving Repr, DecidableEq

def RenewalTask.due (task : RenewalTask) : Nat :=
  task.renewal.due

structure Control where
  device : Device
  callback : Option String
  volume : Option Nat
  muted : Option Bool
  /-- Whether events are passed on. -/
  attached : Bool
  sid : Option String
  /-- Whatever goes on by itself. -/
  tasks : List RenewalTask
  /-- The number of the task that was spawned last, unless it was stopped. -/
  slot : Option Nat
  spawned : Nat
deriving Repr, DecidableEq

namespace Control

def ofDevice (device : Device) (callback : Option String) : Control :=
  ⟨device, callback, none, none, false, none, [], none, 0⟩

/-- Takes over what an event says; what it does not say stays. -/
def absorb (control : Control) (update : Update) : Control :=
  { control with
    volume := update.volume.or control.volume
    muted := update.muted.or control.muted }

def level? (control : Control) : Option Level :=
  control.volume.map Level.ofPercent

/-- Where the renewal of the subscription stands, if it goes on. -/
def renewal (control : Control) : Option Renewal :=
  control.tasks.head?.map (·.renewal)

/-- The task in the slot goes no further, whatever it waits for. -/
def stopRenewal (control : Control) : Control :=
  { control with
    tasks := control.tasks.filter (some ·.number != control.slot)
    slot := none }

/-- A task that sleeps first takes the slot.  Others are left alone, the one in the slot too. -/
def spawnRenewal (control : Control) (wake : Nat) : Control :=
  { control with
    tasks := ⟨control.spawned, .sleeping wake⟩ :: control.tasks
    slot := some control.spawned
    spawned := control.spawned + 1 }

/-- A task goes on from here, or has come to its end. -/
def resume (control : Control) (task : RenewalTask) (next : Option Renewal) : Control :=
  { control with tasks := (next.map (RenewalTask.mk task.number)).toList ++ control.tasks.erase task }

/-- Somebody has subscribed at `now`, and the subscription is renewed from here. -/
def granted (control : Control) (grant : Grant) (now : Nat) : Control :=
  { control with sid := some grant.sid }.stopRenewal.spawnRenewal (now + renewAfter grant.duration)

/-- A task has been granted the subscription it asked for at `now`, and sleeps again. -/
def renewed (control : Control) (task : RenewalTask) (grant : Grant) (now : Nat) : Control :=
  { control with sid := some grant.sid }.resume task
    (some (.sleeping (now + renewAfter grant.duration)))

theorem renewed_tasks (control : Control) (task : RenewalTask) (grant : Grant) (now : Nat) :
    (control.renewed task grant now).tasks =
      (control.resume task (some (.sleeping (now + renewAfter grant.duration)))).tasks :=
  rfl

/-- The subscription is over. -/
def forget (control : Control) : Control :=
  { control.stopRenewal with sid := none }

/-- At most one task goes on, and it can be stopped. -/
structure Tended (control : Control) : Prop where
  single : control.tasks.length ≤ 1
  kept : ∀ task ∈ control.tasks, control.slot = some task.number

theorem Tended.of_idle {control : Control} (idle : control.tasks = []) : control.Tended where
  single := by simp [idle]
  kept := by simp [idle]

theorem exists_task {control : Control} {renewal : Renewal}
    (runs : control.renewal = some renewal) : ∃ task ∈ control.tasks, task.renewal = renewal := by
  obtain ⟨task, first, same⟩ := Option.map_eq_some_iff.mp runs
  exact ⟨task, List.mem_of_head? first, same⟩

theorem tasks_eq_nil {control : Control} (idle : control.renewal = none) : control.tasks = [] := by
  simpa [renewal] using idle

theorem granted_renewal (control : Control) (grant : Grant) (now : Nat) :
    (control.granted grant now).renewal = some (.sleeping (now + renewAfter grant.duration)) :=
  rfl

namespace Tended

variable {control other : Control} {task : RenewalTask}

theorem like (tended : control.Tended) (tasks : other.tasks = control.tasks)
    (slot : other.slot = control.slot) : other.Tended where
  single := tasks ▸ tended.single
  kept := by
    rw [tasks, slot]
    exact tended.kept

theorem tasks_eq (tended : control.Tended) (runs : task ∈ control.tasks) :
    control.tasks = [task] := by
  have single := tended.single
  match listed : control.tasks with
  | [] => simp [listed] at runs
  | [only] => simpa [listed, eq_comm] using runs
  | first :: second :: rest => simp [listed] at single

theorem renewal_eq (tended : control.Tended) (runs : task ∈ control.tasks) :
    control.renewal = some task.renewal := by
  rw [renewal, tended.tasks_eq runs]
  rfl

/-- What is in the slot is all that has to be stopped. -/
theorem stopRenewal_tasks (tended : control.Tended) : control.stopRenewal.tasks = [] := by
  refine List.filter_eq_nil_iff.mpr fun task runs => ?_
  simp [tended.kept task runs]

theorem stopRenewal (tended : control.Tended) : control.stopRenewal.Tended :=
  .of_idle tended.stopRenewal_tasks

theorem forget (tended : control.Tended) : control.forget.Tended :=
  tended.stopRenewal.like rfl rfl

theorem forget_renewal (tended : control.Tended) : control.forget.renewal = none := by
  have idle : control.forget.tasks = [] := tended.stopRenewal_tasks
  rw [renewal, idle, List.head?_nil, Option.map_none]

theorem spawnRenewal (idle : control.tasks = []) (wake : Nat) :
    (control.spawnRenewal wake).Tended where
  single := by simp [Control.spawnRenewal, idle]
  kept := by simp [Control.spawnRenewal, idle]

theorem granted (tended : control.Tended) (grant : Grant) (now : Nat) :
    (control.granted grant now).Tended :=
  have named : { control with sid := some grant.sid }.Tended := tended.like rfl rfl
  .spawnRenewal named.stopRenewal_tasks _

theorem resume_tasks (tended : control.Tended) (runs : task ∈ control.tasks)
    (next : Option Renewal) :
    (control.resume task next).tasks = (next.map (RenewalTask.mk task.number)).toList := by
  simp [Control.resume, tended.tasks_eq runs]

theorem resume (tended : control.Tended) (runs : task ∈ control.tasks) (next : Option Renewal) :
    (control.resume task next).Tended where
  single := by
    rw [tended.resume_tasks runs]
    cases next <;> simp
  kept := by
    rw [tended.resume_tasks runs]
    intro other member
    obtain ⟨renewal, _, rfl⟩ := Option.map_eq_some_iff.mp (Option.mem_toList.mp member)
    exact tended.kept task runs

theorem resume_renewal (tended : control.Tended) (runs : task ∈ control.tasks)
    (next : Option Renewal) : (control.resume task next).renewal = next := by
  rw [renewal, tended.resume_tasks runs]
  cases next <;> rfl

theorem renewed (tended : control.Tended) (runs : task ∈ control.tasks) (grant : Grant)
    (now : Nat) : (control.renewed task grant now).Tended :=
  have named : { control with sid := some grant.sid }.Tended := tended.like rfl rfl
  named.resume runs _

theorem renewed_renewal (tended : control.Tended) (runs : task ∈ control.tasks) (grant : Grant)
    (now : Nat) : (control.renewed task grant now).renewal =
      some (.sleeping (now + renewAfter grant.duration)) :=
  have named : { control with sid := some grant.sid }.Tended := tended.like rfl rfl
  named.resume_renewal runs _

end Tended

end Control

end Televisor.Rendering
