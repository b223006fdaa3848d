import Televisor.Rendering.Control

namespace Televisor.Telemetry

open Media Rendering

/-! A telemetry session: a handle on a renderer that sends events to a receiver of ours. -/

inductive Status where
  | unsubscribed
  | subscribed
  /-- The renderer refused to send events. -/
  | rejected
deriving Repr, DecidableEq

def Status.name : Status → String
  | .unsubscribed => "Unsubscribed"
  | .subscribed => "Subscribed"
  | .rejected => "Rejected"

structure Snapshot where
  volume : Option Level
  muted : Option Bool
deriving Repr, DecidableEq

def Snapshot.empty : Snapshot := ⟨none, none⟩

structure Session where
  control : Control
  /-- The number of the receiver that the events come to. -/
  receiver : Nat
  status : Status
  snapshot : Snapshot
  alive : Bool
deriving Repr, DecidableEq

namespace Session

/-- A session whose subscription has not been answered yet, its handler attached. -/
def fresh (control : Control) (receiver : Nat) : Session :=
  ⟨{ control with attached := true }, receiver, .unsubscribed, .empty, true⟩

/-- A task goes on from here, or has come to its end. -/
def resume (session : Session) (task : RenewalTask) (next : Option Renewal) : Session :=
  { session with control := session.control.resume task next }

/-- Takes over the values the handle has; what it does not have stays. -/
def remember (snapshot : Snapshot) (control : Control) : Snapshot where
  volume := control.level?.or snapshot.volume
  muted := control.muted.or snapshot.muted

/-- An event body arrives; the answer tells whether a change is reported.  A rejected session passes
nothing on. -/
def receive (session : Session) (body : String) : Session × Bool :=
  let control := session.control.absorb (parseLastChange body)
  if control.attached && session.status != .rejected then
    ({ session with control := control, snapshot := remember session.snapshot control }, true)
  else ({ session with control := control }, false)

/-- What arrives does not touch the subscription. -/
theorem receive_tasks (session : Session) (body : String) :
    (session.receive body).1.control.tasks = session.control.tasks := by
  simp only [receive]
  split <;> rfl

theorem receive_slot (session : Session) (body : String) :
    (session.receive body).1.control.slot = session.control.slot := by
  simp only [receive]
  split <;> rfl

theorem receive_tended {session : Session} (tended : session.control.Tended) (body : String) :
    (session.receive body).1.control.Tended :=
  tended.like (session.receive_tasks body) (session.receive_slot body)

end Session

end Televisor.Telemetry
