import Televisor.Run.Background
import Televisor.Run.Trace

/-! What goes on between two states that are published.  Each relation names what has been seen on
the way, the latest first: after `Tidings` the events and lists that were seen are all that the
controller may have learnt of; an `Advance` leaves the surroundings and the controller as they were
otherwise, a `Drift` also the receivers and the sessions, and in a `Passage` nothing happens but what
happens by itself. -/

namespace Televisor.Telemetry

/-- What is left of a session when everything that events and renewals touch is taken away. -/
def Session.still (session : Session) : Session :=
  { session with
    control := { session.control with
      volume := none, muted := none, sid := none, tasks := [], slot := none, spawned := 0 }
    snapshot := .empty }

end Televisor.Telemetry

namespace Televisor.Run

open Controller Discovery Telemetry

namespace State

/-- What is left of a state when everything that time touches is taken away. -/
def still (state : State) : State :=
  { state with
    now := 0
    replies := []
    arrivals := []
    gate := .unresolved
    discovery := none
    held := state.held.map Session.still
    draft := state.draft.map Session.still
    controller := { state.controller with authFailed := false }
    queue := []
    trace := [] }

/-- What is left when the receivers and the sessions are taken away too. -/
def base (state : State) : State :=
  { state.still with receivers := [], held := none, draft := none }

/-- What is left of a controller when everything that a poll may change is taken away. -/
def standing (state : State) : Controller :=
  { state.controller with
    authFailed := false, window := .closed, power := .off, volume := none, muted := none }

theorem standing_of_base {before after : State} (base : after.base = before.base) :
    after.standing = before.standing :=
  congrArg (·.standing) base

theorem base_of_still {before after : State} (still : after.still = before.still) :
    after.base = before.base :=
  congrArg (fun state => { state with receivers := [], held := none, draft := none }) still

def heard (state : State) : Option Snapshot :=
  state.held.map (·.snapshot)

end State

/-- The controller has no part in what was seen. -/
def Record.Aside (record : Record) : Prop :=
  record.published? = none

/-- Neither the controller nor a session that is set up has a part in what was seen. -/
def Record.Apart (record : Record) : Prop :=
  record.published? = none ∧ record.starting? = none ∧ record.listening? = none ∧
    record.stopped? = none

/-- It happens by itself: an event, a list of applications, or a request of a renewal and what
became of it. -/
def Record.Spontaneous (record : Record) : Prop :=
  match record.what with
  | .raised _ => True
  | .delivered _ => True
  | .called (.http request) => request.method = "SUBSCRIBE"
  | .answered .renewal _ => True
  | .answered .fallback _ => True
  | .took .. => True
  | _ => False

structure Tidings (before : State) (seen : List Record) (after : State) : Prop where
  standing : after.standing = before.standing
  clock : before.now ≤ after.now
  trace : after.trace = seen ++ before.trace
  aside : ∀ record ∈ seen, record.Aside
  queue : after.queue = before.queue ++ raisedIn seen
  authFailed : after.controller.authFailed = true ↔
    before.controller.authFailed = true ∨ Event.reauthRequired ∈ raisedIn seen
  apps : after.gate.apps? = (deliveredIn seen).or before.gate.apps?
  announced : deliveredIn seen ≠ none → Event.appsChanged ∈ raisedIn seen

structure Advance (before : State) (seen : List Record) (after : State) : Prop
    extends Tidings before seen after where
  base : after.base = before.base
  resolved : before.gate.isResolved = true → after.gate.isResolved = true

structure Drift (before : State) (seen : List Record) (after : State) : Prop
    extends Advance before seen after where
  still : after.still = before.still
  apart : ∀ record ∈ seen, record.Apart
  heard : after.heard = before.heard ∨ Event.telemetryChanged ∈ raisedIn seen

structure Passage (before : State) (seen : List Record) (after : State) : Prop
    extends Drift before seen after where
  spontaneous : ∀ record ∈ seen, record.Spontaneous

variable {before middle after : State} {seen later : List Record}

theorem Tidings.refl (state : State) : Tidings state [] state where
  standing := rfl
  clock := Nat.le_refl _
  trace := rfl
  aside := by simp
  queue := by simp [raisedIn]
  authFailed := by simp [raisedIn]
  apps := by simp [deliveredIn]
  announced := by simp [deliveredIn]

theorem Advance.refl (state : State) : Advance state [] state where
  toTidings := .refl state
  base := rfl
  resolved := id

/-- Something is seen that is neither an event nor a list nor a published state. -/
theorem Advance.note (state : State) (what : Occurrence)
    (unpublished : Record.published? ⟨state.now, what⟩ = none)
    (uneventful : Record.event? ⟨state.now, what⟩ = none)
    (undelivered : Record.delivered? ⟨state.now, what⟩ = none) :
    Advance state [⟨state.now, what⟩] (state.note what) where
  standing := rfl
  base := rfl
  clock := Nat.le_refl _
  trace := rfl
  aside := by simpa [Record.Aside] using unpublished
  queue := by simp [State.note, raisedIn, uneventful]
  authFailed := by simp [State.note, raisedIn, uneventful]
  apps := by simp [State.note, deliveredIn, undelivered]
  announced := by simp [deliveredIn, undelivered]
  resolved := id

theorem Tidings.trans (first : Tidings before seen middle) (second : Tidings middle later after) :
    Tidings before (later ++ seen) after where
  standing := second.standing.trans first.standing
  clock := Nat.le_trans first.clock second.clock
  trace := by rw [second.trace, first.trace, List.append_assoc]
  aside := by
    intro record member
    rcases List.mem_append.mp member with member | member
    · exact second.aside record member
    · exact first.aside record member
  queue := by rw [second.queue, first.queue, raisedIn_append, List.append_assoc]
  authFailed := by
    rw [second.authFailed, first.authFailed, raisedIn_append, List.mem_append, or_assoc]
  apps := by rw [second.apps, first.apps, deliveredIn_append, Option.or_assoc]
  announced := by
    intro delivered
    rw [deliveredIn_append] at delivered
    rw [raisedIn_append, List.mem_append]
    cases last : deliveredIn later with
    | some apps => exact .inr (second.announced (by simp [last]))
    | none => exact .inl (first.announced (by simpa [last] using delivered))

theorem Advance.trans (first : Advance before seen middle) (second : Advance middle later after) :
    Advance before (later ++ seen) after where
  toTidings := first.toTidings.trans second.toTidings
  base := second.base.trans first.base
  resolved := second.resolved ∘ first.resolved

theorem Drift.refl (state : State) : Drift state [] state where
  toAdvance := .refl state
  still := rfl
  apart := by simp
  heard := .inl rfl

/-- A change that nobody sees. -/
theorem Tidings.unseen (standing : after.standing = before.standing)
    (clock : before.now ≤ after.now) (trace : after.trace = before.trace)
    (queue : after.queue = before.queue)
    (authFailed : after.controller.authFailed = before.controller.authFailed)
    (apps : after.gate.apps? = before.gate.apps?) : Tidings before [] after where
  standing := standing
  clock := clock
  trace := trace
  aside := by simp
  queue := by simpa [raisedIn] using queue
  authFailed := by simp [raisedIn, authFailed]
  apps := by simpa [deliveredIn] using apps
  announced := by simp [deliveredIn]

theorem Advance.unseen (base : after.base = before.base) (clock : before.now ≤ after.now)
    (trace : after.trace = before.trace) (queue : after.queue = before.queue)
    (authFailed : after.controller.authFailed = before.controller.authFailed)
    (apps : after.gate.apps? = before.gate.apps?)
    (resolved : before.gate.isResolved = true → after.gate.isResolved = true) :
    Advance before [] after where
  toTidings := .unseen (State.standing_of_base base) clock trace queue authFailed apps
  base := base
  resolved := resolved

theorem Drift.unseen (still : after.still = before.still) (clock : before.now ≤ after.now)
    (trace : after.trace = before.trace) (queue : after.queue = before.queue)
    (authFailed : after.controller.authFailed = before.controller.authFailed)
    (apps : after.gate.apps? = before.gate.apps?)
    (resolved : before.gate.isResolved = true → after.gate.isResolved = true)
    (heard : after.heard = before.heard) : Drift before [] after where
  toAdvance := .unseen (State.base_of_still still) clock trace queue authFailed apps resolved
  still := still
  apart := by simp
  heard := .inl heard

theorem Drift.trans (first : Drift before seen middle) (second : Drift middle later after) :
    Drift before (later ++ seen) after where
  toAdvance := first.toAdvance.trans second.toAdvance
  still := second.still.trans first.still
  apart := by
    intro record member
    rcases List.mem_append.mp member with member | member
    · exact second.apart record member
    · exact first.apart record member
  heard := by
    rw [raisedIn_append, List.mem_append]
    rcases second.heard with same | changed
    · rcases first.heard with old | changed
      · exact .inl (same.trans old)
      · exact .inr (.inl changed)
    · exact .inr (.inr changed)

theorem Advance.followed (first : Advance before seen middle) (second : Advance middle [] after) :
    Advance before seen after :=
  first.trans second

theorem Drift.followed (first : Drift before seen middle) (second : Drift middle [] after) :
    Drift before seen after :=
  first.trans second

theorem Passage.refl (state : State) : Passage state [] state where
  toDrift := .refl state
  spontaneous := by simp

theorem Passage.trans (first : Passage before seen middle) (second : Passage middle later after) :
    Passage before (later ++ seen) after where
  toDrift := first.toDrift.trans second.toDrift
  spontaneous := by
    intro record member
    rcases List.mem_append.mp member with member | member
    · exact second.spontaneous record member
    · exact first.spontaneous record member

namespace Tidings

variable (tidings : Tidings before seen after)
include tidings

theorem options : after.controller.options = before.controller.options :=
  congrArg (·.options) tidings.standing

theorem shuttingDown : after.controller.shuttingDown = before.controller.shuttingDown :=
  congrArg (·.shuttingDown) tidings.standing

theorem published : after.controller.published = before.controller.published :=
  congrArg (·.published) tidings.standing

theorem publishedAt : after.controller.publishedAt = before.controller.publishedAt :=
  congrArg (·.publishedAt) tidings.standing

theorem version : after.controller.version = before.controller.version :=
  congrArg (·.version) tidings.standing

theorem shown : shownIn after.trace = shownIn before.trace := by
  have none : shownIn seen = [] := List.filterMap_eq_nil_iff.mpr tidings.aside
  rw [tidings.trace, shownIn_append, none, List.nil_append]

theorem delivered : deliveredIn after.trace = (deliveredIn seen).or (deliveredIn before.trace) := by
  rw [tidings.trace, deliveredIn_append]

theorem raised : raisedIn after.trace = raisedIn before.trace ++ raisedIn seen := by
  rw [tidings.trace, raisedIn_append]

end Tidings

namespace Advance

variable (advance : Advance before seen after)
include advance

theorem window : after.controller.window = before.controller.window :=
  congrArg (·.controller.window) advance.base

theorem power : after.controller.power = before.controller.power :=
  congrArg (·.controller.power) advance.base

/-- All that the controller may have learnt is that the television refuses this client. -/
theorem controller : after.controller =
    { before.controller with authFailed := after.controller.authFailed } :=
  congrArg (fun state => { state.controller with authFailed := after.controller.authFailed })
    advance.base

end Advance

namespace Drift

variable (drift : Drift before seen after)
include drift

theorem receivers : after.receivers = before.receivers :=
  congrArg (·.receivers) drift.still

theorem held : after.held.map Session.still = before.held.map Session.still :=
  congrArg (·.held) drift.still

theorem draft : after.draft.map Session.still = before.draft.map Session.still :=
  congrArg (·.draft) drift.still

theorem held_none (unheld : before.held = none) : after.held = none := by
  have held := drift.held
  rw [unheld, Option.map_none, Option.map_eq_none_iff] at held
  exact held

theorem draft_none (undrafted : before.draft = none) : after.draft = none := by
  have draft := drift.draft
  rw [undrafted, Option.map_none, Option.map_eq_none_iff] at draft
  exact draft

theorem starts : startsIn seen = [] :=
  List.filterMap_eq_nil_iff.mpr fun record member => (drift.apart record member).2.1

theorem begun : begunIn after.trace = begunIn before.trace := by
  have calm : begunIn seen = [] :=
    List.filterMap_eq_nil_iff.mpr fun record member => (drift.apart record member).2.2.1
  rw [drift.trace, begunIn_append, calm, List.nil_append]

end Drift

end Televisor.Run
