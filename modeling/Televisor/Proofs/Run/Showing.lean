import Televisor.Proofs.Run.Publication

namespace Televisor.Run

open Controller Media

/-! Laws for the records of a trace, each in view of what was seen before it; and what is shown at all
times: what a controller makes of what it knows by then. -/

/-- Every record of a trace obeys a law, given the records before it. -/
def Always (law : Record → List Record → Prop) : List Record → Prop
  | [] => True
  | record :: earlier => law record earlier ∧ Always law earlier

namespace Always

variable {law : Record → List Record → Prop} {seen trace : List Record}

theorem append (always : Always law trace) (obeyed : ∀ later record earlier,
    seen = later ++ record :: earlier → law record (earlier ++ trace)) :
    Always law (seen ++ trace) := by
  induction seen with
  | nil => exact always
  | cons record earlier ih =>
      refine ⟨obeyed [] record earlier rfl, ih fun later other before same => ?_⟩
      exact obeyed (record :: later) other before (by rw [same, List.cons_append])

theorem exempt (always : Always law trace) (free : ∀ record ∈ seen, ∀ earlier, law record earlier) :
    Always law (seen ++ trace) := by
  refine always.append fun later record earlier same => free record ?_ _
  simp [same]

theorem at_record {record : Record} {later earlier : List Record}
    (always : Always law (later ++ record :: earlier)) : law record earlier := by
  induction later with
  | nil => exact always.1
  | cons _ rest ih => exact ih always.2

end Always

/-- What is published is what a controller makes of what it knows, and it knows of every refusal. -/
def Record.Shows (record : Record) (earlier : List Record) : Prop :=
  ∀ published, record.published? = some published → ∃ (controller : Controller) (gate : _),
    published = controller.mediaState gate record.time ∧
      (controller.authFailed = true ↔ Event.reauthRequired ∈ raisedIn earlier)

theorem Record.Aside.shows {record : Record} (aside : record.Aside) (earlier : List Record) :
    record.Shows earlier := by
  intro published found
  rw [aside] at found
  contradiction

namespace State

variable {state after : State}

/-- The controller knows of every refusal, and did whenever it has shown anything. -/
structure Candid (state : State) : Prop where
  refused : state.controller.authFailed = true ↔ Event.reauthRequired ∈ raisedIn state.trace
  shows : Always Record.Shows state.trace

theorem Candid.tidings {seen : List Record} (candid : state.Candid)
    (tidings : Tidings state seen after) : after.Candid where
  refused := by rw [tidings.authFailed, tidings.raised, List.mem_append, candid.refused]
  shows := by
    rw [tidings.trace]
    exact candid.shows.exempt fun record member => (tidings.aside record member).shows

theorem Candid.unchanged (candid : state.Candid) (trace : after.trace = state.trace)
    (authFailed : after.controller.authFailed = state.controller.authFailed) : after.Candid where
  refused := by
    rw [authFailed, trace]
    exact candid.refused
  shows := by
    rw [trace]
    exact candid.shows

theorem Candid.publish (candid : state.Candid) : state.publish.Candid := by
  rcases state.publish_cases with ⟨_, published⟩ | ⟨_, published⟩
  · rw [published]
    exact candid.unchanged rfl rfl
  · rw [published]
    refine ⟨candid.refused, fun shown found => ?_, candid.shows⟩
    exact ⟨state.controller, state.gate, (Option.some.inj found).symm, candid.refused⟩

theorem Candid.prepared (candid : state.Candid) (command : Command) :
    (state.prepared command).Candid := by
  by_cases off : command = .turnOff
  · subst off
    have armed : { state with controller := { state.controller with
        window := state.controller.window.arm state.now state.controller.options.pollInterval }
        }.Candid := candid.unchanged rfl rfl
    exact armed.publish
  · obtain ⟨playing, same⟩ := prepare_other state.controller state.gate state.now off
    unfold State.prepared
    rw [same, setController_eq]
    exact candid.unchanged (by simp [State.shows]) rfl

theorem Candid.handleEvent (candid : state.Candid) (event : Event) :
    (state.handleEvent event).Candid := by
  cases event with
  | telemetryChanged => exact (candid.tidings state.refresh_tidings).publish
  | _ => exact candid.publish

theorem Candid.step {operation : Operation} (candid : state.Candid)
    (step : state.Step operation after) : after.Candid := by
  cases step with
  | polled gathering =>
      obtain ⟨seen, tidings⟩ := gathering.tidings
      exact (candid.tidings tidings).publish
  | carriedOut drift => exact (candid.prepared _).tidings drift.toTidings
  | @handled event rest _ =>
      have popped : { state with queue := rest }.Candid := candid.unchanged rfl rfl
      exact popped.handleEvent event
  | ended _ advance _ _ =>
      have ending : state.ending.Candid := candid.unchanged rfl rfl
      exact ending.tidings advance.toTidings
  | drifted drift => exact candid.tidings drift.toTidings
  | surrounded _ _ _ _ _ => exact candid.unchanged rfl rfl

theorem Candid.run (candid : state.Candid) (housed : state.Housed) (operations : List Operation) :
    (state.run operations).Candid := by
  induction operations generalizing state with
  | nil => exact candid
  | cons operation rest ih =>
      rw [run_cons]
      exact ih (candid.step (apply_step housed operation)) (housed.apply operation)

theorem Candid.initial (options : Options) (television : Television) (host : Host)
    (replies : Network.Replies) (patience : Option Nat) :
    (State.initial options television host replies patience).Candid where
  refused := by
    have trusted : (Controller.new options).authFailed = false := publish_authFailed _ _ _
    simp [State.initial, trusted, raisedIn]
  shows := trivial

end State

end Televisor.Run
