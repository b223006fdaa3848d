import Televisor.Proofs.Run.Exchange

namespace Televisor.Telemetry

/-- What is left of a session when everything that events touch is taken away. -/
def Session.deaf (session : Session) : Session :=
  { session with
    control := { session.control with volume := none, muted := none }
    snapshot := .empty }

theorem Session.receive_deaf (session : Session) (body : String) :
    (session.receive body).1.deaf = session.deaf := by
  simp only [receive]
  split <;> rfl

end Televisor.Telemetry

namespace Televisor.Run

open Controller Discovery Network Telemetry

/-! Time that passes while no session is held.  Nobody renews a subscription then, so no call is made
and no reply is used up. -/

structure Lull (before after : State) : Prop where
  held : after.held = before.held
  draft : after.draft.map Session.deaf = before.draft.map Session.deaf
  receivers : after.receivers = before.receivers
  host : after.host = before.host
  replies : after.replies = before.replies
  patience : after.patience = before.patience
  trace : before.trace <:+ after.trace
  calls : callsIn after.trace = callsIn before.trace

namespace Lull

variable {before middle after : State}

theorem refl (state : State) : Lull state state :=
  ⟨rfl, rfl, rfl, rfl, rfl, rfl, List.suffix_refl _, rfl⟩

theorem trans (first : Lull before middle) (second : Lull middle after) : Lull before after where
  held := second.held.trans first.held
  draft := second.draft.trans first.draft
  receivers := second.receivers.trans first.receivers
  host := second.host.trans first.host
  replies := second.replies.trans first.replies
  patience := second.patience.trans first.patience
  trace := first.trace.trans second.trace
  calls := second.calls.trans first.calls

end Lull

namespace State

variable (state : State)

theorem note_lull (what : Occurrence) (silent : Record.call? ⟨state.now, what⟩ = none) :
    Lull state (state.note what) := by
  refine ⟨rfl, rfl, rfl, rfl, rfl, rfl, List.suffix_cons _ _, ?_⟩
  simp [note, callsIn, silent]

theorem raise_lull (event : Event) : Lull state (state.raise event) := by
  have noted := state.note_lull (.raised event) rfl
  exact ⟨rfl, rfl, rfl, rfl, rfl, rfl, noted.trace, noted.calls⟩

theorem refuse_lull : Lull state state.refuse := by
  have raised := state.raise_lull .reauthRequired
  exact ⟨rfl, rfl, rfl, rfl, rfl, rfl, raised.trace, raised.calls⟩

theorem deliver_lull (apps : Apps) : Lull state (state.deliver apps) := by
  have noted := state.note_lull (.delivered apps) rfl
  have raised := (state.note (.delivered apps)).raise_lull .appsChanged
  have both := noted.trans raised
  exact ⟨rfl, rfl, rfl, rfl, rfl, rfl, both.trace, both.calls⟩

/-- A body can only come to the session that is being set up. -/
theorem receive_lull (unheld : state.held = none) (number : Nat) (body : String) :
    Lull state (state.receive number body) := by
  unfold receive
  split
  · split
    · rename_i session found
      simp [unheld] at found
    split
    · rename_i session found
      have isDraft : state.draft = some session := (Option.filter_eq_some_iff.mp found).1
      have taken : Lull state { state with draft := some (session.receive body).1 } := by
        refine ⟨rfl, ?_, rfl, rfl, rfl, rfl, List.suffix_refl _, rfl⟩
        simp [isDraft, session.receive_deaf body]
      have noted := taken.trans (note_lull _ (.took body (session.receive body).1) rfl)
      unfold receiveBy
      simp only
      split
      · exact noted.trans (raise_lull _ _)
      · exact noted
    · exact .refl state
  · exact .refl state

theorem happen_lull (unheld : state.held = none) (what : Happening) :
    Lull state (state.happen what) := by
  cases what with
  | apps apps => exact state.deliver_lull apps
  | body number body => exact state.receive_lull unheld number body
  | delivery number delivery =>
      exact state.happen_delivery number delivery (.refl state) (state.receive_lull unheld number)
  | refusal => exact state.refuse_lull

theorem continueDiscovery_lull (phase : Phase) : Lull state (state.continueDiscovery phase) := by
  cases phase with
  | requesting due =>
      simp only [continueDiscovery]
      split <;> exact ⟨rfl, rfl, rfl, rfl, rfl, rfl, List.suffix_refl _, rfl⟩
  | waiting deadline => exact ⟨rfl, rfl, rfl, rfl, rfl, rfl, List.suffix_refl _, rfl⟩

theorem reach_lull (instant : Nat) : Lull state (state.reach instant) :=
  ⟨rfl, rfl, rfl, rfl, rfl, rfl, List.suffix_refl _, rfl⟩

variable {state}

theorem perform_lull (unheld : state.held = none) {activity : Activity}
    (next : state.nextActivity? = some activity) : Lull state (state.perform activity) := by
  have reached := state.reach_lull activity.due
  rcases nextActivity?_cases next with ⟨phase, _, rfl⟩ | ⟨arrival, later, _, rfl⟩ |
    ⟨session, renewal, isHeld, _, rfl⟩
  · exact reached.trans (continueDiscovery_lull _ phase)
  · have taken : Lull (state.reach arrival.due)
        { state.reach arrival.due with arrivals := later } :=
      ⟨rfl, rfl, rfl, rfl, rfl, rfl, List.suffix_refl _, rfl⟩
    exact (reached.trans taken).trans
      (happen_lull { state.reach arrival.due with arrivals := later } unheld arrival.what)
  · cases unheld.symm.trans isHeld

theorem passWhile_lull (unheld : state.held = none) (instant : Nat) (more : State → Bool) :
    Lull state (passWhile instant more state) := by
  refine passWhile_keeps (Lull state) ?_ instant more (.refl state)
  intro middle activity lull next
  exact lull.trans (perform_lull (lull.held.trans unheld) next)

theorem passTo_lull (unheld : state.held = none) (instant : Nat) :
    Lull state (state.passTo instant) :=
  (passWhile_lull unheld instant _).trans (reach_lull _ instant)

theorem wait_lull (unheld : state.held = none) (duration : Nat) :
    Lull state (state.wait duration) :=
  passTo_lull unheld _

theorem awaitDiscovery_lull (unheld : state.held = none) : Lull state state.awaitDiscovery := by
  unfold awaitDiscovery
  split
  · exact passWhile_lull unheld _ _
  · exact .refl state

end State

end Televisor.Run
