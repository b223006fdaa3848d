import Televisor.Proofs.Run.View

namespace Televisor.Run

open Controller Discovery Network Rendering Telemetry

/-! How the list of applications comes, and everything besides, each looked at alone. -/

/-- It has to do with the list of applications. -/
def Record.ofApps (record : Record) : Bool :=
  match record.what with
  | .called .requestAppList | .delivered _ | .raised .appsChanged => true
  | _ => false

/-- It has to do neither with the list nor with what is published. -/
def Record.besidesApps (record : Record) : Bool :=
  !record.ofApps && record.published?.isNone

def Arrival.bringsApps (arrival : Arrival) : Bool :=
  match arrival.what with
  | .apps _ => true
  | _ => false

def Activity.ofApps : Activity → Bool
  | .discovery _ => true
  | .arrival next _ => next.bringsApps
  | .renewal _ _ => false

namespace State

/-- What is left of a state when everything is taken away that has no part in how the list comes. -/
def onlyApps (state : State) : State :=
  { state with
    replies := []
    arrivals := state.arrivals.filter Arrival.bringsApps
    receivers := []
    held := none
    draft := none
    controller := .unpublished { state.controller.options with location := none }
    queue := state.queue.filter (· == .appsChanged)
    trace := state.trace.filter Record.ofApps }

/-- What is left when everything is taken away that has a part in it, and what is published. -/
def besidesApps (state : State) : State :=
  { state with
    arrivals := state.arrivals.filter (!·.bringsApps)
    gate := .empty
    discovery := none
    controller :=
      { state.controller with
        volume := none, muted := none, published := .initial "", publishedAt := 0, version := 0 }
    queue := state.queue.filter (· != .appsChanged)
    trace := state.trace.filter Record.besidesApps }

section Same

variable {first second : State}

theorem now_of_onlyApps (same : first.onlyApps = second.onlyApps) : first.now = second.now :=
  congrArg (·.now) same

theorem now_of_besidesApps (same : first.besidesApps = second.besidesApps) :
    first.now = second.now :=
  congrArg (·.now) same

theorem held_of_besidesApps (same : first.besidesApps = second.besidesApps) :
    first.held = second.held :=
  congrArg (·.held) same

theorem receivers_of_besidesApps (same : first.besidesApps = second.besidesApps) :
    first.receivers = second.receivers :=
  congrArg (·.receivers) same

theorem seen_of_besidesApps (same : first.besidesApps = second.besidesApps) :
    first.trace.filter Record.besidesApps = second.trace.filter Record.besidesApps :=
  congrArg (·.trace) same

end Same

variable {state : State}

/-- Of whatever arrivals one looks at, none goes before the first of all. -/
theorem filter_arrivals (keeps : Arrival → Bool) (ordered : state.Ordered) {first : Arrival}
    {later : List Arrival} (comes : state.arrivals.filter keeps = first :: later) :
    ∃ head rest, state.arrivals = head :: rest ∧ head.due ≤ first.due := by
  have listed : first ∈ state.arrivals := (List.mem_filter.mp (comes ▸ List.mem_cons_self)).1
  cases all : state.arrivals with
  | nil => simp [all] at listed
  | cons head rest =>
      refine ⟨head, rest, rfl, ?_⟩
      rw [Ordered, all] at ordered
      rw [all] at listed
      rcases List.mem_cons.mp listed with rfl | behind
      · exact Nat.le_refl _
      · exact List.rel_of_pairwise_cons ordered behind

/-! What has no part in how the list comes. -/

theorem note_onlyApps (state : State) (what : Occurrence) (other : Record.ofApps ⟨state.now, what⟩ = false) :
    (state.note what).onlyApps = state.onlyApps := by
  simp [note, onlyApps, other]

theorem call_onlyApps {call : Call} (other : call ≠ .requestAppList) :
    (state.call call).onlyApps = state.onlyApps := by
  refine note_onlyApps state _ ?_
  cases call with
  | requestAppList => exact absurd rfl other
  | _ => rfl

theorem raise_onlyApps (state : State) {event : Event} (other : event ≠ .appsChanged) :
    (state.raise event).onlyApps = state.onlyApps := by
  cases event with
  | appsChanged => exact absurd rfl other
  | _ => simp [raise, note, onlyApps, Record.ofApps]

theorem refuse_onlyApps (state : State) : state.refuse.onlyApps = state.onlyApps := by
  have other : Event.reauthRequired ≠ .appsChanged := nofun
  exact raise_onlyApps { state with
    controller := { state.controller with authFailed := true } } other

theorem receiveBy_onlyApps (session : Session) (body : String) (put : Session → State)
    (kept : ∀ after, (put after).onlyApps = state.onlyApps) :
    (receiveBy session body put).onlyApps = state.onlyApps := by
  have noted := (note_onlyApps _ (.took body (session.receive body).1) rfl).trans
    (kept (session.receive body).1)
  unfold receiveBy
  simp only
  split
  · exact (raise_onlyApps _ (by decide)).trans noted
  · exact noted

theorem receive_onlyApps (state : State) (number : Nat) (body : String) :
    (state.receive number body).onlyApps = state.onlyApps := by
  unfold receive
  split
  · split
    · exact receiveBy_onlyApps _ _ _ fun _ => rfl
    · split
      · exact receiveBy_onlyApps _ _ _ fun _ => rfl
      · rfl
  · rfl

theorem send_onlyApps (request : Request) : (state.send request).1.onlyApps = state.onlyApps := by
  unfold send
  split
  · rfl
  · rename_i built _
    have other : Call.http built ≠ .requestAppList := nofun
    exact call_onlyApps other

theorem hold_onlyApps (session : Session) : (state.hold session).onlyApps = state.onlyApps := rfl

theorem sendFor_onlyApps (session : Session) (task : RenewalTask) (request : Request)
    (next : Exchange → Renewal) :
    (state.sendFor session task request next).onlyApps = state.onlyApps := by
  simp only [sendFor]
  rw [hold_onlyApps, send_onlyApps]

theorem reported_onlyApps (task : RenewalTask) : (state.reported task).onlyApps = state.onlyApps :=
  reported_cases state task rfl fun asker answer _ =>
    note_onlyApps state (.answered asker answer) rfl

theorem continueRenewal_onlyApps (session : Session) (task : RenewalTask) :
    (state.continueRenewal session task).onlyApps = state.onlyApps := by
  rw [← state.reported_onlyApps task]
  have turn := state.continueRenewal_turn session task
  generalize state.reported task = told at turn ⊢
  generalize state.continueRenewal session task = after at turn ⊢
  cases turn with
  | ends | sleeps _ | granted _ => rfl
  | renews _ | subscribes _ => exact told.sendFor_onlyApps session task _ _

theorem pending_onlyApps {due : Nat} (ordered : state.Ordered)
    (pending : state.onlyApps.Pending due) : ∃ earlier ≤ due, state.Pending earlier := by
  cases pending with
  | @discovery phase running =>
      have waits : state.discovery = some phase := running
      exact ⟨_, Nat.le_refl _, .discovery waits⟩
  | arrival comes =>
      obtain ⟨head, rest, comesFirst, early⟩ := filter_arrivals _ ordered comes
      exact ⟨head.due, early, .arrival comesFirst⟩
  | renewal runs => simp [tasks, onlyApps] at runs

theorem happen_onlyApps {arrival : Arrival} (other : arrival.bringsApps = false) :
    (state.happen arrival.what).onlyApps = state.onlyApps := by
  cases what : arrival.what with
  | apps apps => simp [Arrival.bringsApps, what] at other
  | body number body => exact receive_onlyApps _ number body
  | delivery number delivery =>
      exact state.happen_delivery number delivery rfl (receive_onlyApps state number)
  | refusal => exact state.refuse_onlyApps

theorem perform_hidden_onlyApps {activity : Activity} (next : state.nextActivity? = some activity)
    (other : activity.ofApps = false) :
    (state.perform activity).onlyApps = state.onlyApps.reach activity.due := by
  cases activity with
  | discovery phase => cases other
  | arrival arrival later =>
      have fewer : later.filter Arrival.bringsApps = state.arrivals.filter Arrival.bringsApps := by
        have unseen : ¬ arrival.bringsApps = true := Bool.eq_false_iff.mp other
        rw [(nextActivity?_eq_some.mp next).1, List.filter_cons_of_neg unseen]
      refine (happen_onlyApps other).trans ?_
      simp only [onlyApps, fewer]
      rfl
  | renewal session task => exact continueRenewal_onlyApps session task

theorem continueDiscovery_onlyApps (state : State) (phase : Phase) :
    (state.continueDiscovery phase).onlyApps = state.onlyApps.continueDiscovery phase := by
  cases phase with
  | requesting due =>
      by_cases resolved : state.gate.isResolved = true
      · simp [continueDiscovery, onlyApps, resolved]
      · simp [continueDiscovery, onlyApps, resolved, appListTimeout, Controller.unpublished]
  | waiting deadline => rfl

theorem deliver_onlyApps (state : State) (apps : Apps) :
    (state.deliver apps).onlyApps = state.onlyApps.deliver apps := by
  simp [deliver, raise, note, onlyApps, List.filter_cons, Record.ofApps]

theorem perform_shown_onlyApps {activity : Activity} (ordered : state.Ordered)
    (next : state.nextActivity? = some activity) (seen : activity.ofApps = true) :
    ∃ other, state.onlyApps.nextActivity? = some other ∧ other.due = activity.due ∧
      (state.perform activity).onlyApps = state.onlyApps.perform other := by
  have unheld : ∀ other, state.onlyApps.pendingRenewal? = some other →
      activity.due ≤ other.due := by
    simp [pendingRenewal?, onlyApps]
  cases activity with
  | discovery phase =>
      obtain ⟨isPending, before, -⟩ := nextActivity?_eq_some.mp next
      refine ⟨.discovery phase, nextActivity?_eq_some.mpr ⟨isPending, ?_, unheld⟩, rfl,
        continueDiscovery_onlyApps _ phase⟩
      intro first later comes
      obtain ⟨head, rest, comesFirst, early⟩ := filter_arrivals _ ordered comes
      exact Nat.le_trans (before head rest comesFirst) early
  | arrival arrival later =>
      obtain ⟨isPending, before, -⟩ := nextActivity?_eq_some.mp next
      have listed : state.onlyApps.arrivals = arrival :: later.filter Arrival.bringsApps := by
        have shown : arrival.bringsApps = true := seen
        rw [onlyApps, isPending, List.filter_cons_of_pos shown]
      refine ⟨.arrival arrival (later.filter Arrival.bringsApps),
        nextActivity?_eq_some.mpr ⟨listed, before, unheld⟩, rfl, ?_⟩
      cases what : arrival.what with
      | apps apps =>
          simp only [perform, what, happen, deliver_onlyApps]
          rfl
      | _ => simp [Activity.ofApps, Arrival.bringsApps, what] at seen
  | renewal session task => cases seen

/-! Everything besides. -/

theorem note_besidesApps (state : State) {what : Occurrence}
    (kept : Record.besidesApps ⟨state.now, what⟩ = true) :
    (state.note what).besidesApps = state.besidesApps.note what := by
  simp [note, besidesApps, kept]

theorem call_besidesApps {call : Call} (other : call ≠ .requestAppList) :
    (state.call call).besidesApps = state.besidesApps.call call := by
  refine note_besidesApps state ?_
  cases call with
  | requestAppList => exact absurd rfl other
  | _ => rfl

theorem raise_besidesApps (state : State) {event : Event} (other : event ≠ .appsChanged) :
    (state.raise event).besidesApps = state.besidesApps.raise event := by
  have kept : Record.besidesApps ⟨state.now, .raised event⟩ = true := by
    cases event with
    | appsChanged => exact absurd rfl other
    | _ => rfl
  simp [raise, note, besidesApps, kept, other]

theorem refuse_besidesApps (state : State) :
    state.refuse.besidesApps = state.besidesApps.refuse := by
  have other : Event.reauthRequired ≠ .appsChanged := nofun
  exact raise_besidesApps { state with
    controller := { state.controller with authFailed := true } } other

theorem receiveBy_besidesApps (session : Session) (body : String) (put : Session → State) :
    (receiveBy session body put).besidesApps =
      receiveBy session body fun after => (put after).besidesApps := by
  have took : Record.besidesApps ⟨(put (session.receive body).1).now,
      .took body (session.receive body).1⟩ = true := rfl
  have other : Event.telemetryChanged ≠ .appsChanged := nofun
  unfold receiveBy
  simp only
  split
  · rw [raise_besidesApps _ other, note_besidesApps _ took]
  · exact note_besidesApps _ took

theorem receive_besidesApps (state : State) (number : Nat) (body : String) :
    (state.receive number body).besidesApps = state.besidesApps.receive number body := by
  unfold receive
  simp only [show state.besidesApps.receivers = state.receivers from rfl,
    show state.besidesApps.held = state.held from rfl,
    show state.besidesApps.draft = state.draft from rfl]
  split
  · split
    · exact receiveBy_besidesApps _ _ _
    · split
      · exact receiveBy_besidesApps _ _ _
      · rfl
  · rfl

theorem handIn_besidesApps (state : State) (number : Nat) (delivery : Delivery) :
    (state.handIn number delivery).besidesApps = state.besidesApps.handIn number delivery := by
  unfold handIn
  simp only [show state.besidesApps.receivers = state.receivers from rfl]
  split
  · exact receive_besidesApps _ _ _
  · rfl

theorem send_besidesApps (state : State) (request : Request) :
    (state.send request).1.besidesApps = (state.besidesApps.send request).1 ∧
      (state.send request).2 = (state.besidesApps.send request).2 := by
  unfold send
  split
  · exact ⟨rfl, rfl⟩
  · rename_i built _
    have other : Call.http built ≠ .requestAppList := nofun
    have called := state.call_besidesApps other
    refine ⟨?_, rfl⟩
    exact congrArg (fun after =>
      { after with replies := (state.replies.next built.method).2 }) called

theorem hold_besidesApps (state : State) (session : Session) :
    (state.hold session).besidesApps = state.besidesApps.hold session := rfl

theorem sendFor_besidesApps (state : State) (session : Session) (task : RenewalTask) (request : Request)
    (next : Exchange → Renewal) : (state.sendFor session task request next).besidesApps =
      state.besidesApps.sendFor session task request next := by
  obtain ⟨sent, exchange⟩ := state.send_besidesApps request
  simp only [sendFor]
  rw [hold_besidesApps, sent, exchange]

theorem continueRenewal_besidesApps (state : State) (session : Session) (task : RenewalTask) :
    (state.continueRenewal session task).besidesApps =
      state.besidesApps.continueRenewal session task := by
  obtain ⟨number, renewal⟩ := task
  cases renewal with
  | sleeping wake =>
      simp only [continueRenewal]
      split
      · rfl
      · exact sendFor_besidesApps _ _ _ _ _
  | renewing exchange =>
      have noted : (state.note (.answered .renewal exchange.answer)).besidesApps =
          state.besidesApps.note (.answered .renewal exchange.answer) := note_besidesApps _ rfl
      simp only [continueRenewal]
      split
      · rw [hold_besidesApps, noted]
        rfl
      · split
        · rw [sendFor_besidesApps, noted]
        · rw [hold_besidesApps, noted]
  | resubscribing exchange =>
      have noted : (state.note (.answered .fallback exchange.answer)).besidesApps =
          state.besidesApps.note (.answered .fallback exchange.answer) := note_besidesApps _ rfl
      simp only [continueRenewal]
      split
      · rw [hold_besidesApps, noted]
        rfl
      · rw [hold_besidesApps, noted]
        rfl

theorem continueDiscovery_besidesApps (state : State) (phase : Phase) :
    (state.continueDiscovery phase).besidesApps = state.besidesApps := by
  cases phase with
  | requesting due =>
      simp only [continueDiscovery]
      split <;> rfl
  | waiting deadline => rfl

theorem deliver_besidesApps (state : State) (apps : Apps) :
    (state.deliver apps).besidesApps = state.besidesApps := by
  simp [deliver, raise, note, besidesApps, Record.besidesApps, Record.ofApps]

theorem pending_besidesApps {due : Nat} (ordered : state.Ordered)
    (pending : state.besidesApps.Pending due) : ∃ earlier ≤ due, state.Pending earlier := by
  cases pending with
  | discovery running => simp [besidesApps] at running
  | arrival comes =>
      obtain ⟨head, rest, comesFirst, early⟩ := filter_arrivals _ ordered comes
      exact ⟨head.due, early, .arrival comesFirst⟩
  | @renewal task runs =>
      have runsToo : task ∈ state.tasks := runs
      exact ⟨_, Nat.le_refl _, .renewal runsToo⟩

theorem perform_hidden_besidesApps {activity : Activity}
    (next : state.nextActivity? = some activity) (hidden : (!activity.ofApps) = false) :
    (state.perform activity).besidesApps = state.besidesApps.reach activity.due := by
  cases activity with
  | discovery phase => exact continueDiscovery_besidesApps _ phase
  | arrival arrival later =>
      have brings : arrival.bringsApps = true := by simpa [Activity.ofApps] using hidden
      have fewer : later.filter (!·.bringsApps) = state.arrivals.filter (!·.bringsApps) := by
        rw [(nextActivity?_eq_some.mp next).1, List.filter_cons_of_neg (by simp [brings])]
      cases what : arrival.what with
      | apps apps =>
          simp only [perform, what, happen, deliver_besidesApps]
          simp only [besidesApps, fewer]
          rfl
      | _ => simp [Arrival.bringsApps, what] at brings
  | renewal session task => cases hidden

theorem perform_shown_besidesApps {activity : Activity} (ordered : state.Ordered)
    (next : state.nextActivity? = some activity) (seen : (!activity.ofApps) = true) :
    ∃ other, state.besidesApps.nextActivity? = some other ∧ other.due = activity.due ∧
      (state.perform activity).besidesApps = state.besidesApps.perform other := by
  have idle : ∀ phase, state.besidesApps.discovery = some phase → activity.due < phase.due := by
    simp [besidesApps]
  cases activity with
  | discovery phase => cases seen
  | arrival arrival later =>
      obtain ⟨isPending, -, before⟩ := nextActivity?_eq_some.mp next
      have other : arrival.bringsApps = false := by simpa [Activity.ofApps] using seen
      have listed : state.besidesApps.arrivals = arrival :: later.filter (!·.bringsApps) := by
        rw [besidesApps, isPending, List.filter_cons_of_pos (by simp [other])]
      refine ⟨.arrival arrival (later.filter (!·.bringsApps)),
        nextActivity?_eq_some.mpr ⟨listed, idle, before⟩, rfl, ?_⟩
      cases what : arrival.what with
      | apps apps => simp [Arrival.bringsApps, what] at other
      | body number body =>
          simp only [perform, what, happen, receive_besidesApps]
          rfl
      | delivery number delivery =>
          simp only [perform, what, happen, handIn_besidesApps]
          rfl
      | refusal =>
          simp only [perform, what, happen, refuse_besidesApps]
          rfl
  | renewal session task =>
      obtain ⟨isPending, -, before⟩ := nextActivity?_eq_some.mp next
      refine ⟨.renewal session task, nextActivity?_eq_some.mpr ⟨isPending, idle, ?_⟩, rfl,
        continueRenewal_besidesApps _ session task⟩
      intro first later comes
      obtain ⟨head, rest, comesFirst, early⟩ := filter_arrivals _ ordered comes
      exact Nat.lt_of_lt_of_le (before head rest comesFirst) early

end State

/-- How the list of applications comes. -/
def View.apps : View where
  look := State.onlyApps
  shows := Activity.ofApps
  reach _ _ := rfl
  pending := State.pending_onlyApps
  hidden := State.perform_hidden_onlyApps
  shown := State.perform_shown_onlyApps

/-- Everything besides. -/
def View.besides : View where
  look := State.besidesApps
  shows activity := !activity.ofApps
  reach _ _ := rfl
  pending := State.pending_besidesApps
  hidden := State.perform_hidden_besidesApps
  shown := State.perform_shown_besidesApps

end Televisor.Run
