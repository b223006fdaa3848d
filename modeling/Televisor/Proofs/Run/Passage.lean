import Televisor.Proofs.Run.Advance

namespace Televisor.Network

theorem Request.built?_method {request built : Request} (found : request.built? = some built) :
    built.method = request.method := by
  unfold Request.built? at found
  split at found
  · split at found
    · cases found
      rfl
    · contradiction
  · contradiction

end Televisor.Network

namespace Televisor.Telemetry

theorem Session.receive_still (session : Session) (body : String) :
    (session.receive body).1.still = session.still := by
  simp only [receive]
  split <;> rfl

/-- What is not reported changes no value. -/
theorem Session.receive_unreported (session : Session) (body : String)
    (unreported : (session.receive body).2 = false) :
    (session.receive body).1.snapshot = session.snapshot := by
  simp only [receive] at unreported ⊢
  split at unreported
  · contradiction
  · rename_i deaf
    rw [if_neg deaf]

end Televisor.Telemetry

namespace Televisor.Run

open Controller Discovery Network Rendering Telemetry

/-! Waiting is a passage, whatever goes on meanwhile; calls and requests are drifts. -/

namespace State

variable (state : State)

theorem call_drift (call : Call) : Drift state [⟨state.now, .called call⟩] (state.call call) where
  toAdvance := .note state (.called call) rfl rfl rfl
  still := rfl
  apart := by
    simp [Record.Apart, Record.published?, Record.starting?, Record.listening?, Record.stopped?]
  heard := .inl rfl

theorem answered_drift (asker : Asker) (answer : Answer) :
    Drift state [⟨state.now, .answered asker answer⟩] (state.note (.answered asker answer)) where
  toAdvance := .note state (.answered asker answer) rfl rfl rfl
  still := rfl
  apart := by
    simp [Record.Apart, Record.published?, Record.starting?, Record.listening?, Record.stopped?]
  heard := .inl rfl

/-- The records of a request that is sent: none if it cannot be built. -/
def requested (request : Request) : List Record :=
  request.built?.toList.map fun built => ⟨state.now, .called (.http built)⟩

theorem send_drift (request : Request) :
    Drift state (state.requested request) (state.send request).1 := by
  cases found : request.built? with
  | none => simpa [send, requested, found] using Drift.refl state
  | some built =>
      simp only [send, requested, found]
      exact (state.call_drift (.http built)).followed
        (.unseen rfl (Nat.le_refl _) rfl rfl rfl rfl id rfl)

theorem reach_passage (instant : Nat) : Passage state [] (state.reach instant) where
  toDrift := .unseen rfl (Nat.le_max_left _ _) rfl rfl rfl rfl id rfl
  spontaneous := by simp

theorem refuse_passage :
    Passage state [⟨state.now, .raised .reauthRequired⟩] state.refuse where
  standing := rfl
  base := rfl
  clock := Nat.le_refl _
  trace := rfl
  aside := by simp [Record.Aside, Record.published?]
  queue := by simp [refuse, raise, note, raisedIn, Record.event?]
  authFailed := by simp [refuse, raise, note, raisedIn, Record.event?]
  apps := by simp [refuse, raise, note, deliveredIn, Record.delivered?]
  announced := by simp [deliveredIn, Record.delivered?]
  resolved := id
  still := rfl
  apart := by
    simp [Record.Apart, Record.published?, Record.starting?, Record.listening?, Record.stopped?]
  heard := .inl rfl
  spontaneous := by simp [Record.Spontaneous]

theorem deliver_passage (apps : Apps) :
    Passage state [⟨state.now, .raised .appsChanged⟩, ⟨state.now, .delivered apps⟩]
      (state.deliver apps) where
  standing := rfl
  base := rfl
  clock := Nat.le_refl _
  trace := rfl
  aside := by simp [Record.Aside, Record.published?]
  queue := by simp [deliver, raise, note, raisedIn, Record.event?]
  authFailed := by simp [deliver, raise, note, raisedIn, Record.event?]
  apps := rfl
  announced := by simp [raisedIn, Record.event?]
  resolved := fun _ => rfl
  still := rfl
  apart := by
    simp [Record.Apart, Record.published?, Record.starting?, Record.listening?, Record.stopped?]
  heard := .inl rfl
  spontaneous := by simp [Record.Spontaneous]

/-- A session has taken a body, which is reported. -/
theorem raise_passage (session : Session) (body : String) (after : State)
    (still : after.still = state.still) (clock : state.now ≤ after.now)
    (trace : after.trace = state.trace) (queue : after.queue = state.queue)
    (authFailed : after.controller.authFailed = state.controller.authFailed)
    (gate : after.gate = state.gate) :
    Passage state [⟨after.now, .raised .telemetryChanged⟩, ⟨after.now, .took body session⟩]
      ((after.note (.took body session)).raise .telemetryChanged) where
  standing := standing_of_base (base_of_still still)
  base := base_of_still still
  clock := clock
  trace := by simp [raise, note, trace]
  aside := by simp [Record.Aside, Record.published?]
  queue := by simp [raise, note, raisedIn, Record.event?, queue]
  authFailed := by simp [raise, note, raisedIn, Record.event?, authFailed]
  apps := congrArg Gate.apps? gate
  announced := by simp [deliveredIn, Record.delivered?]
  resolved := by simp [raise, note, gate]
  still := still
  apart := by
    simp [Record.Apart, Record.published?, Record.starting?, Record.listening?, Record.stopped?]
  heard := .inr (by simp [raisedIn, Record.event?])
  spontaneous := by simp [Record.Spontaneous]

theorem took_passage (session : Session) (body : String) :
    Passage state [⟨state.now, .took body session⟩] (state.note (.took body session)) where
  toAdvance := .note state (.took body session) rfl rfl rfl
  still := rfl
  apart := by
    simp [Record.Apart, Record.published?, Record.starting?, Record.listening?, Record.stopped?]
  heard := .inl rfl
  spontaneous := by simp [Record.Spontaneous]

theorem receiveBy_passage (session : Session) (body : String) (put : Session → State)
    (still : ∀ after, after.still = session.still → (put after).still = state.still)
    (clock : ∀ after, state.now ≤ (put after).now)
    (trace : ∀ after, (put after).trace = state.trace)
    (queue : ∀ after, (put after).queue = state.queue)
    (authFailed : ∀ after, (put after).controller.authFailed = state.controller.authFailed)
    (gate : ∀ after, (put after).gate = state.gate)
    (heard : ∀ after, after.snapshot = session.snapshot → (put after).heard = state.heard) :
    ∃ seen, Passage state seen (receiveBy session body put) := by
  have same := still _ (session.receive_still body)
  have unreported := session.receive_unreported body
  unfold receiveBy
  split
  rename_i after changed received
  rw [received] at same unreported
  cases changed with
  | true =>
      exact ⟨_, state.raise_passage after body _ same (clock _) (trace _) (queue _) (authFailed _)
        (gate _)⟩
  | false =>
      have apps : (put after).gate.apps? = state.gate.apps? := by rw [gate]
      have resolved : state.gate.isResolved = true → (put after).gate.isResolved = true := by
        rw [gate]
        exact id
      have put : Passage state [] (put after) :=
        ⟨.unseen same (clock _) (trace _) (queue _) (authFailed _) apps resolved
          (heard _ (unreported rfl)), by simp⟩
      exact ⟨_, put.trans (took_passage _ after body)⟩

theorem receive_passage (number : Nat) (body : String) :
    ∃ seen, Passage state seen (state.receive number body) := by
  unfold receive
  split
  · split
    · rename_i session found
      have isHeld : state.held = some session := (Option.filter_eq_some_iff.mp found).1
      refine state.receiveBy_passage session body _ ?_ (fun _ => Nat.le_refl _) (fun _ => rfl)
        (fun _ => rfl) (fun _ => rfl) (fun _ => rfl) ?_
      · intro after same
        simp [still, isHeld, same]
      · intro after same
        simp [State.heard, isHeld, same]
    · split
      · rename_i session found
        have isDraft : state.draft = some session := (Option.filter_eq_some_iff.mp found).1
        refine state.receiveBy_passage session body _ ?_ (fun _ => Nat.le_refl _) (fun _ => rfl)
          (fun _ => rfl) (fun _ => rfl) (fun _ => rfl) (fun _ _ => rfl)
        intro after same
        simp [still, isDraft, same]
      · exact ⟨[], .refl state⟩
  · exact ⟨[], .refl state⟩

theorem happen_passage (what : Happening) : ∃ seen, Passage state seen (state.happen what) := by
  cases what with
  | apps apps => exact ⟨_, state.deliver_passage apps⟩
  | body number body => exact state.receive_passage number body
  | delivery number delivery =>
      exact state.happen_delivery number delivery ⟨[], .refl state⟩ (state.receive_passage number)
  | refusal => exact ⟨_, state.refuse_passage⟩

theorem continueDiscovery_passage (phase : Phase) :
    Passage state [] (state.continueDiscovery phase) := by
  refine ⟨?_, by simp⟩
  cases phase with
  | requesting due =>
      simp only [continueDiscovery]
      split
      · exact .unseen rfl (Nat.le_refl _) rfl rfl rfl rfl id rfl
      · exact .unseen rfl (Nat.le_refl _) rfl rfl rfl rfl id rfl
  | waiting deadline =>
      have apps : state.gate.expire.apps? = state.gate.apps? := by
        cases state.gate <;> rfl
      have resolved : state.gate.isResolved = true → state.gate.expire.isResolved = true := by
        cases state.gate <;> simp [Gate.expire, Gate.isResolved]
      exact .unseen rfl (Nat.le_refl _) rfl rfl rfl apps resolved rfl

theorem hold_passage (session after : Session) (isHeld : state.held = some session)
    (same : after.still = session.still) (snapshot : after.snapshot = session.snapshot) :
    Passage state [] (state.hold after) := by
  refine ⟨.unseen ?_ (Nat.le_refl _) rfl rfl rfl rfl id ?_, by simp⟩
  · simp [still, hold, isHeld, same]
  · simp [State.heard, hold, isHeld, snapshot]

theorem sendFor_passage (session : Session) (task : RenewalTask) {request : Request}
    (next : Exchange → Renewal) (isHeld : state.held = some session) (subscribes : request.method = "SUBSCRIBE") :
    ∃ seen, Passage state seen (state.sendFor session task request next) := by
  have kept : (state.send request).1.held = some session := by
    unfold send
    split <;> exact isHeld
  have spontaneous : ∀ record ∈ state.requested request, record.Spontaneous := by
    intro record member
    obtain ⟨built, found, rfl⟩ := List.mem_map.mp member
    have method := Request.built?_method (Option.mem_toList.mp found)
    exact method.trans subscribes
  have sent : Passage state (state.requested request) (state.send request).1 :=
    ⟨state.send_drift request, spontaneous⟩
  have held := hold_passage (state.send request).1 session
    (session.resume task (some (next (state.send request).2))) kept rfl rfl
  exact ⟨_, sent.trans held⟩

theorem answered_passage (asker : Asker) (answer : Answer)
    (spontaneous : Record.Spontaneous ⟨state.now, .answered asker answer⟩) :
    Passage state [⟨state.now, .answered asker answer⟩] (state.note (.answered asker answer)) where
  toDrift := state.answered_drift asker answer
  spontaneous := by simpa using spontaneous

theorem reported_passage (task : RenewalTask) : ∃ seen, Passage state seen (state.reported task) := by
  refine reported_cases state task ⟨[], .refl state⟩ fun asker answer asked => ?_
  refine ⟨_, state.answered_passage asker answer ?_⟩
  rcases asked with rfl | rfl <;> exact trivial

theorem reported_held (task : RenewalTask) : (state.reported task).held = state.held :=
  reported_cases state task rfl fun _ _ _ => rfl

theorem continueRenewal_passage (session : Session) (task : RenewalTask)
    (isHeld : state.held = some session) :
    ∃ seen, Passage state seen (state.continueRenewal session task) := by
  obtain ⟨noted, reported⟩ := state.reported_passage task
  have turn := state.continueRenewal_turn session task
  rw [← state.reported_held task] at isHeld
  generalize state.reported task = told at reported turn isHeld
  generalize state.continueRenewal session task = after at turn ⊢
  cases turn with
  | ends | sleeps _ | granted _ =>
      exact ⟨_, reported.trans (told.hold_passage session _ isHeld rfl rfl)⟩
  | renews sid =>
      obtain ⟨seen, asked⟩ := told.sendFor_passage session task .renewing isHeld
        (rfl : (renew session.control.device.eventUrl sid).method = _)
      exact ⟨_, reported.trans asked⟩
  | @subscribes callback known =>
      obtain ⟨seen, asked⟩ := told.sendFor_passage session task .resubscribing isHeld
        (rfl : (subscribe session.control.device.eventUrl callback).method = _)
      exact ⟨_, reported.trans asked⟩

theorem perform_passage {activity : Activity} (next : state.nextActivity? = some activity) :
    ∃ seen, Passage state seen (state.perform activity) := by
  have reached := state.reach_passage activity.due
  rcases nextActivity?_cases next with ⟨phase, running, rfl⟩ | ⟨arrival, later, waiting, rfl⟩ |
    ⟨session, task, isHeld, runs, rfl⟩
  · exact ⟨_, reached.trans (continueDiscovery_passage _ phase)⟩
  · have taken : Passage (state.reach arrival.due) []
        { state.reach arrival.due with arrivals := later } :=
      ⟨.unseen rfl (Nat.le_refl _) rfl rfl rfl rfl id rfl, by simp⟩
    obtain ⟨seen, happened⟩ :=
      happen_passage { state.reach arrival.due with arrivals := later } arrival.what
    exact ⟨_, (reached.trans taken).trans happened⟩
  · obtain ⟨seen, renewed⟩ :=
      continueRenewal_passage (state.reach task.due) session task isHeld
    exact ⟨_, reached.trans renewed⟩

/-- Whatever goes on before an instant is a passage: one activity after another. -/
theorem passWhile_passage (instant : Nat) (more : State → Bool) :
    ∃ seen, Passage state seen (passWhile instant more state) := by
  refine passWhile_keeps (∃ seen, Passage state seen ·) ?_ instant more ⟨[], .refl state⟩
  rintro middle activity ⟨seen, passage⟩ next
  obtain ⟨latest, step⟩ := middle.perform_passage next
  exact ⟨_, passage.trans step⟩

theorem passTo_passage (instant : Nat) : ∃ seen, Passage state seen (state.passTo instant) := by
  obtain ⟨seen, passage⟩ := state.passWhile_passage instant fun _ => true
  exact ⟨_, passage.trans (reach_passage _ instant)⟩

theorem awaitDiscovery_passage : ∃ seen, Passage state seen state.awaitDiscovery := by
  unfold awaitDiscovery
  split
  · exact state.passWhile_passage _ _
  · exact ⟨[], .refl state⟩

end State

end Televisor.Run
