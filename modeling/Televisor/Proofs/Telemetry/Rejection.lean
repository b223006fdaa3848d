import Televisor.Proofs.Telemetry.Origin
import Televisor.Proofs.Telemetry.Values

namespace Televisor.Run

open Controller Media Network Rendering Telemetry Relation

/-! A session whose subscription was refused keeps what it was told before, and is told nothing
more. -/

/-- It is only seen while a session is being set up. -/
def Record.attempts (record : Record) : Bool :=
  match record.what with
  | .listening _ | .answered (.caller _) _ => true
  | _ => false

def attemptsIn (trace : List Record) : List Record :=
  trace.filter Record.attempts

theorem attemptsIn_append (later earlier : List Record) :
    attemptsIn (later ++ earlier) = attemptsIn later ++ attemptsIn earlier :=
  List.filter_append ..

theorem attemptsIn_takes (time : Nat) (session : Session) (body : String) :
    attemptsIn (takes time session body) = [] := by
  unfold takes
  split <;> rfl

theorem Record.Foreign.attempts {record : Record} (foreign : record.Foreign) :
    record.attempts = false := by
  obtain ⟨time, what⟩ := record
  cases what with
  | listening _ => contradiction
  | answered asker _ => cases asker <;> first | contradiction | rfl
  | _ => rfl

section Touch

variable {before after : State} {session old : Session}

theorem Touch.attempts (touch : Touch before after) (isHeld : before.held = some session) :
    attemptsIn after.trace = attemptsIn before.trace := by
  cases touch with
  | aloof aloof =>
      obtain ⟨seen, trace, foreign⟩ := aloof.trace
      have none : attemptsIn seen = [] :=
        List.filter_eq_nil_iff.mpr fun record member => by simp [(foreign record member).attempts]
      rw [trace, attemptsIn_append, none, List.nil_append]
  | listening _ unheld => cases unheld.symm.trans isHeld
  | answered unheld => cases unheld.symm.trans isHeld
  | drafted _ _ _ unheld _ _ => cases unheld.symm.trans isHeld
  | granted _ unheld => cases unheld.symm.trans isHeld
  | rejected _ unheld _ _ => cases unheld.symm.trans isHeld
  | received number body =>
      rcases before.receive_cases number body with same | ⟨taker, rfl, taken⟩
      · rw [same]
      · rw [taken.trace, attemptsIn_append, attemptsIn_takes, List.nil_append]
  | published =>
      rw [State.publish, State.setController_eq, attemptsIn_append]
      unfold State.shows
      split <;> rfl
  | _ => rfl

theorem Touch.kept (attended : before.Attended) (touch : Touch before after)
    (wasHeld : before.held = some old) (isHeld : after.held = some session) :
    session.receiver = old.receiver ∧
      (session.status = old.status ∨ session.status = .unsubscribed) := by
  have undrafted := attended.draft_none wasHeld
  cases touch.change with
  | quiet quiet =>
      obtain ⟨other, isOld, lesser⟩ := quiet.held session isHeld
      obtain rfl : old = other := Option.some.inj (wasHeld.symm.trans isOld)
      exact ⟨lesser.receiver, lesser.status⟩
  | drafted _ _ unheld _ => cases unheld.symm.trans wasHeld
  | adopted isDraft _ => cases undrafted.symm.trans isDraft
  | received number body =>
      rcases before.receive_cases number body with same | ⟨taker, rfl, taken⟩
      · rw [same] at isHeld
        obtain rfl : old = session := Option.some.inj (wasHeld.symm.trans isHeld)
        exact ⟨rfl, .inl rfl⟩
      · rcases taken.place with ⟨isTaker, held, _⟩ | ⟨isDraft, _, _⟩
        · obtain rfl : old = taker := Option.some.inj (wasHeld.symm.trans isTaker)
          obtain rfl := Option.some.inj (held.symm.trans isHeld)
          exact ⟨old.receive_receiver body, .inl (old.receive_status body)⟩
        · cases undrafted.symm.trans isDraft

end Touch

/-- A subscription was refused, as the last that was seen of an attempt, by when the receiver had
heard all that had come. -/
structure Refused (number : Nat) (trace earlier : List Record) : Prop where
  answer : ∃ since time reply,
    trace = since ++ ⟨time, .answered (.caller true) (.reply reply)⟩ :: earlier ∧
      attemptsIn since = [] ∧ reply.isSuccess = false
  begun : number ∈ begunIn earlier
  before : heardIn number earlier = bodiesIn number earlier
  after : heardIn number trace = heardIn number earlier

theorem Refused.later {number : Nat} {trace seen earlier : List Record}
    (refused : Refused number trace earlier) (settled : attemptsIn (seen ++ trace) = attemptsIn trace)
    (deaf : heardIn number (seen ++ trace) = heardIn number trace) :
    Refused number (seen ++ trace) earlier := by
  obtain ⟨since, time, reply, rfl, done, unsuccessful⟩ := refused.answer
  rw [attemptsIn_append, List.append_left_eq_self] at settled
  refine ⟨⟨seen ++ since, time, reply, ?_, ?_, unsuccessful⟩, refused.begun, refused.before,
    deaf.trans refused.after⟩
  · rw [List.append_assoc]
  · rw [attemptsIn_append, settled, done, List.append_nil]

namespace State

/-- The session that is held was refused, if it is rejected. -/
def Refusing (state : State) : Prop :=
  ∀ session, state.held = some session → session.status = .rejected →
    ∃ earlier, Refused session.receiver state.trace earlier

variable {before after state : State} {session : Session}

theorem Attended.refused (attended : state.Attended) (isDraft : state.draft = some session)
    {reply : Reply} {time : Nat} {earlier : List Record}
    (answered : state.trace = ⟨time, .answered (.caller true) (.reply reply)⟩ :: earlier)
    (unsuccessful : reply.isSuccess = false) :
    Refused session.receiver state.trace earlier := by
  obtain ⟨attends, _, _, hears⟩ := attended.draft session isDraft
  have untaken : takenIn [⟨time, .answered (.caller true) (.reply reply)⟩] = [] := rfl
  have heard := attends.follows.heard hears
  have begun := attends.follows.begun
  rw [answered] at heard begun ⊢
  exact ⟨⟨[], time, reply, rfl, rfl, unsuccessful⟩, begun, heardIn_eq_bodiesIn heard,
    bodiesBy_untaken _ untaken⟩

/-- A rejected session that was not held before was being set up, and has just been refused. -/
theorem refused_of_touch (attended : before.Attended) (touch : Touch before after)
    (unheld : before.held = none) (isHeld : after.held = some session)
    (rejected : session.status = .rejected) :
    ∃ earlier, Refused session.receiver after.trace earlier := by
  cases touch with
  | @rejected draft reply time earlier isDraft _ answered unsuccessful =>
      obtain rfl := Option.some.inj ((adopt_held isDraft _).symm.trans isHeld)
      exact ⟨earlier, attended.refused isDraft answered unsuccessful⟩
  | @granted draft grant isDraft _ =>
      obtain rfl := Option.some.inj ((adopt_held isDraft _).symm.trans isHeld)
      contradiction
  | aloof aloof =>
      have same := aloof.held
      rw [unheld, isHeld] at same
      contradiction
  | received number body =>
      rcases before.receive_cases number body with same | ⟨taker, rfl, taken⟩
      · rw [same, unheld] at isHeld
        contradiction
      · rcases taken.place with ⟨isTaker, _⟩ | ⟨_, _, held⟩
        · cases unheld.symm.trans isTaker
        · cases (held.trans unheld).symm.trans isHeld
  | detached wasHeld => cases unheld.symm.trans wasHeld
  | forgotten _ _ => contradiction
  | published => cases (before.publish_held.trans unheld).symm.trans isHeld
  | _ => cases unheld.symm.trans isHeld

namespace Refusing

theorem deaf (refusing : state.Refusing) (attended : state.Attended)
    (isHeld : state.held = some session) (rejected : session.status = .rejected) :
    Deaf session.receiver state := by
  obtain ⟨earlier, refused⟩ := refusing session isHeld rejected
  obtain ⟨since, time, reply, trace, _⟩ := refused.answer
  refine attended.deaf isHeld (by simp [Session.hears, rejected]) ?_
  rw [trace]
  exact begunIn_suffix Deaf.tail_suffix refused.begun

theorem touch (refusing : before.Refusing) (attended : before.Attended)
    (touch : Touch before after) : after.Refusing := by
  intro session isHeld rejected
  cases held : before.held with
  | none => exact refused_of_touch attended touch held isHeld rejected
  | some old =>
      -- It was rejected before, so it hears nothing, and no attempt is made while it is held.
      obtain ⟨receiver, status⟩ := touch.kept attended held isHeld
      have wasRejected : old.status = .rejected := by
        rcases status with same | released
        · exact same.symm.trans rejected
        · cases released.symm.trans rejected
      obtain ⟨earlier, refused⟩ := refusing old held wasRejected
      have deaf := ((refusing.deaf attended held wasRejected).touch touch).2
      have settled := touch.attempts held
      obtain ⟨seen, later⟩ := touch.trace
      rw [← later] at deaf settled ⊢
      exact ⟨earlier, receiver ▸ refused.later settled deaf⟩

theorem touches (refusing : before.Refusing) (attended : before.Attended)
    (touches : Touches before after) : after.Refusing := by
  induction touches with
  | refl => exact refusing
  | tail earlier touch ih => exact ih.touch (attended.touches earlier) touch

theorem initial (options : Options) (television : Television) (host : Host) (replies : Replies)
    (patience : Option Nat) : (State.initial options television host replies patience).Refusing := by
  intro session isHeld
  contradiction

end Refusing

/-- What a rejected session knows is what the bodies tell that came to it before its subscription was
refused; nothing that comes later is told to it or reported, and no value is ever shown that those
bodies do not tell. -/
theorem rejected_told_before_refusal (options : Options) (television : Television) (host : Host)
    (replies : Replies) (patience : Option Nat) (operations more : List Operation) :
    let state := (State.initial options television host replies patience).run operations
    let later := state.run more
    ∀ session, state.held = some session → session.status = .rejected →
      ∃ since time reply earlier,
        state.trace = since ++ ⟨time, .answered (.caller true) (.reply reply)⟩ :: earlier ∧
        attemptsIn since = [] ∧ reply.isSuccess = false ∧ session.receiver ∈ begunIn earlier ∧
        session.snapshot = .told (bodiesIn session.receiver earlier) ∧
        Withheld session earlier later ∧
        (∀ shown ∈ shownIn later.trace,
          Derived (bodiesIn session.receiver earlier) shown.volume shown.muted) ∧
        (bodiesIn session.receiver earlier = [] → session.snapshot = .empty ∧
          ∀ shown ∈ shownIn later.trace, shown.volume = none ∧ shown.muted = none) := by
  intro state later session isHeld rejected
  have housed := Housed.initial options television host replies patience
  have beginning := Attended.initial options television host replies patience
  have reached := run_touches housed operations
  have onward := run_touches (housed.run operations) more
  have attended : state.Attended := beginning.touches reached
  have refusing : state.Refusing :=
    (Refusing.initial options television host replies patience).touches beginning reached
  obtain ⟨earlier, ⟨since, time, reply, trace, settled, unsuccessful⟩, begun, before, after⟩ :=
    refusing session isHeld rejected
  have known : session.snapshot = .told (bodiesIn session.receiver earlier) := by
    rw [(attended.held session isHeld).follows.known, after, before]
  have deaf : heardIn session.receiver later.trace = heardIn session.receiver earlier :=
    ((refusing.deaf attended isHeld rejected).touches onward).2.trans after
  have suffix : earlier <:+ state.trace := by
    rw [trace]
    exact (List.suffix_cons _ _).trans (List.suffix_append _ _)
  have withheld : Withheld session earlier later :=
    (attended.touches onward).withheld (suffix.trans onward.trace) (before ▸ known) deaf
  obtain ⟨number, hosted, _⟩ := (Hosted.initial options television host replies patience).touches
    beginning reached
  obtain ⟨_, hostedLater, stays⟩ := hosted.touches attended onward
  obtain rfl := stays _ (hosted.held session isHeld)
  have shown (media : MediaState) (member : media ∈ shownIn later.trace) :
      Derived (bodiesIn session.receiver earlier) media.volume media.muted := by
    rw [← before, ← deaf]
    exact hostedLater.shown media member
  refine ⟨since, time, reply, earlier, trace, settled, unsuccessful, begun, known, withheld, shown, ?_⟩
  intro none
  rw [none] at known shown
  exact ⟨known, fun media member => (shown media member).of_nil⟩

/-- A body was faster than the refusal. -/
def hastyRefused : State :=
  (located ⟨412, [], "", false⟩).run hasty

theorem hastyRefused_observed :
    hastyRefused.held.map (fun session => (session.status, session.receiver, session.snapshot)) =
        some (.rejected, 0, ⟨some (.ofPercent 30), none⟩) ∧
      bodiesIn 0 hastyRefused.trace = [loud] ∧
      (shownIn hastyRefused.trace).map (·.volume) = [some (.ofPercent 30)] := by
  decide +kernel

theorem hasty_rejected :
    ∃ session, hastyRefused.held = some session ∧ session.status = .rejected ∧
      ∀ shown ∈ shownIn (hastyRefused.run [.happen (.body 0 loud), .poll]).trace,
        Derived [loud] shown.volume shown.muted := by
  obtain ⟨held, came, _⟩ := hastyRefused_observed
  obtain ⟨session, isHeld, same⟩ := Option.map_eq_some_iff.mp held
  simp only [Prod.mk.injEq] at same
  obtain ⟨rejected, receiver, _⟩ := same
  obtain ⟨since, time, reply, earlier, trace, _, _, _, _, _, shown, _⟩ :=
    rejected_told_before_refusal _ _ _ _ _ hasty [.happen (.body 0 loud), .poll] session isHeld rejected
  have subset : bodiesIn session.receiver earlier ⊆ [loud] := by
    change hastyRefused.trace = _ at trace
    rw [receiver, ← came, trace, List.append_cons, bodiesIn, bodiesBy_append]
    exact List.subset_append_left _ _
  exact ⟨session, isHeld, rejected, fun media member => (shown media member).mono subset⟩

theorem rejected_volume_shown :
    ∃ session, hastyRefused.held = some session ∧ session.status = .rejected ∧
      session.snapshot.volume = some (.ofPercent 30) ∧
      ∃ shown ∈ shownIn hastyRefused.trace, shown.volume = some (.ofPercent 30) := by
  obtain ⟨held, _, shown⟩ := hastyRefused_observed
  obtain ⟨session, isHeld, same⟩ := Option.map_eq_some_iff.mp held
  simp only [Prod.mk.injEq] at same
  obtain ⟨rejected, _, snapshot⟩ := same
  refine ⟨session, isHeld, rejected, by rw [snapshot], ?_⟩
  refine List.mem_map.mp ?_
  rw [shown]
  exact List.mem_cons_self

end State

end Televisor.Run
