import Televisor.Proofs.Telemetry.Aftermath
import Televisor.Proofs.Telemetry.Listening

namespace Televisor.Run

open Controller Media Network Rendering Telemetry Relation

/-! A session that hears nothing any more: whatever comes to its receiver leaves it as it is, for the
rest of the run. -/

/-- The session is as the other was, but may have been released since. -/
structure Lesser (session old : Session) : Prop where
  receiver : session.receiver = old.receiver
  hears : session.hears = true → old.hears = true
  status : session.status = old.status ∨ session.status = .unsubscribed

theorem Lesser.of_bare {session old : Session} (same : session.bare = old.bare) :
    Lesser session old := by
  have hears : session.hears = old.hears := congrArg (·.hears) same
  exact ⟨congrArg (·.receiver) same, fun listens => hears ▸ listens,
    .inl (congrArg (·.status) same)⟩

/-- No session is new and none takes a body. -/
structure Quiet (before after : State) : Prop where
  trace : ∃ seen, after.trace = seen ++ before.trace ∧ ∀ record ∈ seen, record.Silent
  held : ∀ session, after.held = some session → ∃ old, before.held = some old ∧ Lesser session old
  draft : ∀ session, after.draft = some session → ∃ old, before.draft = some old ∧ Lesser session old

namespace Quiet

variable {before after : State}

theorem fewer (calm : Calm before after) (held : after.held = before.held ∨ after.held = none)
    (draft : after.draft = before.draft ∨ after.draft = none) : Quiet before after := by
  refine ⟨calm.trace, fun session isHeld => ?_, fun session isDraft => ?_⟩
  · rcases held with same | none
    · exact ⟨session, same ▸ isHeld, .of_bare rfl⟩
    · cases none.symm.trans isHeld
  · rcases draft with same | none
    · exact ⟨session, same ▸ isDraft, .of_bare rfl⟩
    · cases none.symm.trans isDraft

theorem aloof (aloof : Aloof before after) : Quiet before after := by
  refine ⟨aloof.calm.trace, fun session isHeld => ?_, fun session isDraft => ?_⟩
  · obtain ⟨old, wasHeld, same⟩ := Option.map_eq_some_iff.mp (aloof.held.symm.trans (congrArg _ isHeld))
    exact ⟨old, wasHeld, .of_bare same.symm⟩
  · obtain ⟨old, wasDraft, same⟩ :=
      Option.map_eq_some_iff.mp (aloof.draft.symm.trans (congrArg _ isDraft))
    exact ⟨old, wasDraft, .of_bare same.symm⟩

end Quiet

/-- What a touch does to sessions. -/
inductive Change (before : State) : State → Prop where
  | quiet {after} (quiet : Quiet before after) : Change before after
  | drafted {device callback number time earlier}
      (listens : before.trace = ⟨time, .listening number⟩ :: earlier)
      (fresh : number ∉ begunIn earlier) (unheld : before.held = none)
      (running : before.controller.shuttingDown = false) :
      Change before (before.drafting (.fresh (.ofDevice device callback) number))
  | adopted {session finish} (isDraft : before.draft = some session)
      (receiver : (finish session).receiver = session.receiver) : Change before (before.adopt finish)
  | received (number : Nat) (body : String) : Change before (before.receive number body)

theorem Touch.change {before after : State} (touch : Touch before after) : Change before after := by
  cases touch with
  | aloof aloof => exact .quiet (.aloof aloof)
  | @listening number _ _ =>
      have listens : Calm before (before.updateReceiver number Receiver.listen) :=
        .updateReceiver before number fun _ => id
      exact .quiet (.fewer (listens.trans (.note _ (.listening number) ⟨rfl, nofun⟩)) (.inl rfl)
        (.inl rfl))
  | answered _ => exact .quiet (.fewer (.note before _ ⟨rfl, nofun⟩) (.inl rfl) (.inl rfl))
  | drafted listens fresh _ unheld _ running => exact .drafted listens fresh unheld running
  | received number body => exact .received number body
  | granted isDraft _ => exact .adopted isDraft rfl
  | rejected isDraft _ _ _ => exact .adopted isDraft rfl
  | dropped =>
      exact .quiet (.fewer ((Calm.detaching before).trans (.same rfl rfl)) (.inl rfl) (.inr rfl))
  | @detached session isHeld =>
      have calm : Calm before ((before.call .detach).hold session.released) :=
        (Calm.detaching before).trans (.same rfl rfl)
      refine .quiet ⟨calm.trace, fun other held => ?_, fun other isDraft =>
        ⟨other, isDraft, .of_bare rfl⟩⟩
      obtain rfl : session.released = other := Option.some.inj held
      exact ⟨session, isHeld, rfl, nofun, .inr rfl⟩
  | @closed number _ undrafted =>
      have noted : Calm before (before.note (.stopped number)) := .note before _ ⟨rfl, nofun⟩
      exact .quiet ⟨noted.trace, fun other held => ⟨other, held, .of_bare rfl⟩,
        fun other isDraft => ⟨other, isDraft, .of_bare rfl⟩⟩
  | ending => exact .quiet (.fewer (.same rfl rfl) (.inl rfl) (.inl rfl))
  | forgotten _ _ => exact .quiet (.fewer (.same rfl rfl) (.inr rfl) (.inl rfl))
  | refreshed => exact .quiet (.fewer (.same rfl rfl) (.inl rfl) (.inl rfl))
  | published =>
      exact .quiet (.fewer (.setController before _) (.inl before.publish_held)
        (.inl before.publish_draft))

theorem Touch.trace {before after : State} (touch : Touch before after) :
    before.trace <:+ after.trace := by
  cases touch.change with
  | quiet quiet =>
      obtain ⟨seen, trace, _⟩ := quiet.trace
      exact ⟨seen, trace.symm⟩
  | @drafted device callback number _ _ _ _ _ _ =>
      obtain ⟨seen, trace, _⟩ :=
        (Calm.drafting before (.fresh (.ofDevice device callback) number)).trace
      exact ⟨seen, trace.symm⟩
  | adopted _ _ => exact List.suffix_refl _
  | received number body =>
      rcases before.receive_cases number body with same | ⟨session, rfl, taken⟩
      · exact ⟨[], congrArg State.trace same.symm⟩
      · exact ⟨_, taken.trace.symm⟩

/-- No session with the given receiver hears anything, or will. -/
structure Deaf (number : Nat) (state : State) : Prop where
  begun : number ∈ begunIn state.trace.tail
  held : ∀ session, state.held = some session → session.receiver = number → session.hears = false
  draft : ∀ session, state.draft = some session → session.receiver ≠ number

theorem begunIn_suffix {number : Nat} {earlier later : List Record} (suffix : earlier <:+ later)
    (begun : number ∈ begunIn earlier) : number ∈ begunIn later := by
  obtain ⟨seen, rfl⟩ := suffix
  rw [begunIn_append]
  exact List.mem_append_right _ begun

theorem heardIn_deaf {number : Nat} {session : Session} (time : Nat) (body : String)
    {trace : List Record} (deaf : session.receiver = number → session.hears = false) :
    heardIn number (takes time session body ++ trace) = heardIn number trace := by
  have unheard : heardIn number (takes time session body) = [] := by
    refine bodiesBy_eq_nil.mpr fun taken member => ?_
    rw [takenIn_takes, List.mem_singleton] at member
    subst member
    rw [session.receive_receiver, session.receive_hears]
    by_cases same : session.receiver = number
    · simp [deaf same]
    · simp [same]
  rw [heardIn] at unheard ⊢
  rw [bodiesBy_append, unheard, List.append_nil]

namespace Deaf

variable {before after state : State} {number : Nat}

theorem tail_suffix {seen trace : List Record} : trace.tail <:+ (seen ++ trace).tail := by
  cases seen with
  | nil => exact List.suffix_refl _
  | cons record rest => exact (List.tail_suffix _).trans (List.suffix_append _ _)

theorem quiet (deaf : Deaf number before) (quiet : Quiet before after) :
    Deaf number after ∧ heardIn number after.trace = heardIn number before.trace := by
  obtain ⟨seen, trace, silent⟩ := quiet.trace
  refine ⟨⟨?_, fun session isHeld receiver => ?_, fun session isDraft => ?_⟩, ?_⟩
  · rw [trace]
    exact begunIn_suffix tail_suffix deaf.begun
  · obtain ⟨old, wasHeld, lesser⟩ := quiet.held session isHeld
    have wasDeaf := deaf.held old wasHeld (lesser.receiver.symm.trans receiver)
    exact Bool.eq_false_iff.mpr fun listens => by simp [lesser.hears listens] at wasDeaf
  · obtain ⟨old, wasDraft, lesser⟩ := quiet.draft session isDraft
    exact lesser.receiver ▸ deaf.draft old wasDraft
  · rw [trace, heardIn, bodiesBy_untaken _ (takenIn_silent silent)]

theorem receive (deaf : Deaf number state) (other : Nat) (body : String) :
    Deaf number (state.receive other body) ∧
      heardIn number (state.receive other body).trace = heardIn number state.trace := by
  rcases state.receive_cases other body with same | ⟨session, rfl, taken⟩
  · rw [same]
    exact ⟨deaf, rfl⟩
  · have silent : session.receiver = number → session.hears = false := by
      intro receiver
      rcases taken.place with ⟨isHeld, _⟩ | ⟨isDraft, _⟩
      · exact deaf.held session isHeld receiver
      · exact absurd receiver (deaf.draft session isDraft)
    have receiver := session.receive_receiver body
    have hears := session.receive_hears body
    rw [taken.trace]
    refine ⟨⟨?_, fun taker isHeld same => ?_, fun taker isDraft => ?_⟩, heardIn_deaf _ body silent⟩
    · rw [taken.trace]
      exact begunIn_suffix tail_suffix deaf.begun
    · rcases taken.place with ⟨_, held, _⟩ | ⟨_, _, held⟩
      · obtain rfl := Option.some.inj (held.symm.trans isHeld)
        exact hears.trans (silent (receiver.symm.trans same))
      · exact deaf.held taker (held.symm.trans isHeld) same
    · rcases taken.place with ⟨_, _, draft⟩ | ⟨wasDraft, draft, _⟩
      · exact deaf.draft taker (draft.symm.trans isDraft)
      · obtain rfl := Option.some.inj (draft.symm.trans isDraft)
        exact receiver ▸ deaf.draft session wasDraft

theorem touch (deaf : Deaf number before) (touch : Touch before after) :
    Deaf number after ∧ heardIn number after.trace = heardIn number before.trace := by
  cases touch.change with
  | quiet quiet => exact deaf.quiet quiet
  | @drafted device callback other time earlier listens fresh unheld _ =>
      obtain ⟨seen, trace, silent⟩ :=
        (Calm.drafting before (.fresh (.ofDevice device callback) other)).trace
      have begun := deaf.begun
      refine ⟨⟨?_, fun session isHeld => deaf.held session isHeld, fun session isDraft => ?_⟩, ?_⟩
      · rw [trace]
        exact begunIn_suffix tail_suffix begun
      · obtain rfl : Session.fresh (.ofDevice device callback) other = session :=
          Option.some.inj isDraft
        rw [listens, List.tail_cons] at begun
        intro same
        obtain rfl : other = number := same
        exact fresh begun
      · rw [trace, heardIn, bodiesBy_untaken _ (takenIn_silent silent)]
  | @adopted session finish isDraft receiver =>
      have held := State.adopt_held isDraft finish
      have draft : (before.adopt finish).draft = none := rfl
      refine ⟨⟨deaf.begun, fun other isHeld same => ?_, fun other drafted => ?_⟩, rfl⟩
      · obtain rfl := Option.some.inj (held.symm.trans isHeld)
        exact absurd (receiver.symm.trans same) (deaf.draft session isDraft)
      · cases draft.symm.trans drafted
  | received other body => exact deaf.receive other body

theorem touches (deaf : Deaf number before) (touches : Touches before after) :
    Deaf number after ∧ heardIn number after.trace = heardIn number before.trace := by
  induction touches with
  | refl => exact ⟨deaf, rfl⟩
  | tail _ step ih =>
      obtain ⟨later, same⟩ := ih.1.touch step
      exact ⟨later, same.trans ih.2⟩

end Deaf

theorem State.Attended.deaf {state : State} {session : Session} (attended : state.Attended)
    (isHeld : state.held = some session) (unheard : session.hears = false)
    (begun : session.receiver ∈ begunIn state.trace.tail) : Deaf session.receiver state := by
  refine ⟨begun, fun other held _ => ?_, fun other isDraft => ?_⟩
  · obtain rfl : session = other := Option.some.inj (isHeld.symm.trans held)
    exact unheard
  · cases (attended.draft_none isHeld).symm.trans isDraft

theorem Touches.trace {before after : State} (touches : Touches before after) :
    before.trace <:+ after.trace := by
  induction touches with
  | refl => exact List.suffix_refl _
  | tail _ touch ih => exact ih.trans touch.trace

/-- A report that comes right after a record, which these are the later ones of. -/
def Reported (later : List Record) : Prop :=
  ∃ rest time, later = rest ++ [⟨time, .raised .telemetryChanged⟩]

theorem Recited.reported_iff {record : Record} {later earlier : List Record}
    (recited : Recited (later ++ record :: earlier)) :
    Reported later ↔ Heard (record :: earlier) := by
  constructor
  · rintro ⟨rest, time, rfl⟩
    have telling := recited.telling
    rw [List.append_assoc] at telling
    exact telling.at_record.reported.mp rfl
  · intro heard
    rcases List.eq_nil_or_concat later with rfl | ⟨rest, report, rfl⟩
    · exact absurd heard recited.reported
    · have telling := recited.telling
      rw [List.concat_eq_append, List.append_assoc] at telling
      obtain ⟨time, what⟩ := report
      have raised : Record.event? ⟨time, what⟩ = some .telemetryChanged :=
        telling.at_record.reported.mpr heard
      cases what with
      | raised event =>
          obtain rfl : event = .telemetryChanged := Option.some.inj raised
          exact ⟨rest, time, List.concat_eq_append⟩
      | _ => contradiction

/-- Whatever came to the session since changed nothing that it knows, and was not reported. -/
structure Withheld (session : Session) (earlier : List Record) (state : State) : Prop where
  trace : earlier <:+ state.trace
  taken : ∀ later time body taker between,
    state.trace = later ++ ⟨time, .took body taker⟩ :: (between ++ earlier) →
      taker.receiver = session.receiver → taker.snapshot = session.snapshot ∧ ¬ Reported later
  held : ∀ kept, state.held = some kept → kept.receiver = session.receiver →
    kept.snapshot = session.snapshot

theorem heardIn_between {number : Nat} {later earlier between : List Record} {record : Record}
    (same : heardIn number (later ++ record :: (between ++ earlier)) = heardIn number earlier) :
    heardIn number (record :: (between ++ earlier)) = heardIn number earlier ∧
      heardIn number [record] = [] := by
  have split : later ++ record :: (between ++ earlier) =
      later ++ ([record] ++ (between ++ earlier)) := rfl
  rw [split, heardIn, bodiesBy_append, bodiesBy_append, bodiesBy_append, List.append_assoc,
    List.append_assoc, List.append_right_eq_self, List.append_eq_nil_iff, List.append_eq_nil_iff] at same
  -- What has been heard only grows, so nothing was heard in between.
  obtain ⟨before, now, _⟩ := same
  have first : record :: (between ++ earlier) = [record] ++ (between ++ earlier) := rfl
  refine ⟨?_, now⟩
  rw [first, heardIn, bodiesBy_append, bodiesBy_append, before, now, List.append_nil, List.append_nil]

theorem State.Attended.withheld {state : State} {session : Session} {earlier : List Record}
    (attended : state.Attended) (trace : earlier <:+ state.trace)
    (known : session.snapshot = .told (heardIn session.receiver earlier))
    (same : heardIn session.receiver state.trace = heardIn session.receiver earlier) :
    Withheld session earlier state := by
  refine ⟨trace, fun later time body taker between split receiver => ?_,
    fun kept isHeld receiver => ?_⟩
  · have recited := attended.recited
    rw [split] at recited same
    obtain ⟨told, unheard⟩ := heardIn_between same
    have telling := recited.telling.at_record.known body taker rfl
    refine ⟨?_, fun reported => ?_⟩
    · rw [telling.2, receiver, told, known]
    · obtain ⟨taken, took, hears⟩ := recited.reported_iff.mp reported
      obtain rfl : (body, taker) = taken := Option.some.inj took
      have deaf := bodiesBy_eq_nil.mp unheard (body, taker) List.mem_cons_self
      simp [receiver, show taker.hears = true from hears] at deaf
  · rw [(attended.held kept isHeld).follows.known, receiver, same, known]

end Televisor.Run
