import Televisor.Proofs.Run.Showing
import Televisor.Proofs.Telemetry.Fold
import Televisor.Proofs.Telemetry.Touch

namespace Televisor.Run

open Controller Media Network Rendering Telemetry Relation

/-! What sessions make of the event bodies that come to them: at every moment a session knows what the
bodies it has heard tell, and each body it hears is reported once. -/

/-- The bodies that came to the sessions that count, in the order they came. -/
def bodiesBy (counts : Session → Bool) (trace : List Record) : List String :=
  (((takenIn trace).filter fun taken => counts taken.2).map Prod.fst).reverse

/-- The bodies that came to the session with the given receiver. -/
def bodiesIn (number : Nat) : List Record → List String :=
  bodiesBy fun session => session.receiver == number

/-- Those of them that the session heard. -/
def heardIn (number : Nat) : List Record → List String :=
  bodiesBy fun session => session.receiver == number && session.hears

section Bodies

variable (counts : Session → Bool) {seen trace earlier : List Record}

theorem bodiesBy_append : bodiesBy counts (seen ++ trace) =
    bodiesBy counts trace ++ bodiesBy counts seen := by
  simp [bodiesBy]

theorem bodiesBy_untaken (untaken : takenIn seen = []) :
    bodiesBy counts (seen ++ trace) = bodiesBy counts trace := by
  simp [bodiesBy, untaken]

theorem bodiesBy_took (time : Nat) (body : String) (session : Session) :
    bodiesBy counts (⟨time, .took body session⟩ :: trace) =
      bodiesBy counts trace ++ if counts session then [body] else [] := by
  have taken : takenIn (⟨time, .took body session⟩ :: trace) = (body, session) :: takenIn trace :=
    rfl
  rw [bodiesBy, taken, List.filter_cons]
  split <;> simp [bodiesBy]

variable {counts}

theorem bodiesBy_eq_nil :
    bodiesBy counts trace = [] ↔ ∀ taken ∈ takenIn trace, counts taken.2 = false := by
  simp [bodiesBy]

end Bodies

theorem heardIn_eq_bodiesIn {number : Nat} {trace : List Record}
    (heard : ∀ taken ∈ takenIn trace, taken.2.receiver = number → taken.2.hears = true) :
    heardIn number trace = bodiesIn number trace := by
  have same : (takenIn trace).filter (fun taken => taken.2.receiver == number && taken.2.hears) =
      (takenIn trace).filter fun taken => taken.2.receiver == number := by
    refine List.filter_congr fun taken member => ?_
    by_cases receiver : taken.2.receiver = number
    · simp [receiver, heard taken member receiver]
    · simp [receiver]
  rw [heardIn, bodiesIn, bodiesBy, bodiesBy, same]

/-- No session takes a body and none is reported. -/
def Record.Silent (record : Record) : Prop :=
  record.took? = none ∧ record.event? ≠ some .telemetryChanged

theorem takenIn_silent {seen : List Record} (silent : ∀ record ∈ seen, record.Silent) :
    takenIn seen = [] :=
  List.filterMap_eq_nil_iff.mpr fun record member => (silent record member).1

theorem Record.Foreign.silent {record : Record} (foreign : record.Foreign) : record.Silent := by
  obtain ⟨time, what⟩ := record
  cases what with
  | took _ _ => exact foreign.elim
  | raised event =>
      cases event with
      | telemetryChanged => exact foreign.elim
      | _ => exact ⟨rfl, nofun⟩
  | _ => exact ⟨rfl, nofun⟩

/-- A body that has just come to a session which hears it. -/
def Heard : List Record → Prop
  | record :: _ => ∃ taken, record.took? = some taken ∧ taken.2.hears = true
  | [] => False

/-- A session that takes a body knows what it has heard so far, and a report comes right after a body
that was heard. -/
structure Record.Telling (record : Record) (earlier : List Record) : Prop where
  known : ∀ body session, record.took? = some (body, session) →
    session.receiver ∈ begunIn earlier ∧
      session.snapshot = .told (heardIn session.receiver (record :: earlier))
  reported : record.event? = some .telemetryChanged ↔ Heard earlier

theorem Record.Telling.of_untaken {record : Record} {earlier : List Record}
    (untaken : record.took? = none)
    (reported : record.event? = some .telemetryChanged ↔ Heard earlier) :
    record.Telling earlier := by
  refine ⟨fun body session taken => ?_, reported⟩
  rw [untaken] at taken
  contradiction

theorem not_heard_of_untaken {record : Record} {earlier : List Record}
    (untaken : record.took? = none) : ¬ Heard (record :: earlier) := by
  rintro ⟨taken, took, _⟩
  rw [untaken] at took
  contradiction

/-- Everything that has been heard was told and reported. -/
structure Recited (trace : List Record) : Prop where
  telling : Always Record.Telling trace
  reported : ¬ Heard trace

namespace Recited

variable {seen trace : List Record}

theorem append (recited : Recited trace) (silent : ∀ record ∈ seen, record.Silent) :
    Recited (seen ++ trace) := by
  induction seen with
  | nil => exact recited
  | cons record rest ih =>
      obtain ⟨untaken, unreported⟩ := silent record (by simp)
      have before := ih fun other member => silent other (by simp [member])
      have telling := Record.Telling.of_untaken untaken (iff_of_false unreported before.reported)
      exact ⟨⟨telling, before.telling⟩, not_heard_of_untaken untaken⟩

theorem taken_begun (always : Always Record.Telling trace) :
    ∀ taken ∈ takenIn trace, taken.2.receiver ∈ begunIn trace := by
  induction trace with
  | nil => simp [takenIn]
  | cons record earlier ih =>
      intro taken member
      have grows {number : Nat} (begun : number ∈ begunIn earlier) :
          number ∈ begunIn (record :: earlier) := by
        rw [← List.singleton_append, begunIn_append]
        exact List.mem_append_right _ begun
      obtain ⟨found, isIn, took⟩ := List.mem_filterMap.mp member
      rcases List.mem_cons.mp isIn with rfl | old
      · exact grows (always.1.known taken.1 taken.2 took).1
      · exact grows (ih always.2 taken (List.mem_filterMap.mpr ⟨found, old, took⟩))

end Recited

/-- What a session knows goes with what has been seen. -/
structure Follows (session : Session) (trace : List Record) : Prop where
  begun : session.receiver ∈ begunIn trace
  known : session.snapshot = .told (heardIn session.receiver trace)
  inStep : session.hears = true → session.InStep
  heard : session.hears = true →
    ∀ taken ∈ takenIn trace, taken.2.receiver = session.receiver → taken.2.hears = true

namespace Follows

variable {session other : Session} {seen trace : List Record}

theorem like (follows : Follows session trace) (receiver : other.receiver = session.receiver)
    (snapshot : other.snapshot = session.snapshot)
    (level : other.control.level? = session.control.level?)
    (muted : other.control.muted = session.control.muted)
    (hears : other.hears = true → session.hears = true) : Follows other trace := by
  refine ⟨receiver ▸ follows.begun, ?_, fun listens => ?_, fun listens => ?_⟩
  · rw [snapshot, receiver]
    exact follows.known
  · obtain ⟨volume, isMuted⟩ := follows.inStep (hears listens)
    exact ⟨by rw [level, snapshot, volume], by rw [muted, snapshot, isMuted]⟩
  · rw [receiver]
    exact follows.heard (hears listens)

theorem bare (follows : Follows session trace) (same : other.bare = session.bare) :
    Follows other trace := by
  have hears : other.hears = session.hears := congrArg (·.hears) same
  exact follows.like (congrArg (·.receiver) same) (congrArg (·.snapshot) same)
    (congrArg (·.control.level?) same) (congrArg (·.control.muted) same) fun listens =>
      hears ▸ listens

theorem append (follows : Follows session trace) (untaken : takenIn seen = []) :
    Follows session (seen ++ trace) where
  begun := by
    rw [begunIn_append]
    exact List.mem_append_right _ follows.begun
  known := by
    rw [heardIn, bodiesBy_untaken _ untaken]
    exact follows.known
  inStep := follows.inStep
  heard := by
    rw [takenIn_append, untaken, List.nil_append]
    exact follows.heard

/-- A session begins to follow when it is set up with a receiver that has just begun to listen. -/
theorem fresh {device : Device} {callback : Option String} {number time : Nat} {earlier : List Record}
    (always : Always Record.Telling earlier) (fresh : number ∉ begunIn earlier) :
    Follows (.fresh (.ofDevice device callback) number) (⟨time, .listening number⟩ :: earlier) := by
  have others (taken : String × Session)
      (member : taken ∈ takenIn (⟨time, .listening number⟩ :: earlier)) :
      taken.2.receiver ≠ number := by
    intro same
    exact fresh (same ▸ Recited.taken_begun always taken member)
  have unheard : heardIn number (⟨time, .listening number⟩ :: earlier) = [] := by
    refine bodiesBy_eq_nil.mpr fun taken member => ?_
    simp [others taken member]
  refine ⟨List.mem_cons_self, ?_, fun _ => Session.fresh_inStep device callback number,
    fun _ taken member same => absurd same (others taken member)⟩
  change Snapshot.empty = .told (heardIn number _)
  rw [unheard]
  rfl

end Follows

/-- What is seen when a body comes to a session: that it has come, and the report if it is heard. -/
def takes (time : Nat) (session : Session) (body : String) : List Record :=
  (if session.hears then [⟨time, .raised .telemetryChanged⟩] else []) ++
    [⟨time, .took body (session.receive body).1⟩]

theorem takenIn_takes (time : Nat) (session : Session) (body : String) :
    takenIn (takes time session body) = [(body, (session.receive body).1)] := by
  unfold takes
  split <;> rfl

section Takes

variable {session : Session} {trace : List Record} (time : Nat) (body : String)

theorem heardIn_took : heardIn session.receiver (⟨time, .took body (session.receive body).1⟩ :: trace) =
    heardIn session.receiver trace ++ if session.hears then [body] else [] := by
  rw [heardIn, bodiesBy_took, session.receive_receiver, session.receive_hears]
  simp

theorem Follows.took (follows : Follows session trace) :
    Follows (session.receive body).1 (⟨time, .took body (session.receive body).1⟩ :: trace) := by
  have receiver := session.receive_receiver body
  have hears := session.receive_hears body
  refine ⟨receiver ▸ follows.begun, ?_, fun listens => ?_, fun listens => ?_⟩
  · rw [receiver, heardIn_took]
    cases listens : session.hears with
    | true =>
        rw [(session.receive_heard body listens (follows.inStep listens)).1, follows.known, if_pos rfl,
          Snapshot.told_concat]
    | false =>
        rw [session.receive_unheard body listens, follows.known]
        simp
  · exact (session.receive_heard body (hears ▸ listens) (follows.inStep (hears ▸ listens))).2
  · intro taken member same
    rcases List.mem_cons.mp member with rfl | old
    · exact listens
    · exact follows.heard (hears ▸ listens) taken old (same.trans receiver)

theorem Recited.report (always : Always Record.Telling trace) (heard : Heard trace) :
    Recited (⟨time, .raised .telemetryChanged⟩ :: trace) := by
  have telling : Record.Telling ⟨time, .raised .telemetryChanged⟩ trace :=
    .of_untaken rfl (iff_of_true rfl heard)
  exact ⟨⟨telling, always⟩, not_heard_of_untaken rfl⟩

theorem Recited.unheard {taker : Session} (always : Always Record.Telling trace)
    (deaf : taker.hears = false) (isTop : trace.head? = some ⟨time, .took body taker⟩) :
    Recited trace := by
  refine ⟨always, fun heard => ?_⟩
  cases trace with
  | nil => contradiction
  | cons record earlier =>
      obtain rfl : record = ⟨time, .took body taker⟩ := Option.some.inj isTop
      obtain ⟨taken, same, hears⟩ := heard
      obtain rfl : (body, taker) = taken := Option.some.inj same
      rw [deaf] at hears
      contradiction

theorem Recited.takes (recited : Recited trace) (follows : Follows session trace) :
    Recited (takes time session body ++ trace) ∧
      Follows (session.receive body).1 (Run.takes time session body ++ trace) := by
  have took := follows.took time body
  have receiver := session.receive_receiver body
  have hears := session.receive_hears body
  unfold Run.takes
  generalize (session.receive body).1 = taker at *
  have telling : Record.Telling ⟨time, .took body taker⟩ trace := by
    refine ⟨fun other found same => ?_, iff_of_false nofun recited.reported⟩
    obtain ⟨rfl, rfl⟩ := Prod.mk.inj (Option.some.inj same)
    exact ⟨receiver ▸ follows.begun, took.known⟩
  have always : Always Record.Telling (⟨time, .took body taker⟩ :: trace) :=
    ⟨telling, recited.telling⟩
  cases listens : session.hears with
  | true =>
      have reported : Follows taker ([⟨time, .raised .telemetryChanged⟩] ++
          ⟨time, .took body taker⟩ :: trace) := took.append rfl
      exact ⟨.report time always ⟨_, rfl, hears.trans listens⟩, reported⟩
  | false => exact ⟨.unheard time body always (hears.trans listens) rfl, took⟩

end Takes

/-- A session that is in use gets whatever comes to its receiver. -/
structure Attends (session : Session) (state : State) : Prop where
  follows : Follows session state.trace
  consumes : session.alive = true → state.consumes session.receiver = true
  attached : session.alive = true → session.control.attached = true

/-- Nobody takes a body from one state to the next, and no receiver is given up. -/
structure Calm (before after : State) : Prop where
  trace : ∃ seen, after.trace = seen ++ before.trace ∧ ∀ record ∈ seen, record.Silent
  consumes : ∀ number, before.consumes number = true → after.consumes number = true

variable {before after state : State}

namespace Calm

theorem note (state : State) (what : Occurrence) (silent : Record.Silent ⟨state.now, what⟩) :
    Calm state (state.note what) :=
  ⟨⟨[⟨state.now, what⟩], rfl, by simpa using silent⟩, fun _ => id⟩

theorem same (trace : after.trace = before.trace) (receivers : after.receivers = before.receivers) :
    Calm before after := by
  refine ⟨⟨[], trace, by simp⟩, fun number consumes => ?_⟩
  rw [State.consumes, receivers]
  exact consumes

theorem trans {middle : State} (first : Calm before middle) (second : Calm middle after) :
    Calm before after := by
  obtain ⟨seen, trace, silent⟩ := first.trace
  obtain ⟨later, traceLater, silentLater⟩ := second.trace
  refine ⟨⟨later ++ seen, ?_, fun record member => ?_⟩, fun number =>
    second.consumes number ∘ first.consumes number⟩
  · rw [traceLater, trace, List.append_assoc]
  · exact (List.mem_append.mp member).elim (silentLater record) (silent record)

theorem updateReceiver (state : State) (number : Nat) {change : Receiver → Receiver}
    (keeps : ∀ receiver, receiver.consumed = true → (change receiver).consumed = true) :
    Calm state (state.updateReceiver number change) := by
  refine ⟨⟨[], rfl, by simp⟩, fun other consumes => ?_⟩
  obtain ⟨receiver, found, consumed⟩ := (Option.any_eq_true _ _).mp consumes
  refine (Option.any_eq_true _ _).mpr ⟨if number = other then change receiver else receiver, ?_, ?_⟩
  · simp [State.updateReceiver, List.getElem?_modify, found]
  · split
    · exact keeps receiver consumed
    · exact consumed

theorem setController (state : State) (controller : Controller) :
    Calm state (state.setController controller) := by
  rw [State.setController_eq]
  refine ⟨⟨state.shows controller, rfl, ?_⟩, fun _ => id⟩
  unfold State.shows
  split
  · simp
  · simp [Record.Silent, Record.took?, Record.event?]

theorem detaching (state : State) : Calm state (state.call .detach) :=
  .note state _ ⟨rfl, nofun⟩

theorem drafting (state : State) (session : Session) : Calm state (state.drafting session) :=
  ((updateReceiver state session.receiver fun _ => fun _ => rfl).trans
    (.note _ (.called .attach) ⟨rfl, nofun⟩)).trans (.same rfl rfl)

end Calm

theorem Aloof.calm (aloof : Aloof before after) : Calm before after := by
  obtain ⟨seen, trace, foreign⟩ := aloof.trace
  exact ⟨⟨seen, trace, fun record member => (foreign record member).silent⟩, aloof.consumes⟩

theorem Recited.calm (recited : Recited before.trace) (calm : Calm before after) :
    Recited after.trace := by
  obtain ⟨seen, trace, silent⟩ := calm.trace
  rw [trace]
  exact recited.append silent

namespace Attends

variable {session other : Session}

theorem calm (attends : Attends session before) (calm : Calm before after) :
    Attends session after := by
  obtain ⟨seen, trace, silent⟩ := calm.trace
  refine ⟨?_, fun alive => calm.consumes _ (attends.consumes alive), attends.attached⟩
  rw [trace]
  exact attends.follows.append (takenIn_silent silent)

theorem bare (attends : Attends session state) (same : other.bare = session.bare) :
    Attends other state := by
  have receiver : other.receiver = session.receiver := congrArg (·.receiver) same
  have alive : other.alive = session.alive := congrArg (·.alive) same
  have attached : other.control.attached = session.control.attached :=
    congrArg (·.control.attached) same
  refine ⟨attends.follows.bare same, fun living => ?_, fun living => ?_⟩
  · rw [receiver]
    exact attends.consumes (alive ▸ living)
  · exact attached.trans (attends.attached (alive ▸ living))

end Attends

namespace State

/-- Sessions know what they have heard, and get whatever comes to their receivers.  One that is being
set up hears it. -/
structure Attended (state : State) : Prop where
  recited : Recited state.trace
  held : ∀ session, state.held = some session → Attends session state
  draft : ∀ session, state.draft = some session →
    Attends session state ∧ state.held = none ∧ session.alive = true ∧ session.hears = true

/-- What becomes of a state when a session takes a body. -/
structure Taken (state : State) (session : Session) (body : String) (after : State) : Prop where
  trace : after.trace = takes state.now session body ++ state.trace
  receivers : after.receivers = state.receivers
  controller : after.controller = state.controller
  queue : after.queue = state.queue ++ if session.hears then [.telemetryChanged] else []
  place : (state.held = some session ∧ after.held = some (session.receive body).1 ∧
      after.draft = state.draft) ∨
    (state.draft = some session ∧ after.draft = some (session.receive body).1 ∧
      after.held = state.held)

theorem receiveBy_taken {session : Session} {body : String} {put : Session → State}
    (trace : ∀ taker, (put taker).trace = state.trace) (now : ∀ taker, (put taker).now = state.now)
    (receivers : ∀ taker, (put taker).receivers = state.receivers)
    (controller : ∀ taker, (put taker).controller = state.controller)
    (queue : ∀ taker, (put taker).queue = state.queue)
    (place : ∀ taker, (state.held = some session ∧ (put taker).held = some taker ∧
        (put taker).draft = state.draft) ∨
      (state.draft = some session ∧ (put taker).draft = some taker ∧
        (put taker).held = state.held)) :
    Taken state session body (receiveBy session body put) := by
  have reports := session.receive_reports body
  unfold receiveBy
  generalize isTaker : (session.receive body).1 = taker
  split
  rename_i other changed received
  rw [received] at reports isTaker
  obtain rfl : other = taker := isTaker
  obtain rfl : changed = session.hears := reports
  have taker : (session.receive body).1 = other := congrArg Prod.fst received
  cases hears : session.hears with
  | true =>
      refine ⟨?_, receivers other, controller other, ?_, taker.symm ▸ place other⟩
      · simp [takes, hears, raise, note, trace, now, taker]
      · simp [hears, raise, note, queue]
  | false =>
      refine ⟨?_, receivers other, controller other, ?_, taker.symm ▸ place other⟩
      · simp [takes, hears, note, trace, now, taker]
      · simp [hears, note, queue]

theorem receive_cases (state : State) (number : Nat) (body : String) :
    state.receive number body = state ∨
      ∃ session, session.receiver = number ∧ Taken state session body (state.receive number body) := by
  unfold receive
  split
  · split
    · rename_i session found
      obtain ⟨isHeld, receiver⟩ := Option.filter_eq_some_iff.mp found
      exact .inr ⟨session, by simpa using receiver, receiveBy_taken (fun _ => rfl) (fun _ => rfl)
        (fun _ => rfl) (fun _ => rfl) (fun _ => rfl) fun _ => .inl ⟨isHeld, rfl, rfl⟩⟩
    · split
      · rename_i session found
        obtain ⟨isDraft, receiver⟩ := Option.filter_eq_some_iff.mp found
        exact .inr ⟨session, by simpa using receiver, receiveBy_taken (fun _ => rfl) (fun _ => rfl)
          (fun _ => rfl) (fun _ => rfl) (fun _ => rfl) fun _ => .inr ⟨isDraft, rfl, rfl⟩⟩
      · exact .inl rfl
  · exact .inl rfl

/-- The session is in use, or is being set up. -/
def Has (state : State) (session : Session) : Prop :=
  state.held = some session ∨ state.held = none ∧ state.draft = some session

theorem receive_has {session : Session} (has : state.Has session)
    (consumes : state.consumes session.receiver = true) (body : String) :
    Taken state session body (state.receive session.receiver body) := by
  have consumed : (state.receivers[session.receiver]?).any (·.consumed) = true := consumes
  have found : (some session).filter (·.receiver == session.receiver) = some session := by simp
  unfold receive
  rw [if_pos consumed]
  rcases has with isHeld | ⟨unheld, isDraft⟩
  · rw [isHeld, found]
    exact receiveBy_taken (fun _ => rfl) (fun _ => rfl) (fun _ => rfl) (fun _ => rfl) (fun _ => rfl)
      fun _ => .inl ⟨isHeld, rfl, rfl⟩
  · rw [unheld, isDraft, Option.filter_none, found]
    exact receiveBy_taken (fun _ => rfl) (fun _ => rfl) (fun _ => rfl) (fun _ => rfl) (fun _ => rfl)
      fun _ => .inr ⟨isDraft, rfl, unheld.symm⟩

theorem publish_held (state : State) : state.publish.held = state.held := by
  rw [publish, setController_eq]

theorem publish_draft (state : State) : state.publish.draft = state.draft := by
  rw [publish, setController_eq]

namespace Attended

theorem aside (attended : before.Attended) (calm : Calm before after)
    (held : after.held.map Session.bare = before.held.map Session.bare)
    (draft : after.draft.map Session.bare = before.draft.map Session.bare) : after.Attended := by
  refine ⟨attended.recited.calm calm, fun session isHeld => ?_, fun session isDraft => ?_⟩
  · rw [isHeld, Option.map_some] at held
    obtain ⟨old, wasHeld, same⟩ := Option.map_eq_some_iff.mp held.symm
    exact ((attended.held old wasHeld).calm calm).bare same.symm
  · rw [isDraft, Option.map_some] at draft
    obtain ⟨old, wasDraft, same⟩ := Option.map_eq_some_iff.mp draft.symm
    obtain ⟨attends, unheld, alive, hears⟩ := attended.draft old wasDraft
    have sameAlive : old.alive = session.alive := congrArg (·.alive) same
    have sameHears : old.hears = session.hears := congrArg (·.hears) same
    rw [unheld, Option.map_none, Option.map_eq_none_iff] at held
    exact ⟨(attends.calm calm).bare same.symm, held, sameAlive ▸ alive, sameHears ▸ hears⟩

theorem fewer (attended : before.Attended) (calm : Calm before after)
    (held : after.held = before.held ∨ after.held = none)
    (draft : after.draft = before.draft ∨ after.draft = none) : after.Attended := by
  refine ⟨attended.recited.calm calm, fun session isHeld => ?_, fun session isDraft => ?_⟩
  · rcases held with same | none
    · exact (attended.held session (same ▸ isHeld)).calm calm
    · cases none.symm.trans isHeld
  · rcases draft with same | none
    · obtain ⟨attends, unheld, alive, hears⟩ := attended.draft session (same ▸ isDraft)
      refine ⟨attends.calm calm, ?_, alive, hears⟩
      rcases held with same | none
      · exact same.trans unheld
      · exact none
    · cases none.symm.trans isDraft

theorem draft_none (attended : state.Attended) {session : Session}
    (isHeld : state.held = some session) : state.draft = none := by
  refine Option.eq_none_iff_forall_not_mem.mpr fun other isDraft => ?_
  cases isHeld.symm.trans (attended.draft other isDraft).2.1

theorem adopt (attended : state.Attended) {session : Session} (isDraft : state.draft = some session)
    {finish : Session → Session} (follows : Follows (finish session) state.trace)
    (receiver : (finish session).receiver = session.receiver)
    (attached : (finish session).control.attached = session.control.attached) :
    (state.adopt finish).Attended := by
  obtain ⟨attends, _, alive, hears⟩ := attended.draft session isDraft
  have undrafted : (state.adopt finish).draft = none := rfl
  have adopted := adopt_held isDraft finish
  refine ⟨attended.recited, fun other isHeld => ?_, fun other drafted => ?_⟩
  rotate_left
  · cases undrafted.symm.trans drafted
  obtain rfl : finish session = other := Option.some.inj (adopted.symm.trans isHeld)
  refine ⟨follows, fun _ => ?_, fun _ => ?_⟩
  · rw [receiver]
    exact attends.consumes alive
  · rw [attached]
    exact attends.attached alive

theorem setUp (attended : state.Attended) {device : Device} {callback : Option String}
    {number time : Nat} {earlier : List Record}
    (listens : state.trace = ⟨time, .listening number⟩ :: earlier) (fresh : number ∉ begunIn earlier)
    (present : number < state.receivers.length) (unheld : state.held = none) :
    (state.drafting (.fresh (.ofDevice device callback) number)).Attended := by
  have calm := Calm.drafting state (.fresh (.ofDevice device callback) number)
  have isDraft : (state.drafting (.fresh (.ofDevice device callback) number)).draft =
      some (.fresh (.ofDevice device callback) number) := rfl
  refine ⟨attended.recited.calm calm, fun session isHeld => ?_, fun session drafted => ?_⟩
  · cases unheld.symm.trans isHeld
  · obtain rfl := Option.some.inj (isDraft.symm.trans drafted)
    obtain ⟨seen, trace, silent⟩ := calm.trace
    have follows : Follows (.fresh (.ofDevice device callback) number) state.trace := by
      have recited := attended.recited.telling
      rw [listens] at recited ⊢
      exact .fresh recited.2 fresh
    have consumes : (state.drafting (.fresh (.ofDevice device callback) number)).consumes number =
        true := by
      refine (Option.any_eq_true _ _).mpr ⟨state.receivers[number].consume, ?_, rfl⟩
      simp [drafting, State.updateReceiver, State.call, State.note, Session.fresh,
        List.getElem?_eq_getElem present]
    refine ⟨⟨?_, fun _ => consumes, fun _ => rfl⟩, unheld, rfl, rfl⟩
    rw [trace]
    exact follows.append (takenIn_silent silent)

theorem receive (attended : state.Attended) (number : Nat) (body : String) :
    (state.receive number body).Attended := by
  rcases state.receive_cases number body with same | ⟨session, rfl, taken⟩
  · rw [same]
    exact attended
  · have had : Attends session state := by
      rcases taken.place with ⟨isHeld, _⟩ | ⟨isDraft, _⟩
      · exact attended.held session isHeld
      · exact (attended.draft session isDraft).1
    obtain ⟨recited, follows⟩ := attended.recited.takes state.now body had.follows
    rw [← taken.trace] at recited follows
    have receiver := session.receive_receiver body
    have alive := session.receive_alive body
    have hears := session.receive_hears body
    have attached := session.receive_attached body
    obtain ⟨_, receivers, _, _, place⟩ := taken
    generalize state.receive session.receiver body = after at *
    generalize (session.receive body).1 = taker at *
    have attends : Attends taker after := by
      refine ⟨follows, fun living => ?_, fun living => attached.trans (had.attached (alive ▸ living))⟩
      rw [consumes, receivers, receiver]
      exact had.consumes (alive ▸ living)
    refine ⟨recited, fun other isHeld => ?_, fun other isDraft => ?_⟩
    · rcases place with ⟨_, held, _⟩ | ⟨wasDraft, _, held⟩
      · obtain rfl := Option.some.inj (held.symm.trans isHeld)
        exact attends
      · cases (held.trans (attended.draft session wasDraft).2.1).symm.trans isHeld
    · rcases place with ⟨wasHeld, _, draft⟩ | ⟨wasDraft, draft, held⟩
      · cases (draft.trans (attended.draft_none wasHeld)).symm.trans isDraft
      · obtain ⟨_, unheld, living, listens⟩ := attended.draft session wasDraft
        obtain rfl := Option.some.inj (draft.symm.trans isDraft)
        exact ⟨attends, held.trans unheld, alive.trans living, hears.trans listens⟩

theorem release (attended : state.Attended) {session : Session} (isHeld : state.held = some session) :
    ((state.call .detach).hold session.released).Attended := by
  have calm : Calm state ((state.call .detach).hold session.released) :=
    (Calm.detaching state).trans (.same rfl rfl)
  have undrafted := attended.draft_none isHeld
  refine ⟨attended.recited.calm calm, fun other held => ?_, fun other isDraft => ?_⟩
  · obtain rfl : session.released = other := Option.some.inj held
    have follows := ((attended.held session isHeld).calm calm).follows
    exact ⟨follows.like rfl rfl rfl rfl nofun, nofun, nofun⟩
  · cases undrafted.symm.trans isDraft

theorem close (attended : state.Attended) {number : Nat}
    (spare : ∀ session, state.held = some session → session.alive = false)
    (undrafted : state.draft = none) :
    ((state.updateReceiver number Receiver.stop).note
      (.stopped number)).Attended := by
  have noted : Calm state (state.note (.stopped number)) := .note state _ ⟨rfl, nofun⟩
  have recited : Recited (state.note (.stopped number)).trace := attended.recited.calm noted
  refine ⟨recited, fun session isHeld => ?_, fun session isDraft => ?_⟩
  · have dead : session.alive = false := spare session isHeld
    have follows := ((attended.held session isHeld).calm noted).follows
    exact ⟨follows, fun alive => absurd alive (by simp [dead]), fun alive => absurd alive (by simp [dead])⟩
  · cases undrafted.symm.trans isDraft

theorem touch (attended : before.Attended) (touch : Touch before after) : after.Attended := by
  cases touch with
  | aloof aloof => exact attended.aside aloof.calm aloof.held aloof.draft
  | @listening number _ _ =>
      have listens : Calm before (before.updateReceiver number Receiver.listen) :=
        .updateReceiver before number fun _ => id
      have noted := listens.trans (.note _ (.listening number) ⟨rfl, nofun⟩)
      exact attended.fewer noted (.inl rfl) (.inl rfl)
  | answered _ => exact attended.fewer (.note before _ ⟨rfl, nofun⟩) (.inl rfl) (.inl rfl)
  | drafted listens fresh present unheld _ _ => exact attended.setUp listens fresh present unheld
  | received number body => exact attended.receive number body
  | granted isDraft _ =>
      have follows := (attended.draft _ isDraft).1.follows
      have hears := (attended.draft _ isDraft).2.2.2
      exact attended.adopt isDraft (follows.like rfl rfl rfl rfl fun _ => hears) rfl rfl
  | rejected isDraft _ _ _ =>
      have follows := (attended.draft _ isDraft).1.follows
      have hears := (attended.draft _ isDraft).2.2.2
      exact attended.adopt isDraft (follows.like rfl rfl rfl rfl fun _ => hears) rfl rfl
  | dropped =>
      exact attended.fewer ((Calm.detaching before).trans (.same rfl rfl)) (.inl rfl) (.inr rfl)
  | detached isHeld => exact attended.release isHeld
  | closed spare undrafted => exact attended.close spare undrafted
  | ending => exact attended.fewer (.same rfl rfl) (.inl rfl) (.inl rfl)
  | forgotten _ _ => exact attended.fewer (.same rfl rfl) (.inr rfl) (.inl rfl)
  | refreshed => exact attended.fewer (.same rfl rfl) (.inl rfl) (.inl rfl)
  | published =>
      exact attended.fewer (.setController before _) (.inl before.publish_held)
        (.inl before.publish_draft)

theorem touches (attended : before.Attended) (touches : Touches before after) : after.Attended := by
  induction touches with
  | refl => exact attended
  | tail _ step ih => exact ih.touch step

theorem initial (options : Options) (television : Television) (host : Host) (replies : Replies)
    (patience : Option Nat) : (State.initial options television host replies patience).Attended := by
  have silent : (State.initial options television host replies patience).trace = [] := rfl
  have unheld : (State.initial options television host replies patience).held = none := rfl
  have undrafted : (State.initial options television host replies patience).draft = none := rfl
  refine ⟨?_, fun session isHeld => ?_, fun session isDraft => ?_⟩
  · rw [silent]
    exact ⟨trivial, id⟩
  · cases unheld.symm.trans isHeld
  · cases undrafted.symm.trans isDraft

end Attended

end State

end Televisor.Run
