import Televisor.Proofs.Telemetry.Deafness

namespace Televisor.Run

open Controller Media Network Rendering Telemetry Relation

/-! What a subscribed session knows: what the bodies that came to it tell, from the moment it is set up
until it is stopped. -/

namespace State

variable {state : State} {session : Session}

namespace Attended

theorem attends (attended : state.Attended) (has : state.Has session) : Attends session state := by
  rcases has with isHeld | ⟨_, isDraft⟩
  · exact attended.held session isHeld
  · exact (attended.draft session isDraft).1

theorem hears (attended : state.Attended) (has : state.Has session) (alive : session.alive = true)
    (accepted : session.status ≠ .rejected) : session.hears = true := by
  simp [Session.hears, (attended.attends has).attached alive, accepted]

theorem told (attended : state.Attended) (has : state.Has session) (hears : session.hears = true) :
    session.snapshot = .told (bodiesIn session.receiver state.trace) := by
  have follows := (attended.attends has).follows
  rw [follows.known, heardIn_eq_bodiesIn (follows.heard hears)]

theorem told_at (attended : state.Attended) (has : state.Has session) (hears : session.hears = true)
    {later earlier : List Record} {time : Nat} {body : String} {taker : Session}
    (trace : state.trace = later ++ ⟨time, .took body taker⟩ :: earlier)
    (receiver : taker.receiver = session.receiver) :
    taker.snapshot = .told (bodiesIn session.receiver earlier ++ [body]) ∧ Reported later := by
  have heard := (attended.attends has).follows.heard hears
  have recited := attended.recited
  rw [trace] at heard recited
  rw [takenIn_append] at heard
  have listens : taker.hears = true :=
    heard (body, taker) (List.mem_append_right _ List.mem_cons_self) receiver
  refine ⟨?_, recited.reported_iff.mpr ⟨_, rfl, listens⟩⟩
  have all : heardIn session.receiver (⟨time, .took body taker⟩ :: earlier) =
      bodiesIn session.receiver (⟨time, .took body taker⟩ :: earlier) :=
    heardIn_eq_bodiesIn fun taken member => heard taken (List.mem_append_right _ member)
  have known := (recited.telling.at_record.known body taker rfl).2
  rw [known, receiver, all, bodiesIn, bodiesBy_took, receiver, BEq.rfl, if_pos rfl]

theorem receive_told (attended : state.Attended) (has : state.Has session)
    (alive : session.alive = true) (hears : session.hears = true) (body : String) :
    ∃ taker, (state.receive session.receiver body).Has taker ∧ taker.receiver = session.receiver ∧
      taker.snapshot = .told (bodiesIn session.receiver state.trace ++ [body]) ∧
      (session.snapshot.volume.isSome → taker.snapshot.volume.isSome) ∧
      (session.snapshot.muted.isSome → taker.snapshot.muted.isSome) ∧
      (state.receive session.receiver body).trace =
        ⟨state.now, .raised .telemetryChanged⟩ :: ⟨state.now, .took body taker⟩ :: state.trace ∧
      (state.receive session.receiver body).queue = state.queue ++ [.telemetryChanged] := by
  have attends := attended.attends has
  have taken := receive_has has (attends.consumes alive) body
  have snapshot := (session.receive_heard body hears (attends.follows.inStep hears)).1
  have known := session.snapshot.updated_known (parseLastChange body)
  have trace := taken.trace
  have queue := taken.queue
  rw [takes, hears, if_pos rfl] at trace
  rw [hears, if_pos rfl] at queue
  refine ⟨(session.receive body).1, ?_, session.receive_receiver body, ?_, ?_, ?_, trace, queue⟩
  · rcases taken.place with ⟨_, held, _⟩ | ⟨isDraft, draft, held⟩
    · exact .inl held
    · exact .inr ⟨held.trans (attended.draft session isDraft).2.1, draft⟩
  · rw [snapshot, attended.told has hears, Snapshot.told_concat]
  · rw [snapshot]
    exact known.1
  · rw [snapshot]
    exact known.2

/-- A session that has been released has been told everything. -/
theorem released (attended : state.Attended) (isHeld : state.held = some session) {after : State}
    (touches : Touches ((state.call .detach).hold session.released) after) :
    Withheld session state.trace after := by
  have follows := (attended.held session isHeld).follows
  have isReleased : ((state.call .detach).hold session.released).held = some session.released := rfl
  have deaf := (attended.release isHeld).deaf isReleased rfl follows.begun
  have first : state.trace <:+ ((state.call .detach).hold session.released).trace :=
    List.suffix_cons _ _
  have untaken : takenIn [⟨state.now, .called .detach⟩] = [] := rfl
  have same : heardIn session.receiver after.trace = heardIn session.receiver state.trace :=
    (deaf.touches touches).2.trans (bodiesBy_untaken _ untaken)
  exact ((attended.release isHeld).touches touches).withheld (first.trans touches.trace) follows.known
    same

theorem ending (attended : state.Attended) : state.ending.Attended :=
  attended.touch .ending

end Attended

/-- What a subscribed session knows is what the bodies tell that came to its receiver, each value by
the last body that tells it, from the moment the session is set up.  Each body is reported once, and
none makes a value unknown.  Once the session is stopped no body is told or reported. -/
theorem telemetry_folds (options : Options) (television : Television) (host : Host)
    (replies : Replies) (patience : Option Nat) (operations later : List Operation) :
    let initial := State.initial options television host replies patience
    let state := initial.run operations
    (∀ moment session, Touches initial moment → moment.Has session → session.alive = true →
      session.status ≠ .rejected →
      session.snapshot = .told (bodiesIn session.receiver moment.trace) ∧
      ∀ body, ∃ taker, (moment.receive session.receiver body).Has taker ∧
        taker.receiver = session.receiver ∧
        taker.snapshot = .told (bodiesIn session.receiver moment.trace ++ [body]) ∧
        (session.snapshot.volume.isSome → taker.snapshot.volume.isSome) ∧
        (session.snapshot.muted.isSome → taker.snapshot.muted.isSome) ∧
        (moment.receive session.receiver body).trace =
          ⟨moment.now, .raised .telemetryChanged⟩ :: ⟨moment.now, .took body taker⟩ ::
            moment.trace ∧
        (moment.receive session.receiver body).queue = moment.queue ++ [.telemetryChanged]) ∧
    Touches initial state ∧
    (∀ session, state.held = some session → session.status = .subscribed →
      session.alive = true ∧ session.snapshot = .told (bodiesIn session.receiver state.trace) ∧
      (∀ after time body taker earlier, state.trace = after ++ ⟨time, .took body taker⟩ :: earlier →
        taker.receiver = session.receiver →
        taker.snapshot = .told (bodiesIn session.receiver earlier ++ [body]) ∧ Reported after) ∧
      (∀ moment, Touches state.stopSession moment → Withheld session state.trace moment) ∧
      Withheld session state.trace (state.shutdown.run later)) ∧
    (∀ after time earlier, state.trace = after ++ ⟨time, .raised .telemetryChanged⟩ :: earlier →
      Heard earlier) ∧
    ∀ percent, (Level.ofPercent percent).approximates (min percent 100) = true := by
  intro initial state
  have beginning : initial.Attended := Attended.initial options television host replies patience
  have housed : initial.Housed := Housed.initial options television host replies patience
  have touches : Touches initial state := run_touches housed operations
  have attended : state.Attended := beginning.touches touches
  have housedNow : state.Housed := housed.run operations
  refine ⟨fun moment session reached has alive accepted => ?_, touches,
    fun session isHeld subscribed => ?_, fun after time earlier trace => ?_,
    Level.ofPercent_approximates⟩
  · have attendedThen : moment.Attended := beginning.touches reached
    have hears := attendedThen.hears has alive accepted
    exact ⟨attendedThen.told has hears, attendedThen.receive_told has alive hears⟩
  · have settled := housedNow.settled
    have alive := settled.alive session isHeld
    have hears := attended.hears (.inl isHeld) alive (by simp [subscribed])
    have stopped := stopSession_released isHeld alive settled.draft
    have ended := (shutdown_released housedNow isHeld).trans
      (run_touches (housedNow.apply .shutdown) later)
    exact ⟨alive, attended.told (.inl isHeld) hears,
      fun _ _ _ _ _ trace receiver => attended.told_at (.inl isHeld) hears trace receiver,
      fun _ touches => attended.released isHeld (stopped.trans touches),
      attended.ending.released isHeld ended⟩
  · have telling := attended.recited.telling
    rw [trace] at telling
    exact telling.at_record.reported.mp rfl

/-- A controller whose renderer describes itself, and answers a subscription after two seconds. -/
def located (answer : Reply) : State :=
  .initial ⟨"TV", "tv", none, none, some "http://10.0.0.2/tv", 10000, 3000⟩
    ⟨.ok true, 0, false, none, 0, none, true, none, none, 0, none, 0⟩ (.unrouted 8058 "/notify/6f2c")
    [("GET", [⟨.reply ⟨200, [], "<service><serviceType>RenderingControl</serviceType>" ++
      "<controlURL>/control</controlURL><eventSubURL>/events</eventSubURL></service>", false⟩, 0⟩]),
      ("SUBSCRIBE", [⟨.reply answer, 2000⟩])] none

def loud : String :=
  "<LastChange>&lt;Volume val=&quot;30&quot;/&gt;</LastChange>"

/-- A body comes to the receiver of the first session while its subscription is unanswered. -/
def hasty : List Operation :=
  [.expect ⟨1000, .body 0 loud⟩, .poll]

/-- A body was faster than the grant. -/
def hastyGranted : State :=
  (located ⟨200, [("sid", "uuid:1")], "", false⟩).run hasty

theorem hastyGranted_told :
    ∃ session, hastyGranted.held = some session ∧ session.status = .subscribed ∧
      session.snapshot = ⟨some (.ofPercent 30), none⟩ ∧
      Withheld session hastyGranted.trace (hastyGranted.shutdown.run [.happen (.body 0 loud)]) := by
  have ⟨held, bodies⟩ : hastyGranted.held.map (fun session => (session.status, session.receiver)) =
      some (.subscribed, 0) ∧ bodiesIn 0 hastyGranted.trace = [loud] := by decide +kernel
  obtain ⟨session, isHeld, same⟩ := Option.map_eq_some_iff.mp held
  obtain ⟨subscribed, receiver⟩ := Prod.mk.inj same
  obtain ⟨_, told, _, _, withheld⟩ := (telemetry_folds _ _ _ _ _ hasty
    [.happen (.body 0 loud)]).2.2.1 session isHeld subscribed
  have known : session.snapshot = .told [loud] := by
    rw [told, receiver]
    exact congrArg _ bodies
  refine ⟨session, isHeld, subscribed, ?_, withheld⟩
  rw [known]
  decide +kernel

end State

end Televisor.Run
