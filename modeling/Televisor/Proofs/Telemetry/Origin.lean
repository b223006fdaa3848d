import Televisor.Proofs.Telemetry.Listening

namespace Televisor.Run

open Controller Media Network Rendering Telemetry Relation

/-! Where the volume and the mute flag come from that a controller shows: its session has heard a body
that tells them. -/

/-- Each of the values is told by one of the bodies. -/
structure Derived (bodies : List String) (volume : Option Level) (muted : Option Bool) : Prop where
  volume : ∀ level, volume = some level →
    ∃ body ∈ bodies, (parseLastChange body).volume.map Level.ofPercent = some level
  muted : ∀ flag, muted = some flag → ∃ body ∈ bodies, (parseLastChange body).muted = some flag

namespace Derived

variable {bodies more : List String} {volume : Option Level} {muted : Option Bool}

theorem unknown (bodies : List String) : Derived bodies none none :=
  ⟨nofun, nofun⟩

theorem mono (told : Derived bodies volume muted) (subset : bodies ⊆ more) : Derived more volume muted := by
  constructor
  · intro level same
    obtain ⟨body, member, tells⟩ := told.volume level same
    exact ⟨body, subset member, tells⟩
  · intro flag same
    obtain ⟨body, member, tells⟩ := told.muted flag same
    exact ⟨body, subset member, tells⟩

theorem of_nil (told : Derived [] volume muted) : volume = none ∧ muted = none := by
  constructor
  · refine Option.eq_none_iff_forall_not_mem.mpr ?_
    intro level same
    obtain ⟨body, member, _⟩ := told.volume level same
    contradiction
  · refine Option.eq_none_iff_forall_not_mem.mpr ?_
    intro flag same
    obtain ⟨body, member, _⟩ := told.muted flag same
    contradiction

theorem filter (told : Derived bodies volume muted) (on : Bool) :
    Derived bodies (volume.filter fun _ => on) (muted.filter fun _ => on) := by
  cases on with
  | true =>
      have same {α : Type} (value : Option α) : value.filter (fun _ => true) = value := by
        cases value <;> rfl
      rw [same, same]
      exact told
  | false =>
      have same {α : Type} (value : Option α) : value.filter (fun _ => false) = none := by
        cases value <;> rfl
      rw [same, same]
      exact unknown bodies

theorem snapshot (bodies : List String) :
    Derived bodies (Snapshot.told bodies).volume (Snapshot.told bodies).muted := by
  constructor
  · intro level same
    obtain ⟨percent, last, rfl⟩ := Option.map_eq_some_iff.mp same
    obtain ⟨before, body, after, split, tells, _⟩ := (lastTold_eq_some _).mp last
    refine ⟨body, ?_, ?_⟩
    · simp [split]
    · simp [tells]
  · intro flag last
    obtain ⟨before, body, after, split, tells, _⟩ := (lastTold_eq_some _).mp last
    refine ⟨body, ?_, tells⟩
    simp [split]

end Derived

theorem Record.Foreign.unpublished {record : Record} (foreign : record.Foreign) :
    record.published? = none := by
  obtain ⟨time, what⟩ := record
  cases what <;> first | contradiction | rfl

/-- What the session of the controller has heard, if there has been one. -/
def heardBy (host : Option Nat) (trace : List Record) : List String :=
  (host.map fun number => heardIn number trace).getD []

theorem heardBy_append (host : Option Nat) (seen trace : List Record) :
    heardBy host (seen ++ trace) = heardBy host trace ++ heardBy host seen := by
  cases host with
  | none => rfl
  | some number =>
      simp only [heardBy, Option.map_some, Option.getD_some]
      exact bodiesBy_append _

namespace State

/-- All values that are known or were shown come from the one session that there has been, if any.
There is no other one after it. -/
structure Hosted (state : State) (host : Option Nat) : Prop where
  held : ∀ session, state.held = some session → host = some session.receiver
  gone : host ≠ none → state.held = none →
    state.controller.shuttingDown = true ∧ state.draft = none
  known : Derived (heardBy host state.trace) state.controller.volume state.controller.muted
  shown : ∀ shown ∈ shownIn state.trace, Derived (heardBy host state.trace) shown.volume shown.muted

variable {before after state : State} {session : Session} {host : Option Nat}

namespace Hosted

theorem unhosted (hosted : state.Hosted host) (isDraft : state.draft = some session)
    (unheld : state.held = none) : host = none := by
  cases host with
  | none => rfl
  | some number => cases (hosted.gone nofun unheld).2.symm.trans isDraft

theorem keep (hosted : before.Hosted host)
    (trace : ∃ seen, after.trace = seen ++ before.trace ∧ shownIn seen = [])
    (held : ∀ session, after.held = some session →
      ∃ old, before.held = some old ∧ session.receiver = old.receiver)
    (gone : host ≠ none → after.held = none →
      after.controller.shuttingDown = true ∧ after.draft = none)
    (volume : after.controller.volume = before.controller.volume)
    (muted : after.controller.muted = before.controller.muted) : after.Hosted host := by
  obtain ⟨seen, trace, unshown⟩ := trace
  have heard : heardBy host before.trace ⊆ heardBy host after.trace := by
    rw [trace, heardBy_append]
    exact List.subset_append_left _ _
  refine ⟨?_, gone, ?_, ?_⟩
  · intro session isHeld
    obtain ⟨old, wasHeld, receiver⟩ := held session isHeld
    rw [receiver]
    exact hosted.held old wasHeld
  · rw [volume, muted]
    exact hosted.known.mono heard
  · intro shown member
    rw [trace, shownIn_append, unshown, List.nil_append] at member
    exact (hosted.shown shown member).mono heard

theorem aside (hosted : before.Hosted host) (what : Occurrence)
    (unshown : shownIn [⟨before.now, what⟩] = []) : (before.note what).Hosted host :=
  hosted.keep ⟨[_], rfl, unshown⟩ (fun session isHeld => ⟨session, isHeld, rfl⟩) hosted.gone rfl rfl

theorem aloof (hosted : before.Hosted host) (aloof : Aloof before after) : after.Hosted host := by
  obtain ⟨seen, trace, foreign⟩ := aloof.trace
  refine hosted.keep ⟨seen, trace, ?_⟩ ?_ ?_ aloof.volume aloof.muted
  · exact List.filterMap_eq_nil_iff.mpr fun record member => (foreign record member).unpublished
  · intro session isHeld
    obtain ⟨old, wasHeld, same⟩ := Option.map_eq_some_iff.mp (aloof.held.symm.trans (congrArg _ isHeld))
    exact ⟨old, wasHeld, (congrArg (·.receiver) same).symm⟩
  · intro present unheld
    have wasUnheld : before.held = none := by
      simpa [unheld] using aloof.held.symm
    obtain ⟨shutting, undrafted⟩ := hosted.gone present wasUnheld
    refine ⟨aloof.shuttingDown.trans shutting, ?_⟩
    simpa [undrafted] using aloof.draft

theorem receive (hosted : state.Hosted host) (number : Nat) (body : String) :
    (state.receive number body).Hosted host := by
  rcases state.receive_cases number body with same | ⟨taker, rfl, taken⟩
  · rw [same]
    exact hosted
  · have unshown : shownIn (takes state.now taker body) = [] := by
      unfold takes
      split <;> rfl
    have controller := taken.controller
    refine hosted.keep ⟨_, taken.trace, unshown⟩ ?_ ?_ (by rw [controller]) (by rw [controller])
    · intro session isHeld
      rcases taken.place with ⟨wasHeld, held, _⟩ | ⟨_, _, held⟩
      · obtain rfl := Option.some.inj (held.symm.trans isHeld)
        exact ⟨taker, wasHeld, taker.receive_receiver body⟩
      · exact ⟨session, held.symm.trans isHeld, rfl⟩
    · intro present unheld
      rcases taken.place with ⟨_, held, _⟩ | ⟨isDraft, _, held⟩
      · cases held.symm.trans unheld
      · cases (hosted.gone present (held.symm.trans unheld)).2.symm.trans isDraft

theorem adopt (hosted : state.Hosted host) (isDraft : state.draft = some session)
    (unheld : state.held = none) {finish : Session → Session}
    (receiver : (finish session).receiver = session.receiver) :
    (state.adopt finish).Hosted (some session.receiver) := by
  -- There was no session before this one, so no value is known and none has been shown.
  obtain rfl := hosted.unhosted isDraft unheld
  have adopted := adopt_held isDraft finish
  refine ⟨?_, ?_, hosted.known.mono (List.nil_subset _), ?_⟩
  · intro other isHeld
    obtain rfl := Option.some.inj (adopted.symm.trans isHeld)
    rw [receiver]
  · intro _ none
    cases adopted.symm.trans none
  · intro shown member
    exact (hosted.shown shown member).mono (List.nil_subset _)

theorem refresh (hosted : state.Hosted host) (attended : state.Attended) :
    state.refresh.Hosted host := by
  unfold State.refresh Controller.refresh
  split
  · rename_i session found
    have isHeld : state.held = some session := (Option.filter_eq_some_iff.mp found).1
    have heard : heardBy host state.trace = heardIn session.receiver state.trace := by
      rw [hosted.held session isHeld]
      rfl
    refine ⟨hosted.held, hosted.gone, ?_, hosted.shown⟩
    rw [heard, (attended.held session isHeld).follows.known]
    exact .snapshot _
  · exact hosted

theorem publish (hosted : state.Hosted host) : state.publish.Hosted host := by
  rcases state.publish_cases with ⟨_, published⟩ | ⟨_, published⟩
  · rw [published]
    exact ⟨hosted.held, hosted.gone, hosted.known, hosted.shown⟩
  · have unheard : heardBy host [⟨state.now,
        .published (state.controller.mediaState state.gate state.now)⟩] = [] := by
      cases host <;> rfl
    have heard : heardBy host state.publish.trace = heardBy host state.trace := by
      rw [published]
      exact (heardBy_append host [_] state.trace).trans (by rw [unheard, List.append_nil])
    rw [published] at heard ⊢
    refine ⟨hosted.held, hosted.gone, ?_, ?_⟩
    · rw [heard]
      exact hosted.known
    · intro shown member
      rw [heard]
      rcases List.mem_cons.mp member with rfl | old
      · exact hosted.known.filter _
      · exact hosted.shown shown old

theorem touch (hosted : before.Hosted host) (attended : before.Attended)
    (touch : Touch before after) :
    ∃ later, after.Hosted later ∧ ∀ number, host = some number → later = some number := by
  have same {host : Option Nat} (hosted : after.Hosted host) :
      ∃ later, after.Hosted later ∧ ∀ number, host = some number → later = some number :=
    ⟨host, hosted, fun _ => id⟩
  cases touch with
  | aloof aloof => exact same (hosted.aloof aloof)
  | listening _ unheld =>
      exact same (hosted.keep ⟨[_], rfl, rfl⟩ (fun session isHeld => ⟨session, isHeld, rfl⟩)
        hosted.gone rfl rfl)
  | answered _ => exact same (hosted.aside _ rfl)
  | drafted _ _ _ unheld _ running =>
      refine same (hosted.keep ⟨[_], rfl, rfl⟩ (fun session isHeld => ⟨session, isHeld, rfl⟩) ?_
        rfl rfl)
      intro present _
      cases running.symm.trans (hosted.gone present unheld).1
  | received number body => exact same (hosted.receive number body)
  | granted isDraft unheld =>
      obtain rfl := hosted.unhosted isDraft unheld
      exact ⟨_, hosted.adopt isDraft unheld rfl, nofun⟩
  | rejected isDraft unheld _ _ =>
      obtain rfl := hosted.unhosted isDraft unheld
      exact ⟨_, hosted.adopt isDraft unheld rfl, nofun⟩
  | dropped =>
      refine same (hosted.keep ⟨[_], rfl, rfl⟩ (fun session isHeld => ⟨session, isHeld, rfl⟩) ?_
        rfl rfl)
      intro present unheld
      exact ⟨(hosted.gone present unheld).1, rfl⟩
  | @detached session isHeld =>
      refine same (hosted.keep ⟨[_], rfl, rfl⟩ ?_ nofun rfl rfl)
      intro other released
      obtain rfl : session.released = other := Option.some.inj released
      exact ⟨session, isHeld, rfl⟩
  | closed _ _ =>
      exact same (hosted.keep ⟨[_], rfl, rfl⟩ (fun session isHeld => ⟨session, isHeld, rfl⟩)
        hosted.gone rfl rfl)
  | ending =>
      refine same (hosted.keep ⟨[], rfl, rfl⟩ (fun session isHeld => ⟨session, isHeld, rfl⟩) ?_
        rfl rfl)
      intro present unheld
      exact ⟨rfl, (hosted.gone present unheld).2⟩
  | forgotten shutting undrafted =>
      refine same (hosted.keep ⟨[], rfl, rfl⟩ ?_ (fun _ _ => ⟨shutting, undrafted⟩) rfl rfl)
      intro session isHeld
      contradiction
  | refreshed => exact same (hosted.refresh attended)
  | published => exact same hosted.publish

theorem touches (hosted : before.Hosted host) (attended : before.Attended)
    (touches : Touches before after) :
    ∃ later, after.Hosted later ∧ ∀ number, host = some number → later = some number := by
  induction touches with
  | refl => exact ⟨host, hosted, fun _ => id⟩
  | tail earlier touch ih =>
      obtain ⟨middle, hostedThen, stays⟩ := ih
      obtain ⟨later, hostedNow, staysNow⟩ := hostedThen.touch (attended.touches earlier) touch
      exact ⟨later, hostedNow, fun number same => staysNow number (stays number same)⟩

theorem initial (options : Options) (television : Television) (network : Host) (replies : Replies)
    (patience : Option Nat) :
    (State.initial options television network replies patience).Hosted none := by
  obtain ⟨published, publishedAt, version, made⟩ :=
    publish_eq (.unpublished options) .unresolved 0
  have controller : (State.initial options television network replies patience).controller =
      (Controller.unpublished options).publish .unresolved 0 := rfl
  refine ⟨?_, ?_, ?_, ?_⟩
  · intro session isHeld
    contradiction
  · intro present
    contradiction
  · rw [controller, made]
    exact .unknown _
  · intro shown member
    contradiction

end Hosted

end State

end Televisor.Run
