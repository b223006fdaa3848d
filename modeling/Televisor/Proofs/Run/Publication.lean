import Televisor.Proofs.Telemetry.Housing

namespace Televisor.Run

open Controller Discovery Media Telemetry

/-! What subscribers see.  At every instant the trace accounts for what the controller has learnt and
for the versions it has published; between operations the published state lags behind only where an
event still waits. -/

/-- What subscribers have been shown after the first state, the latest first, and what they see
now. -/
inductive Versions (first : MediaState) : List MediaState → MediaState → Prop where
  | first : Versions first [] first
  | next {shown current next} (changed : next ≠ current) (earlier : Versions first shown current) :
      Versions first (next :: shown) next

namespace State

structure Accounted (state : State) : Prop where
  delivered : state.gate.apps? = deliveredIn state.trace
  refused : state.controller.authFailed = true ↔ Event.reauthRequired ∈ raisedIn state.trace
  heeds : state.Heeds
  versions : Versions (Controller.new state.controller.options).published (shownIn state.trace)
    state.controller.published
  counted : state.controller.version =
    (Controller.new state.controller.options).version + (shownIn state.trace).length
  past : state.controller.publishedAt ≤ state.now

/-- What is observable by now would have been published when there was last occasion to. -/
def current (state : State) : MediaState :=
  state.controller.mediaState state.gate state.controller.publishedAt

structure Informed (state : State) : Prop extends Accounted state where
  shown : state.controller.published = { state.current with
    available := state.controller.published.available
    sources := state.controller.published.sources }
  available : Event.reauthRequired ∈ state.queue ∨
    state.controller.published.available = state.current.available
  sources : Event.appsChanged ∈ state.queue ∨
    state.controller.published.sources = state.current.sources

variable {state after : State} {seen : List Record}

theorem Accounted.tidings (accounted : state.Accounted) (tidings : Tidings state seen after)
    (heeds : after.Heeds) : after.Accounted where
  delivered := by rw [tidings.apps, tidings.delivered, accounted.delivered]
  refused := by rw [tidings.authFailed, tidings.raised, List.mem_append, accounted.refused]
  heeds := heeds
  versions := by
    rw [tidings.options, tidings.shown, tidings.published]
    exact accounted.versions
  counted := by
    rw [tidings.options, tidings.shown, tidings.version]
    exact accounted.counted
  past := by
    rw [tidings.publishedAt]
    exact Nat.le_trans accounted.past tidings.clock

/-- There is a new version exactly if what is observable differs from what was published last. -/
theorem publish_cases (state : State) :
    (state.controller.published = state.controller.mediaState state.gate state.now ∧
      state.publish =
        { state with controller := { state.controller with publishedAt := state.now } }) ∨
    (state.controller.published ≠ state.controller.mediaState state.gate state.now ∧
      state.publish =
        { state.note (.published (state.controller.mediaState state.gate state.now)) with
          controller := { state.controller with
            published := state.controller.mediaState state.gate state.now
            publishedAt := state.now
            version := state.controller.version + 1 } }) := by
  by_cases same : state.controller.published = state.controller.mediaState state.gate state.now
  · left
    refine ⟨same, ?_⟩
    rw [publish, setController, Controller.publish]
    simp only [if_pos same, if_true]
  · right
    refine ⟨same, ?_⟩
    rw [publish, setController, Controller.publish]
    simp only [if_neg same, Nat.add_eq_left, Nat.succ_ne_zero, if_false]

theorem Informed.of_current (accounted : state.Accounted)
    (same : state.controller.published = state.current) : state.Informed where
  toAccounted := accounted
  shown := by rw [same]
  available := .inr (congrArg MediaState.available same)
  sources := .inr (congrArg MediaState.sources same)

theorem publish_current (state : State) :
    state.publish.controller.published = state.publish.current := by
  have gate : state.publish.gate = state.gate := setController_gate _ _
  rw [current, publish_controller, publish_published, publish_publishedAt, gate,
    publish_mediaState]

theorem Accounted.publish (accounted : state.Accounted) : state.publish.Informed := by
  refine .of_current ?_ state.publish_current
  rcases state.publish_cases with ⟨same, published⟩ | ⟨changed, published⟩
  · rw [published]
    exact ⟨accounted.delivered, accounted.refused, accounted.heeds, accounted.versions,
      accounted.counted, Nat.le_refl _⟩
  · rw [published]
    refine ⟨accounted.delivered, accounted.refused, accounted.heeds,
      .next changed.symm accounted.versions, ?_, Nat.le_refl _⟩
    exact congrArg (· + 1) accounted.counted

/-- What is observable changes with what the controller learns, and nothing else does. -/
theorem mediaState_advance (advance : Advance state seen after) (now : Nat) :
    after.controller.mediaState after.gate now =
      { state.controller.mediaState state.gate now with
        available := (after.controller.mediaState after.gate now).available
        sources := (after.controller.mediaState after.gate now).sources } := by
  rw [advance.controller]
  rfl

theorem current_advance (advance : Advance state seen after) :
    after.current = { state.current with
      available := after.current.available, sources := after.current.sources } := by
  unfold current
  rw [advance.publishedAt]
  exact mediaState_advance advance _

theorem available_advance (advance : Advance state seen after)
    (calm : Event.reauthRequired ∉ raisedIn seen) :
    after.current.available = state.current.available := by
  have same : after.controller.authFailed = state.controller.authFailed :=
    Bool.eq_iff_iff.mpr (advance.authFailed.trans (or_iff_left calm))
  unfold current
  rw [advance.publishedAt, advance.controller, same]
  rfl

theorem sources_advance (advance : Advance state seen after)
    (calm : Event.appsChanged ∉ raisedIn seen) : after.current.sources = state.current.sources := by
  have undelivered : deliveredIn seen = none := by
    cases last : deliveredIn seen with
    | none => rfl
    | some apps => exact absurd (advance.announced (by simp [last])) calm
  have same : after.gate.apps? = state.gate.apps? := by
    rw [advance.apps, undelivered, Option.none_or]
  exact congrArg (fun apps => builtinNames ++ (apps.map Apps.names).getD []) same

theorem Informed.advance (informed : state.Informed) (advance : Advance state seen after)
    (heeds : after.Heeds) : after.Informed where
  toAccounted := informed.toAccounted.tidings advance.toTidings heeds
  shown := by
    rw [advance.published, current_advance advance]
    exact informed.shown
  available := by
    rw [advance.queue, List.mem_append, advance.published]
    rcases informed.available with waits | same
    · exact .inl (.inl waits)
    · by_cases raised : Event.reauthRequired ∈ raisedIn seen
      · exact .inl (.inr raised)
      · exact .inr (same.trans (available_advance advance raised).symm)
  sources := by
    rw [advance.queue, List.mem_append, advance.published]
    rcases informed.sources with waits | same
    · exact .inl (.inl waits)
    · by_cases raised : Event.appsChanged ∈ raisedIn seen
      · exact .inl (.inr raised)
      · exact .inr (same.trans (sources_advance advance raised).symm)

theorem Informed.drift (informed : state.Informed) (drift : Drift state seen after) :
    after.Informed :=
  informed.advance drift.toAdvance (heeds_drift informed.heeds drift)

/-- A change to what neither shows nor is learnt from events. -/
theorem Informed.like (informed : state.Informed) {playing shuttingDown : Bool}
    (controller : after.controller =
      { state.controller with playing := playing, shuttingDown := shuttingDown })
    (now : after.now = state.now) (gate : after.gate = state.gate) (held : after.held = state.held)
    (queue : after.queue = state.queue) (trace : after.trace = state.trace) : after.Informed := by
  have current : after.current = state.current := by
    unfold State.current
    rw [controller, gate]
    rfl
  have heeds : after.Heeds := by
    unfold Heeds Attuned State.heard
    rw [controller, held, queue]
    exact informed.heeds
  refine ⟨⟨?_, ?_, heeds, ?_, ?_, ?_⟩, ?_, ?_, ?_⟩
  · rw [gate, trace]
    exact informed.delivered
  · rw [controller, trace]
    exact informed.refused
  · rw [controller, trace]
    exact informed.versions
  · rw [controller, trace]
    exact informed.counted
  · rw [controller, now]
    exact informed.past
  · rw [current, controller]
    exact informed.shown
  · rw [current, controller, queue]
    exact informed.available
  · rw [current, controller, queue]
    exact informed.sources

theorem Informed.prepared (informed : state.Informed) (command : Command) :
    (state.prepared command).Informed := by
  by_cases off : command = .turnOff
  · subst off
    have armed : Tidings state [] { state with controller := { state.controller with
        window := state.controller.window.arm state.now state.controller.options.pollInterval } } :=
      .unseen rfl (Nat.le_refl _) rfl rfl rfl rfl
    have published := informed.toAccounted.tidings armed informed.heeds
    exact published.publish
  · obtain ⟨playing, same⟩ := prepare_other state.controller state.gate state.now off
    unfold State.prepared
    rw [same, setController_eq]
    refine informed.like rfl rfl rfl rfl rfl ?_
    simp [shows]

theorem heeds_of_unheld (unheld : state.held = none) : state.Heeds := by
  right
  intro snapshot heard
  rw [State.heard, unheld] at heard
  contradiction

theorem Accounted.pop (accounted : state.Accounted) {rest : List Event}
    (heeds : { state with queue := rest }.Heeds) : { state with queue := rest }.Accounted :=
  ⟨accounted.delivered, accounted.refused, heeds, accounted.versions, accounted.counted,
    accounted.past⟩

/-- An event that has been handled need not be heeded any more. -/
theorem Accounted.handleEvent (accounted : state.Accounted) (housed : state.Housed) {event : Event}
    {rest : List Event} (waiting : state.queue = event :: rest) :
    ({ state with queue := rest }.handleEvent event).Informed := by
  by_cases changed : event = .telemetryChanged
  · subst changed
    have attuned := refresh_attuned housed.settled.alive
    have refreshed := accounted.tidings state.refresh_tidings (.inr attuned)
    have popped : { state.refresh with queue := rest }.Accounted := refreshed.pop (.inr attuned)
    exact popped.publish
  · have heeds : { state with queue := rest }.Heeds := by
      rcases accounted.heeds with waits | attuned
      · rw [waiting, List.mem_cons] at waits
        exact .inl (waits.resolve_left fun same => changed same.symm)
      · exact .inr attuned
    have published := (accounted.pop heeds).publish
    cases event with
    | telemetryChanged => exact absurd rfl changed
    | _ => exact published

theorem Informed.step {operation : Operation} (informed : state.Informed) (housed : state.Housed)
    (step : state.Step operation after) : after.Informed := by
  cases step with
  | polled gathering =>
      obtain ⟨seen, tidings⟩ := gathering.tidings
      have gathered := informed.toAccounted.tidings tidings (gathering.heeds informed.heeds)
      exact gathered.publish
  | carriedOut drift => exact (informed.prepared _).drift drift
  | handled waiting => exact informed.toAccounted.handleEvent housed waiting
  | ended _ advance _ settled =>
      have ending : state.ending.Informed := informed.like rfl rfl rfl rfl rfl rfl
      exact ending.advance advance (heeds_of_unheld settled.held_none)
  | drifted drift => exact informed.drift drift
  | surrounded _ _ _ _ _ => exact informed.like rfl rfl rfl rfl rfl rfl

theorem Informed.run (informed : state.Informed) (housed : state.Housed)
    (operations : List Operation) : (state.run operations).Informed := by
  induction operations generalizing state with
  | nil => exact informed
  | cons operation rest ih =>
      rw [run_cons]
      exact ih (informed.step housed (apply_step housed operation)) (housed.apply operation)

theorem Informed.initial (options : Options) (television : Television) (host : Host)
    (replies : Network.Replies) (patience : Option Nat) :
    (State.initial options television host replies patience).Informed := by
  have known := new_options options
  have published : (Controller.new options).published =
      (Controller.unpublished options).mediaState .unresolved 0 := publish_published _ _ _
  have publishedAt : (Controller.new options).publishedAt = 0 := publish_publishedAt _ _ _
  have trusted : (Controller.new options).authFailed = false := publish_authFailed _ _ _
  refine .of_current ⟨rfl, ?_, heeds_of_unheld rfl, ?_, ?_, ?_⟩ ?_
  · simp [State.initial, trusted, raisedIn]
  · simp only [State.initial, known]
    exact .first
  · simp [State.initial, known, shownIn]
  · exact Nat.le_of_eq publishedAt
  · unfold State.current
    simp only [State.initial, published, publishedAt]
    exact (publish_mediaState _ _ _ _).symm

theorem Informed.published_eq (informed : state.Informed) (handled : state.queue = []) :
    state.controller.published = state.current := by
  have available := informed.available
  have sources := informed.sources
  rw [handled] at available sources
  have sameAvailable := available.resolve_left List.not_mem_nil
  have sameSources := sources.resolve_left List.not_mem_nil
  refine informed.shown.trans ?_
  rw [sameAvailable, sameSources]

/-- When every event has been handled, what was published last is what was observable when there was
last occasion to publish, with all that has been delivered and refused since and the values of the
session that is held.  Subscribers are shown a new version exactly when the published state
changes. -/
theorem published_when_handled (options : Options) (television : Television) (host : Host)
    (replies : Network.Replies) (patience : Option Nat) (operations : List Operation) :
    let state := (State.initial options television host replies patience).run operations
    let seen := state.controller.published
    (state.queue = [] →
      seen.state = state.controller.power ∧
      seen.sources = builtinNames ++ ((deliveredIn state.trace).map Apps.names).getD [] ∧
      (Event.reauthRequired ∈ raisedIn state.trace → seen.available = false) ∧
      (∀ session, state.held = some session → state.controller.power = .on →
        seen.volume = session.snapshot.volume ∧ seen.muted = session.snapshot.muted) ∧
      (state.controller.power = .off → seen.volume = none ∧ seen.muted = none) ∧
      seen = state.controller.mediaState state.gate state.controller.publishedAt ∧
      state.controller.publishedAt ≤ state.now) ∧
    Versions (Controller.new options).published (shownIn state.trace) seen ∧
    state.controller.version =
      (Controller.new options).version + (shownIn state.trace).length := by
  intro state seen
  have housed := Housed.initial options television host replies patience
  have initial := Informed.initial options television host replies patience
  have informed : state.Informed := initial.run housed operations
  have known : state.controller.options = options :=
    (housed.run_options operations).trans (new_options options)
  have versions := informed.versions
  have counted := informed.counted
  rw [known] at versions counted
  refine ⟨fun handled => ?_, versions, counted⟩
  have same : seen = state.controller.mediaState state.gate state.controller.publishedAt :=
    informed.published_eq handled
  have attuned : state.Attuned := by
    have heeds := informed.heeds
    rw [Heeds, handled] at heeds
    exact heeds.resolve_left List.not_mem_nil
  refine ⟨?_, ?_, ?_, ?_, ?_, same, informed.past⟩
  · rw [same]
    rfl
  · rw [same, ← informed.delivered]
    rfl
  · intro raised
    have refused : state.controller.authFailed = true := informed.refused.mpr raised
    have unavailable : seen.available = state.controller.isAvailable _ :=
      congrArg MediaState.available same
    rw [unavailable, Controller.isAvailable, refused]
    rfl
  · intro session isHeld on
    have heard : state.heard = some session.snapshot := by rw [State.heard, isHeld, Option.map_some]
    obtain ⟨volume, muted⟩ := attuned _ heard
    obtain ⟨shownVolume, shownMuted⟩ := mediaState_on state.controller state.gate
      state.controller.publishedAt on
    rw [same, shownVolume, shownMuted]
    exact ⟨volume, muted⟩
  · intro off
    rw [same]
    exact mediaState_off _ _ _ off

/-- A refusal shows once it has been handled. -/
theorem refusal_shows_when_handled :
    (plain.run [.happen .refusal, .event]).queue = [] ∧
      (plain.run [.happen .refusal, .event]).controller.published.available = false := by
  have handled : (plain.run [.happen .refusal, .event]).queue = [] := by decide +kernel
  have refused : Event.reauthRequired ∈ raisedIn (plain.run [.happen .refusal, .event]).trace := by
    decide +kernel
  exact ⟨handled, ((published_when_handled _ _ _ _ _ [.happen .refusal, .event]).1 handled).2.2.1
    refused⟩

end State

end Televisor.Run
