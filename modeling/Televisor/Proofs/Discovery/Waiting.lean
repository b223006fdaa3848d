import Televisor.Proofs.Run.Sequence

namespace Televisor.Run

open Controller Discovery Network Rendering Telemetry

/-! Waiting for the list of applications, one activity after another until nobody waits for it. -/

namespace State

variable {state : State} {activity : Activity} {instant : Nat}

theorem awaitDiscovery_idle (idle : state.discovery = none) : state.awaitDiscovery = state := by
  rw [awaitDiscovery, idle]

theorem perform_timeout (next : state.nextActivity? = some activity) :
    (state.perform activity).appListTimeout = state.appListTimeout := by
  obtain ⟨seen, passage⟩ := state.perform_passage next
  exact congrArg (·.appListTimeout) passage.options

theorem Timely.perform (timely : state.Timely) (next : state.nextActivity? = some activity) :
    (state.perform activity).Timely :=
  (perform_meanwhile next).timely timely

/-- What goes on meanwhile does not put off the end of a wait. -/
theorem perform_latest (timely : state.Timely) (next : state.nextActivity? = some activity)
    {phase left : Phase} (running : state.discovery = some phase)
    (waits : (state.perform activity).discovery = some left) :
    left.latest state.appListTimeout = phase.latest state.appListTimeout := by
  cases activity with
  | discovery due =>
      cases (nextActivity?_eq_some.mp next).1.symm.trans running
      cases phase with
      | requesting returned =>
          obtain ⟨bound, within⟩ := timely
          have now : max state.now returned = returned := Nat.max_eq_right (within _ running).1
          simp only [perform, continueDiscovery] at waits
          split at waits <;> cases waits
          simp only [reach, Activity.due, Phase.due, Phase.latest, now]
          rfl
      | waiting deadline => cases waits
  | arrival arrival later =>
      by_cases delivers : ∃ apps, arrival.what = .apps apps
      · obtain ⟨apps, what⟩ := delivers
        simp only [perform, what, happen] at waits
        have still : state.discovery.bind Phase.delivered? = some left := waits
        rw [running, Option.bind_some] at still
        cases phase <;> cases still
        rfl
      · have still : (state.perform (.arrival arrival later)).discovery = state.discovery :=
          happen_discovery _ fun apps same => delivers ⟨apps, same⟩
        cases still.symm.trans waits |>.symm.trans running
        rfl
  | renewal session task =>
      have still : (state.perform (.renewal session task)).discovery = state.discovery :=
        (continueRenewal_kept _ session task).2.1
      cases still.symm.trans waits |>.symm.trans running
      rfl

/-- Whoever waits for the list waits for what is next, and then goes on waiting. -/
theorem awaitDiscovery_perform (timely : state.Timely) (waits : state.discovery.isSome = true)
    (next : state.nextActivity? = some activity) :
    state.awaitDiscovery = (state.perform activity).awaitDiscovery := by
  obtain ⟨phase, running⟩ := Option.isSome_iff_exists.mp waits
  have soon : activity.due < phase.latest state.appListTimeout + 1 := by
    obtain ⟨first, isNext, early⟩ := nextActivity?_le running
    cases isNext.symm.trans next
    exact Nat.lt_succ_of_le (Nat.le_trans early (phase.due_le_latest _))
  have first : state.awaitDiscovery = passWhile (phase.latest state.appListTimeout + 1)
      (·.discovery.isSome) (state.perform activity) := by
    rw [awaitDiscovery, running]
    simp only
    rw [passWhile, if_pos waits]
    split
    · rename_i other isNext
      cases isNext.symm.trans next
      rw [dif_pos soon]
    · rename_i idle
      cases idle.symm.trans next
  rw [first]
  cases left : (state.perform activity).discovery with
  | none =>
      rw [awaitDiscovery_idle left, passWhile, if_neg (by simp [left])]
  | some later =>
      rw [awaitDiscovery, left]
      simp only
      rw [perform_timeout next, perform_latest timely next running left]

theorem awaitDiscovery_induct {motive : State → State → Prop}
    (idle : ∀ state, state.discovery = none → motive state state)
    (performs : ∀ state activity after, state.Timely → state.discovery.isSome = true →
      state.nextActivity? = some activity → motive (state.perform activity) after →
      motive state after)
    (timely : state.Timely) : motive state state.awaitDiscovery := by
  obtain ⟨bound, within⟩ := timely
  induction weight : state.weight (bound + 1) using Nat.strongRecOn generalizing state with
  | ind weight ih =>
      cases running : state.discovery with
      | none =>
          rw [awaitDiscovery_idle running]
          exact idle state running
      | some phase =>
          obtain ⟨activity, next, early⟩ := nextActivity?_le running
          have soon : activity.due < bound + 1 := by
            have latest := (within phase running).2
            have due := phase.due_le_latest state.appListTimeout
            omega
          have fewer := perform_weight next soon
          have waits : state.discovery.isSome = true := by rw [running]; rfl
          rw [awaitDiscovery_perform within.timely waits next]
          exact performs state activity _ within.timely waits next
            (ih _ (weight ▸ fewer) ((perform_meanwhile next).within bound within) rfl)

theorem awaitDiscovery_clock (state : State) : state.now ≤ state.awaitDiscovery.now := by
  obtain ⟨seen, passage⟩ := state.awaitDiscovery_passage
  exact passage.clock

theorem awaitDiscovery_punctual (timely : state.Timely) (punctual : state.Punctual) :
    state.awaitDiscovery.Punctual := by
  refine awaitDiscovery_induct (motive := fun state after => state.Punctual → after.Punctual)
    ?_ ?_ timely punctual
  · exact fun state running => id
  · exact fun state activity after _ _ next ih punctual => ih (perform_punctual punctual next)

theorem awaitDiscovery_arrivals (timely : state.Timely) :
    state.awaitDiscovery.arrivals <:+ state.arrivals := by
  refine awaitDiscovery_induct
    (motive := fun state after => after.arrivals <:+ state.arrivals) ?_ ?_ timely
  · exact fun state running => List.suffix_refl _
  · exact fun state activity after _ _ next ih => ih.trans (perform_arrivals next)

theorem Timely.reach (timely : state.Timely) (calm : state.CalmUntil instant) :
    (state.reach instant).Timely :=
  (state.reach_meanwhile instant fun _ running => calm _ (.discovery running)).timely timely

/-- Time that has passed before anything is due makes no difference to whoever waits. -/
theorem awaitDiscovery_reach (timely : state.Timely) (waits : state.discovery.isSome = true)
    (calm : state.CalmUntil instant) :
    (state.reach instant).awaitDiscovery = state.awaitDiscovery := by
  obtain ⟨phase, running⟩ := Option.isSome_iff_exists.mp waits
  obtain ⟨activity, next, -⟩ := nextActivity?_le running
  have nextThen : (state.reach instant).nextActivity? = some activity := next
  rw [awaitDiscovery_perform timely waits next,
    awaitDiscovery_perform (timely.reach calm) waits nextThen, state.perform_reach (calm.le next)]

/-- It makes no difference whether somebody waits for the list at once or only after some time has
passed; whoever waits at once just has to let the same time pass. -/
theorem passTo_awaitDiscovery (timely : state.Timely) (punctual : state.Punctual) (instant : Nat) :
    (state.passTo instant).awaitDiscovery = state.awaitDiscovery.passTo instant := by
  refine passTo_induct (motive := fun state after => state.Timely → state.Punctual →
    after.awaitDiscovery = state.awaitDiscovery.passTo instant) ?_ ?_ state timely punctual
  · intro state calm timely punctual
    cases running : state.discovery with
    | none =>
        have idle : (state.reach instant).discovery = none := running
        rw [awaitDiscovery_idle idle, awaitDiscovery_idle running, passTo_calm calm]
    | some phase =>
        have waits : state.discovery.isSome = true := by rw [running]; rfl
        obtain ⟨activity, next, -⟩ := nextActivity?_le running
        have late : instant ≤ state.awaitDiscovery.now := by
          have clock := (state.perform activity).awaitDiscovery_clock
          rw [awaitDiscovery_perform timely waits next]
          rw [perform_now] at clock
          exact Nat.le_trans (calm.le next) (Nat.le_trans (Nat.le_max_right _ _) clock)
        have ahead := (awaitDiscovery_punctual timely punctual).calm
        rw [awaitDiscovery_reach timely waits calm,
          passTo_still (fun due pending => Nat.le_trans late (ahead due pending)) late]
  · intro state activity after next soon ih timely punctual
    rw [ih (timely.perform next) (perform_punctual punctual next)]
    cases running : state.discovery with
    | none =>
        have idle := (perform_meanwhile next).idle running
        rw [awaitDiscovery_idle running, awaitDiscovery_idle idle, passTo_perform next soon]
    | some phase =>
        rw [← awaitDiscovery_perform timely (by rw [running]; rfl) next]

/-- Once the wait is over it is as if nobody had waited. -/
theorem awaitDiscovery_passTo (timely : state.Timely)
    (past : state.awaitDiscovery.now < instant) :
    state.awaitDiscovery.passTo instant = state.passTo instant := by
  refine (awaitDiscovery_induct (motive := fun state after => state.now ≤ after.now ∧
    (after.now < instant → after.passTo instant = state.passTo instant)) ?_ ?_ timely).2 past
  · exact fun state running => ⟨Nat.le_refl _, fun _ => rfl⟩
  · rintro state activity after - - next ⟨clock, same⟩
    rw [perform_now] at clock
    refine ⟨Nat.le_trans (Nat.le_max_left _ _) clock, fun past => ?_⟩
    have soon : activity.due < instant :=
      Nat.lt_of_le_of_lt (Nat.le_trans (Nat.le_max_right _ _) clock) past
    rw [same past, passTo_perform next soon]

end State

end Televisor.Run
