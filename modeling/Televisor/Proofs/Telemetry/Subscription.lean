import Televisor.Proofs.Telemetry.Keeping
import Televisor.Proofs.Telemetry.Ledger

namespace Televisor.Run

open Controller Network Rendering Telemetry

/-! What a handle does about its subscription, over all that may be called and answered. -/

/-- At every moment: what the handle has, what was sent for its subscription, and when. -/
structure Conduct (url : String) (callback : Option String) (state : State) : Prop where
  single : ∀ session, state.held = some session → session.control.tasks.length ≤ 1
  /-- The subscription in use is the one that was granted last, and its renewal stands where the trace
  tells. -/
  agreeing : ∀ session, state.held = some session → session.alive = true →
    (∀ sid, session.control.sid = some sid ↔ Current state.trace sid) ∧
    Standing.of session.control.renewal = standingIn url state.trace
  /-- Somebody subscribes, a round begins in its time for the subscription there is, or a round was
  refused. -/
  subscribing : ∀ later time request earlier,
    state.trace = later ++ ⟨time, .called (.http request)⟩ :: earlier →
    request.method = "SUBSCRIBE" →
    (∃ renewing rest place, earlier = ⟨time, .called (.subscribe renewing)⟩ :: rest ∧
      callback = some place ∧ (subscribe url place).built? = some request) ∨
    (∃ sid, Due earlier time ∧ Current earlier sid ∧ (renew url sid).built? = some request) ∨
    ∃ answer rest place, earlier = ⟨time, .answered .renewal answer⟩ :: rest ∧
      (∀ grant, ¬ Grants answer grant) ∧ callback = some place ∧
      (subscribe url place).built? = some request
  /-- A round that is refused asks for a new subscription at once. -/
  refused : ∀ later time answer earlier,
    state.trace = later ++ ⟨time, .answered .renewal answer⟩ :: earlier →
    (∀ grant, ¬ Grants answer grant) →
    ∃ rest request place, later = rest ++ [⟨time, .called (.http request)⟩] ∧
      callback = some place ∧ (subscribe url place).built? = some request
  apart : (roundsIn state.trace).Pairwise fun later earlier => earlier + 30000 ≤ later
  /-- The round after a long grant begins before the grant is over. -/
  prompt : ∀ rest instant request later time asker answer grant earlier,
    state.trace = rest ++ ⟨instant, .called (.http request)⟩ :: later ++
      ⟨time, .answered asker answer⟩ :: earlier →
    request.isRenewal = true → asker ≠ .caller false → Grants answer grant →
    30000 < grant.duration → Undisturbed later →
    time + 30000 ≤ instant ∧ instant < time + grant.duration
  /-- Before the grant is over that round has begun, unless it was done away with. -/
  pending : ∀ session later time asker answer grant earlier, state.held = some session →
    session.alive = true → state.trace = later ++ ⟨time, .answered asker answer⟩ :: earlier →
    asker ≠ .caller false → Grants answer grant → 30000 < grant.duration →
    Undisturbed later → state.now < time + grant.duration
  /-- The end of the subscription is told at most once, for the one there was. -/
  unsubscribing : ∀ later time request earlier,
    state.trace = later ++ ⟨time, .called (.http request)⟩ :: earlier →
    request.method = "UNSUBSCRIBE" →
    ∃ rest sid, earlier = ⟨time, .called .unsubscribe⟩ :: rest ∧ Current rest sid ∧
      (unsubscribe url sid).built? = some request
  /-- After that there is no subscription, and none is asked for, until somebody subscribes. -/
  silent : ∀ later time earlier, state.trace = later ++ ⟨time, .called .unsubscribe⟩ :: earlier →
    (∀ renewing, .subscribe renewing ∉ callsIn later) →
    (∀ session, state.held = some session → session.alive = true →
      session.control.sid = none ∧ session.control.tasks = []) ∧
    standingIn url state.trace = .idle ∧ (∀ sid, ¬ Current state.trace sid) ∧
    ∀ request, .http request ∈ callsIn later → request.method ≠ "SUBSCRIBE"

variable {url : String} {callback : Option String} {trace : List Record}

theorem Booked.at_record {later earlier : List Record} {record : Record}
    (booked : Booked url callback trace) (split : trace = later ++ record :: earlier) :
    Booked url callback (record :: earlier) :=
  booked.at_moment (split ▸ List.suffix_append _ _)

theorem Booked.subscribing (booked : Booked url callback trace)
    {later earlier : List Record} {time : Nat} {request : Request}
    (split : trace = later ++ ⟨time, .called (.http request)⟩ :: earlier)
    (subscribes : request.method = "SUBSCRIBE") :
    (∃ renewing rest place, earlier = ⟨time, .called (.subscribe renewing)⟩ :: rest ∧
      callback = some place ∧ (subscribe url place).built? = some request) ∨
    (∃ sid, Due earlier time ∧ Current earlier sid ∧ (renew url sid).built? = some request) ∨
    ∃ answer rest place, earlier = ⟨time, .answered .renewal answer⟩ :: rest ∧
      (∀ grant, ¬ Grants answer grant) ∧ callback = some place ∧
      (subscribe url place).built? = some request := by
  cases (booked.at_record split).entry with
  | first _ direct known built => exact .inl ⟨_, _, _, direct, known, built⟩
  | round due stored built =>
      exact .inr (.inl ⟨_, due_of_asleep due, storedIn_eq_some.mp stored, built⟩)
  | again direct refused known built =>
      exact .inr (.inr ⟨_, _, _, direct, refuses refused, known, built⟩)
  | last _ _ built =>
      rw [Request.built?_method built] at subscribes
      simp [unsubscribe] at subscribes

theorem Booked.unsubscribing (booked : Booked url callback trace)
    {later earlier : List Record} {time : Nat} {request : Request}
    (split : trace = later ++ ⟨time, .called (.http request)⟩ :: earlier)
    (unsubscribes : request.method = "UNSUBSCRIBE") :
    ∃ rest sid, earlier = ⟨time, .called .unsubscribe⟩ :: rest ∧ Current rest sid ∧
      (unsubscribe url sid).built? = some request := by
  cases (booked.at_record split).entry with
  | last direct stored built => exact ⟨_, _, direct, storedIn_eq_some.mp stored, built⟩
  | first _ _ _ built | round _ _ built | again _ _ _ built =>
      rw [Request.built?_method built] at unsubscribes
      simp [subscribe, renew] at unsubscribes

/-- Nothing else comes directly after a refusal. -/
theorem Booked.refused (booked : Booked url callback trace)
    (calm : standingIn url trace ≠ .refused) {later earlier : List Record} {time : Nat}
    {answer : Answer} {failure : Rendering.Failure}
    (split : trace = later ++ ⟨time, .answered .renewal answer⟩ :: earlier)
    (refused : readGrant url answer = .error failure) :
    ∃ rest request place, later = rest ++ [⟨time, .called (.http request)⟩] ∧
      callback = some place ∧ (subscribe url place).built? = some request := by
  have standing : standingIn url (⟨time, .answered .renewal answer⟩ :: earlier) = .refused :=
    standingIn_refused refused
  rcases List.eq_nil_or_concat later with rfl | ⟨rest, record, rfl⟩
  · rw [split] at calm
    exact absurd standing calm
  · have next : trace = rest ++ record :: ⟨time, .answered .renewal answer⟩ :: earlier := by
      simpa using split
    cases (booked.at_record next).entry with
    | again direct _ known built =>
        cases direct
        exact ⟨_, _, _, List.concat_eq_append, known, built⟩
    | first _ direct _ _ => cases direct
    | last direct _ _ => cases direct
    | asked calm | unsubscribing calm | answered calm _ => exact absurd standing calm
    | round other _ _ | renewed other | resubscribed other =>
        rw [standing] at other
        contradiction

section Grant

variable {later earlier : List Record} {time : Nat} {asker : Asker} {answer : Answer}
  {grant : Grant}

/-- The next round after a grant has its time, and keeps it. -/
theorem Booked.asleep_since
    (booked : Booked url callback (later ++ ⟨time, .answered asker answer⟩ :: earlier))
    (renews : asker ≠ .caller false) (granted : readGrant url answer = .ok grant)
    (undisturbed : Undisturbed later) :
    standingIn url (later ++ ⟨time, .answered asker answer⟩ :: earlier) =
      .asleep (time + renewAfter grant.duration) :=
  booked.asleep_until (standingIn_granted renews granted) undisturbed

theorem Booked.prompt {rest : List Record} {instant : Nat} {request : Request}
    (booked : Booked url callback (rest ++ ⟨instant, .called (.http request)⟩ :: later ++
      ⟨time, .answered asker answer⟩ :: earlier))
    (isRound : request.isRenewal = true) (renews : asker ≠ .caller false)
    (granted : readGrant url answer = .ok grant) (long : 30000 < grant.duration)
    (undisturbed : Undisturbed later) :
    time + 30000 ≤ instant ∧ instant < time + grant.duration := by
  have begins := booked.at_record (List.append_assoc _ _ _)
  have asleep := begins.tail.asleep_since renews granted undisturbed
  have patient := renewAfter_ge grant.duration
  have short := renewAfter_lt long
  suffices instant = time + renewAfter grant.duration by omega
  cases begins.entry with
  | round due _ _ =>
      exact Standing.asleep.inj (due.symm.trans asleep)
  | first _ _ _ built | again _ _ _ built => simp [subscribe_isRenewal built] at isRound
  | last _ _ built => simp [unsubscribe_isRenewal built] at isRound

end Grant

theorem Booked.conduct {state : State} (booked : Booked url callback state.trace)
    (calm : standingIn url state.trace ≠ .refused)
    (single : ∀ session, state.held = some session → session.control.tasks.length ≤ 1)
    (agreeing : ∀ session, state.held = some session → session.alive = true →
      session.control.sid = storedIn url state.trace ∧
      Standing.of session.control.renewal = standingIn url state.trace)
    (punctual : ∀ session wake, state.held = some session → session.alive = true →
      session.control.renewal = some (.sleeping wake) → state.now ≤ wake) :
    Conduct url callback state where
  single := single
  agreeing := by
    intro session held alive
    obtain ⟨stored, standing⟩ := agreeing session held alive
    refine ⟨fun sid => ?_, standing⟩
    rw [stored]
    exact storedIn_eq_some
  subscribing := fun _ _ _ _ split subscribes => booked.subscribing split subscribes
  refused := by
    intro later time answer earlier split none
    obtain ⟨failure, refused⟩ : ∃ failure, readGrant url answer = .error failure :=
      readGrant_failed.mpr none
    exact booked.refused calm split refused
  apart := booked.rounds.1
  prompt := by
    intro rest instant request later time asker answer grant earlier split isRound renews grants
    exact (split ▸ booked).prompt isRound renews (readGrant_eq_ok.mpr grants)
  pending := by
    intro session later time asker answer grant earlier held alive split renews grants long
      undisturbed
    have asleep := (split ▸ booked).asleep_since renews (readGrant_eq_ok.mpr grants) undisturbed
    have standing := (agreeing session held alive).2.trans (split ▸ asleep)
    have early := punctual session _ held alive (Standing.of_asleep standing)
    have short := renewAfter_lt long
    omega
  unsubscribing := fun _ _ _ _ split unsubscribes => booked.unsubscribing split unsubscribes
  silent := by
    intro later time earlier split unasked
    obtain ⟨idle, forgotten, _, silent⟩ := (split ▸ booked).ended unasked
    rw [← split] at idle forgotten
    refine ⟨fun session held alive => ?_, idle, fun sid current => ?_, silent⟩
    · obtain ⟨stored, standing⟩ := agreeing session held alive
      exact ⟨stored.trans forgotten,
        Control.tasks_eq_nil (Standing.of_idle (standing.trans idle))⟩
    · cases forgotten.symm.trans (storedIn_eq_some.mpr current)

namespace Managed

variable {state : State}

theorem conduct (managed : Managed url callback state) : Conduct url callback state := by
  cases managed with
  | gone gone =>
      have dead {session : Session} (held : state.held = some session) : session.alive ≠ true := by
        simp [gone.dead session held]
      exact gone.booked.conduct gone.calm
        (fun session held => by simp [gone.resting session held])
        (fun session held alive => absurd alive (dead held))
        fun session _ held alive => absurd alive (dead held)
  | there alone =>
      obtain ⟨session, held, _, kept⟩ := alone.kept
      refine kept.booked.conduct kept.calm ?_ ?_ ?_
      · intro other isHeld
        cases held.symm.trans isHeld
        exact kept.tended.single
      · intro other isHeld _
        cases held.symm.trans isHeld
        exact ⟨kept.stored, kept.standing⟩
      · intro other wake isHeld _ asleep
        cases held.symm.trans isHeld
        exact kept.punctual _ asleep

/-- When the handle is dropped, what goes on is stopped with it. -/
theorem dropped (managed : Managed url callback state) (later : List Handling) :
    ((state.handle .drop).handles later).trace = state.trace ∧
    ∀ session, ((state.handle .drop).handles later).held = some session →
      session.control.tasks = [] := by
  have gone : Gone url callback (state.handle .drop) := by
    cases managed with
    | gone gone => exact (gone.handle .drop).1
    | there alone => exact alone.drop
  exact ⟨(gone.handles later).2, (gone.handles later).1.resting⟩

end Managed

/-- Between calls, and while they wait for their answers, the books of the subscription are right;
and once the handle is dropped nothing goes on and nothing more is ever sent. -/
theorem State.subscription_conduct (options : Options) (television : Television) (host : Host)
    (replies : Replies) (patience : Option Nat) (device : Device) (callback : Option String)
    (list : List Handling) :
    let state := (State.handling options television host replies patience device callback).handles
      list
    Conduct device.eventUrl callback state ∧
    (∀ handling,
      (∃ instant, ((state.begun handling).passTo instant).trace <:+
        (state.handle handling).trace) ∧
      ∀ instant, Conduct device.eventUrl callback ((state.begun handling).passTo instant)) ∧
    ∀ later, ((state.handle .drop).handles later).trace = state.trace ∧
      ∀ session, ((state.handle .drop).handles later).held = some session →
        session.control.tasks = [] := by
  intro state
  have unused : Managed device.eventUrl callback _ :=
    .there (.handling options television host replies patience device callback)
  have managed : Managed device.eventUrl callback state := unused.handles list
  refine ⟨managed.conduct, fun handling => ⟨state.begun_handle handling, fun instant => ?_⟩,
    managed.dropped⟩
  exact (managed.begun handling instant).conduct

/-- A renderer that grants a minute each time. -/
def minute : Answer :=
  .reply ⟨200, [("SID", "uuid:1"), ("TIMEOUT", " Second-60")], "", false⟩

def minuteDevice : Device :=
  ⟨"http://10.0.0.2/dmr", none, "RenderingControl", "http://10.0.0.2/control",
    "http://10.0.0.2/events"⟩

def minutely : State :=
  .handling ⟨"TV", "tv", none, none, none, 10000, 3000⟩
    ⟨.ok true, 0, false, none, 0, none, true, none, none, 0, none, 0⟩
    (.unrouted 8058 "/notify/6f2c") [("SUBSCRIBE", [⟨minute, 0⟩])] none
    minuteDevice (some "http://10.0.0.9:8058/notify/6f2c")

theorem minute_grants : Grants minute ⟨"uuid:1", 60000⟩ :=
  .timed (by decide) (Reply.header?_eq_some.mp (by decide +kernel))
    (Reply.header?_eq_some.mp (by decide +kernel))
    (parseGrant?_eq_some.mp (by decide +kernel : parseGrant? " Second-60" = some 60))

/-- What was granted for a minute is renewed within it. -/
theorem minutely_renewed :
    ∃ rest instant request earlier, (minutely.handles [.subscribe true, .pass 40000]).trace =
        rest ++ ⟨instant, .called (.http request)⟩ ::
          ⟨0, .answered (.caller true) minute⟩ :: earlier ∧
      request.isRenewal = true ∧ 30000 ≤ instant ∧ instant < 60000 := by
  let round : Request :=
    ⟨"SUBSCRIBE", "http://10.0.0.2/events", [("sid", "uuid:1"), ("timeout", "Second-1800")], none⟩
  have seen : (minutely.handles [.subscribe true, .pass 40000]).trace =
      [⟨30000, .answered .renewal minute⟩] ++
        ⟨30000, .called (.http round)⟩ :: ⟨0, .answered (.caller true) minute⟩ ::
        [⟨0, .called (.http ⟨"SUBSCRIBE", "http://10.0.0.2/events",
            [("callback", "<http://10.0.0.9:8058/notify/6f2c>"), ("nt", "upnp:event"),
              ("timeout", "Second-1800")], none⟩)⟩,
          ⟨0, .called (.subscribe true)⟩] := by
    decide +kernel
  have conduct : Conduct minuteDevice.eventUrl (some "http://10.0.0.9:8058/notify/6f2c")
      (minutely.handles [.subscribe true, .pass 40000]) :=
    (State.subscription_conduct _ _ _ _ _ _ _ _).1
  have isRound : round.isRenewal = true := by decide
  have within := conduct.prompt [⟨30000, .answered .renewal minute⟩] 30000 round [] 0 (.caller true)
    minute _ _ seen isRound nofun minute_grants (by decide) (by simp [Undisturbed])
  exact ⟨_, _, round, _, seen, isRound, within⟩

end Televisor.Run
