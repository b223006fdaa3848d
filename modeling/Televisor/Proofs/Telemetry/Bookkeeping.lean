import Televisor.Proofs.Discovery.Meanwhile
import Televisor.Proofs.Telemetry.Books
import Televisor.Run.Handling

namespace Televisor.Network

theorem isHeaderValue_of_isReadable {value : String} (readable : isReadable value = true) :
    isHeaderValue value = true := by
  rw [isReadable, List.all_eq_true] at readable
  rw [isHeaderValue, List.all_eq_true]
  intro character member
  have either := readable character member
  simp only [Bool.or_eq_true, Bool.and_eq_true, decide_eq_true_eq, bne_iff_ne] at either ⊢
  rcases either with ⟨low, high⟩ | tab
  · exact .inr ⟨low, Nat.ne_of_lt high⟩
  · exact .inl tab

theorem Request.built?_sendable {request : Request} (built : request.built?.isSome = true) :
    request.headers.all (isHeaderValue ·.2) = true := by
  unfold built? at built
  split at built
  · split at built
    · rename_i sendable
      exact (Bool.and_eq_true_iff.mp sendable).2
    · contradiction
  · contradiction

/-- A request to the same place can be sent too if its headers can. -/
theorem Request.built?_isSome {request other : Request} (built : request.built?.isSome = true)
    (url : other.url = request.url) (headers : other.headers.all (isHeaderValue ·.2) = true) :
    other.built?.isSome = true := by
  unfold built? at built ⊢
  rw [url]
  split at built
  · split at built
    · rename_i sendable
      simp only [Bool.and_eq_true] at sendable
      simp [sendable.1, headers]
    · contradiction
  · contradiction

end Televisor.Network

namespace Televisor.Rendering

open Network

theorem readGrant_readable {url : String} {answer : Answer} {grant : Grant}
    (granted : readGrant url answer = .ok grant) : isReadable grant.sid = true := by
  unfold readGrant at granted
  split at granted
  · contradiction
  · split at granted
    · contradiction
    · split at granted
      · contradiction
      · rename_i sid named
        cases granted
        exact (Option.filter_eq_some_iff.mp named).2

/-- A place that could be asked for a subscription can be asked for the subscription to go on. -/
theorem renew_built {url place sid : String} (built : (subscribe url place).built?.isSome = true)
    (readable : isReadable sid = true) : (renew url sid).built?.isSome = true := by
  have sendable := Request.built?_sendable built
  simp only [subscribe, List.all_cons, List.all_nil, Bool.and_true, Bool.and_eq_true] at sendable
  refine Request.built?_isSome built rfl ?_
  simp [renew, isHeaderValue_of_isReadable readable, sendable.2.2]

end Televisor.Rendering

namespace Televisor.Run

open Network Rendering Telemetry

/-! The books that a trace is kept by agree with the handle at every moment. -/

def Standing.of : Option Renewal → Standing
  | none => .idle
  | some (.sleeping wake) => .asleep wake
  | some (.renewing _) => .renewing
  | some (.resubscribing _) => .resubscribing

theorem Standing.of_ne_refused (renewal : Option Renewal) : Standing.of renewal ≠ .refused := by
  rcases renewal with _ | _ | _ | _ <;> simp [Standing.of]

theorem Standing.of_asleep {renewal : Option Renewal} {wake : Nat}
    (asleep : Standing.of renewal = .asleep wake) : renewal = some (.sleeping wake) := by
  rcases renewal with _ | _ | _ | _ <;> simp_all [Standing.of]

theorem Standing.of_idle {renewal : Option Renewal} (idle : Standing.of renewal = .idle) :
    renewal = none := by
  rcases renewal with _ | _ | _ | _ <;> simp_all [Standing.of]

/-- Everything can be sent that keeping this subscription takes. -/
structure Sendable (url : String) (callback : Option String) (sid : String) : Prop where
  subscribes : ∃ place, callback = some place ∧ (subscribe url place).built?.isSome = true
  renews : (renew url sid).built?.isSome = true

theorem Sendable.granted {url place : String} {callback : Option String} {answer : Answer}
    {grant : Grant} (known : callback = some place)
    (built : (subscribe url place).built?.isSome = true)
    (granted : readGrant url answer = .ok grant) : Sendable url callback grant.sid :=
  ⟨⟨place, known, built⟩, renew_built built (readGrant_readable granted)⟩

/-- The handle is as the trace tells; `asked` tells whether somebody waits for a subscription. -/
structure Kept (url : String) (callback : Option String) (asked : Option Bool)
    (trace : List Record) (now : Nat) (control : Control) : Prop where
  device : control.device.eventUrl = url
  place : control.callback = callback
  stored : control.sid = storedIn url trace
  standing : Standing.of control.renewal = standingIn url trace
  punctual : ∀ renewal, control.renewal = some renewal → now ≤ renewal.due
  booked : Booked url callback trace
  clock : ∀ record ∈ trace, record.time ≤ now
  tended : control.Tended
  awaited : askedIn trace = asked
  sendable : ∀ sid, control.sid = some sid → Sendable url callback sid
  supplied : control.renewal.isSome = true → control.sid.isSome = true

namespace Kept

variable {url : String} {callback : Option String} {asked then_ : Option Bool}
  {trace : List Record} {now : Nat} {control after : Control} {what : Occurrence}

theorem fresh (device : Device) (callback : Option String) :
    Kept device.eventUrl callback none [] 0
      { Control.ofDevice device callback with attached := true } where
  device := rfl
  place := rfl
  stored := rfl
  standing := rfl
  punctual := nofun
  booked := .nil
  clock := by simp
  tended := .of_idle rfl
  awaited := rfl
  sendable := nofun
  supplied := nofun

theorem later (kept : Kept url callback asked trace now control) {instant : Nat}
    (onward : now ≤ instant)
    (early : ∀ renewal, control.renewal = some renewal → instant ≤ renewal.due) :
    Kept url callback asked trace instant control :=
  { kept with
    punctual := early
    clock := fun record member => Nat.le_trans (kept.clock record member) onward }

theorem calm (kept : Kept url callback asked trace now control) :
    standingIn url trace ≠ .refused :=
  kept.standing ▸ Standing.of_ne_refused _

theorem stands (kept : Kept url callback asked trace now control) {task : RenewalTask}
    (runs : task ∈ control.tasks) : standingIn url trace = .of (some task.renewal) := by
  rw [← kept.standing, kept.tended.renewal_eq runs]

/-- Where a task goes on there is a subscription. -/
theorem supplies (kept : Kept url callback asked trace now control) {task : RenewalTask}
    (runs : task ∈ control.tasks) : control.sid.isSome = true :=
  kept.supplied (by simp [kept.tended.renewal_eq runs])

/-- A record in its place can be added. -/
theorem book (kept : Kept url callback asked trace now control)
    (entry : Entry url callback trace ⟨now, what⟩) :
    Booked url callback (⟨now, what⟩ :: trace) := by
  refine .cons entry kept.clock (fun wake asleep => ?_) kept.booked
  exact kept.punctual _ (Standing.of_asleep (kept.standing.trans asleep))

theorem clock_cons (kept : Kept url callback asked trace now control) :
    ∀ record ∈ (⟨now, what⟩ :: trace : List Record), record.time ≤ now := by
  intro record member
  rcases List.mem_cons.mp member with rfl | member
  · exact Nat.le_refl _
  · exact kept.clock record member

/-- A record after which the renewal stands elsewhere, the subscription being the same. -/
theorem moved (kept : Kept url callback asked trace now control)
    (device : after.device = control.device) (place : after.callback = control.callback)
    (sid : after.sid = control.sid) (tended : after.Tended)
    (entry : Entry url callback trace ⟨now, what⟩)
    (stored : storedIn url (⟨now, what⟩ :: trace) = storedIn url trace)
    (standing : Standing.of after.renewal = standingIn url (⟨now, what⟩ :: trace))
    (early : ∀ next, after.renewal = some next → now ≤ next.due)
    (supplied : after.renewal.isSome = true → control.sid.isSome = true)
    (awaited : askedIn (⟨now, what⟩ :: trace) = then_) :
    Kept url callback then_ (⟨now, what⟩ :: trace) now after where
  device := device ▸ kept.device
  place := place.trans kept.place
  stored := sid.trans (kept.stored.trans stored.symm)
  standing := standing
  punctual := early
  booked := kept.book entry
  clock := kept.clock_cons
  tended := tended
  awaited := awaited
  sendable := by
    rw [sid]
    exact kept.sendable
  supplied := by
    rw [sid]
    exact supplied

/-- A record that neither the name of the subscription nor its renewal has a part in. -/
theorem aside (kept : Kept url callback asked trace now control)
    (entry : Entry url callback trace ⟨now, what⟩)
    (stored : storedIn url (⟨now, what⟩ :: trace) = storedIn url trace)
    (standing : standingIn url (⟨now, what⟩ :: trace) = standingIn url trace)
    (awaited : askedIn (⟨now, what⟩ :: trace) = then_) :
    Kept url callback then_ (⟨now, what⟩ :: trace) now control :=
  kept.moved rfl rfl rfl kept.tended entry stored (kept.standing.trans standing.symm) kept.punctual
    kept.supplied awaited

theorem asks (kept : Kept url callback asked trace now control) (renewing : Bool) :
    Kept url callback (some renewing) (⟨now, .called (.subscribe renewing)⟩ :: trace) now control :=
  kept.aside (.asked kept.calm) rfl rfl rfl

theorem sends {request : Request} {renewing : Bool} {place : String} {rest : List Record}
    (kept : Kept url callback asked trace now control)
    (direct : trace = ⟨now, .called (.subscribe renewing)⟩ :: rest) (known : callback = some place)
    (built : (subscribe url place).built? = some request) :
    Kept url callback asked (⟨now, .called (.http request)⟩ :: trace) now control := by
  have once := subscribe_isRenewal built
  exact kept.aside (.first kept.calm direct known built) rfl (standingIn_request once kept.calm)
    kept.awaited

theorem failed {renewing : Bool} {answer : Answer} {failure : Rendering.Failure}
    (kept : Kept url callback (some renewing) trace now control)
    (failed : readGrant url answer = .error failure) :
    Kept url callback none (⟨now, .answered (.caller renewing) answer⟩ :: trace) now control :=
  kept.aside (.answered kept.calm kept.awaited) (storedIn_failed failed) (standingIn_failed failed)
    rfl

section Granted

variable {asker : Asker} {answer : Answer} {grant : Grant}

/-- A grant is taken over, and the renewal stands as it is to. -/
theorem taken (kept : Kept url callback asked trace now control)
    (device : after.device = control.device) (place : after.callback = control.callback)
    (sid : after.sid = some grant.sid) (tended : after.Tended)
    (entry : Entry url callback trace ⟨now, .answered asker answer⟩)
    (granted : readGrant url answer = .ok grant) (sendable : Sendable url callback grant.sid)
    (standing : Standing.of after.renewal =
      standingIn url (⟨now, .answered asker answer⟩ :: trace))
    (early : ∀ next, after.renewal = some next → now ≤ next.due)
    (awaited : askedIn (⟨now, .answered asker answer⟩ :: trace) = then_) :
    Kept url callback then_ (⟨now, .answered asker answer⟩ :: trace) now after where
  device := device ▸ kept.device
  place := place.trans kept.place
  stored := sid.trans (storedIn_granted granted).symm
  standing := standing
  punctual := early
  booked := kept.book entry
  clock := kept.clock_cons
  tended := tended
  awaited := awaited
  sendable := by
    rintro name same
    cases sid.symm.trans same
    exact sendable
  supplied := fun _ => by rw [sid, Option.isSome_some]

/-- The renewal waits for its time from here. -/
theorem granted (kept : Kept url callback asked trace now control)
    (device : after.device = control.device) (place : after.callback = control.callback)
    (sid : after.sid = some grant.sid) (tended : after.Tended)
    (asleep : after.renewal = some (.sleeping (now + renewAfter grant.duration)))
    (entry : Entry url callback trace ⟨now, .answered asker answer⟩)
    (renews : asker ≠ .caller false) (granted : readGrant url answer = .ok grant)
    (sendable : Sendable url callback grant.sid)
    (awaited : askedIn (⟨now, .answered asker answer⟩ :: trace) = then_) :
    Kept url callback then_ (⟨now, .answered asker answer⟩ :: trace) now after := by
  refine kept.taken device place sid tended entry granted sendable ?_ ?_ awaited
  · rw [asleep, standingIn_granted renews granted]
    rfl
  · intro next same
    cases asleep.symm.trans same
    exact Nat.le_add_right _ _

/-- Somebody has subscribed, and a new task takes the place of the one there was. -/
theorem granted_caller (kept : Kept url callback (some true) trace now control)
    (granted : readGrant url answer = .ok grant) (sendable : Sendable url callback grant.sid) :
    Kept url callback none (⟨now, .answered (.caller true) answer⟩ :: trace) now
      (control.granted grant now) :=
  kept.granted rfl rfl rfl (kept.tended.granted grant now) (control.granted_renewal grant now)
    (.answered kept.calm kept.awaited) nofun granted sendable rfl

/-- A task has what it asked for, and sleeps again. -/
theorem granted_task (kept : Kept url callback asked trace now control) {task : RenewalTask}
    (runs : task ∈ control.tasks) (entry : Entry url callback trace ⟨now, .answered asker answer⟩)
    (renews : asker ≠ .caller false) (granted : readGrant url answer = .ok grant)
    (sendable : Sendable url callback grant.sid)
    (awaited : askedIn (⟨now, .answered asker answer⟩ :: trace) = then_) :
    Kept url callback then_ (⟨now, .answered asker answer⟩ :: trace) now
      (control.renewed task grant now) :=
  kept.granted rfl rfl rfl (kept.tended.renewed runs grant now)
    (kept.tended.renewed_renewal runs grant now) entry renews granted sendable awaited

/-- Somebody has subscribed without renewing; a renewal that goes on is left alone. -/
theorem granted_once (kept : Kept url callback (some false) trace now control)
    (granted : readGrant url answer = .ok grant) (sendable : Sendable url callback grant.sid) :
    Kept url callback none (⟨now, .answered (.caller false) answer⟩ :: trace) now
      { control with sid := some grant.sid } :=
  kept.taken rfl rfl rfl (kept.tended.like rfl rfl) (.answered kept.calm kept.awaited) granted
    sendable kept.standing kept.punctual rfl

end Granted

section Renewal

variable {request : Request} {exchange next : Exchange} {sid place : String} {task : RenewalTask}
  {failure : Rendering.Failure}

theorem round (kept : Kept url callback asked trace now control) (runs : task ∈ control.tasks)
    (asleep : task.renewal = .sleeping now) (stored : control.sid = some sid)
    (built : (renew url sid).built? = some request) (onward : now ≤ next.due) :
    Kept url callback asked (⟨now, .called (.http request)⟩ :: trace) now
      (control.resume task (some (.renewing next))) := by
  have renews := renew_isRenewal built
  have stands : standingIn url trace = .asleep now := (kept.stands runs).trans (by rw [asleep]; rfl)
  have resumed := kept.tended.resume_renewal runs (some (.renewing next))
  refine kept.moved rfl rfl rfl (kept.tended.resume runs _)
    (.round stands (kept.stored.symm.trans stored) built) rfl ?_ ?_ ?_ kept.awaited
  · rw [resumed, standingIn_renewal renews]
    rfl
  · intro other same
    cases resumed.symm.trans same
    exact onward
  · simp [stored]

/-- The subscription will not go on; a new one is asked for in the same instant. -/
theorem again (kept : Kept url callback asked trace now control) (runs : task ∈ control.tasks)
    (renewing : task.renewal = .renewing exchange)
    (refused : readGrant url exchange.answer = .error failure) (known : callback = some place)
    (built : (subscribe url place).built? = some request) (onward : now ≤ next.due) :
    Kept url callback asked
      (⟨now, .called (.http request)⟩ :: ⟨now, .answered .renewal exchange.answer⟩ :: trace) now
      (control.resume task (some (.resubscribing next))) where
  device := kept.device
  place := kept.place
  stored := by
    have same : storedIn url (⟨now, .answered .renewal exchange.answer⟩ :: trace) =
        storedIn url trace := storedIn_failed refused
    exact kept.stored.trans same.symm
  standing := by
    have once := subscribe_isRenewal built
    rw [standingIn_cons, standingIn_refused refused, kept.tended.resume_renewal runs]
    simp [Standing.of, Standing.next, once]
  punctual := by
    intro other same
    cases (kept.tended.resume_renewal runs _).symm.trans same
    exact onward
  booked := by
    have stands : standingIn url trace = .renewing :=
      (kept.stands runs).trans (by rw [renewing]; rfl)
    -- Between the two records the books stand at `refused`, where no handle ever does.
    refine .cons (.again rfl refused known built) kept.clock_cons (fun wake asleep => ?_)
      (kept.book (.renewed stands))
    rw [standingIn_refused refused] at asleep
    contradiction
  clock := by
    intro record member
    rcases List.mem_cons.mp member with rfl | member
    · exact Nat.le_refl _
    · exact kept.clock_cons record member
  tended := kept.tended.resume runs _
  awaited := kept.awaited
  sendable := kept.sendable
  supplied := fun _ => kept.supplies runs

/-- No new subscription was to be had either; the next round comes later. -/
theorem retried (kept : Kept url callback asked trace now control) (runs : task ∈ control.tasks)
    (resubscribing : task.renewal = .resubscribing exchange)
    (refused : readGrant url exchange.answer = .error failure) :
    Kept url callback asked (⟨now, .answered .fallback exchange.answer⟩ :: trace) now
      (control.resume task (some (.sleeping (now + retryAfter)))) := by
  have stands : standingIn url trace = .resubscribing :=
    (kept.stands runs).trans (by rw [resubscribing]; rfl)
  have resumed := kept.tended.resume_renewal runs (some (.sleeping (now + retryAfter)))
  refine kept.moved rfl rfl rfl (kept.tended.resume runs _) (.resubscribed stands)
    (storedIn_failed refused) ?_ ?_ (fun _ => kept.supplies runs) kept.awaited
  · rw [resumed]
    simp [Standing.of, Standing.next, refused]
  · intro other same
    cases resumed.symm.trans same
    exact Nat.le_add_right _ _

end Renewal

theorem ends (kept : Kept url callback asked trace now control) :
    Kept url callback none (⟨now, .called .unsubscribe⟩ :: trace) now control.forget where
  device := kept.device
  place := kept.place
  stored := rfl
  standing := by
    rw [kept.tended.forget_renewal]
    rfl
  punctual := by
    rw [kept.tended.forget_renewal]
    nofun
  booked := kept.book (.unsubscribing kept.calm)
  clock := kept.clock_cons
  tended := kept.tended.forget
  awaited := rfl
  sendable := nofun
  supplied := by
    rw [kept.tended.forget_renewal]
    nofun

theorem last {request : Request} {sid : String} {rest : List Record}
    (kept : Kept url callback asked trace now control)
    (direct : trace = ⟨now, .called .unsubscribe⟩ :: rest) (stored : storedIn url rest = some sid)
    (built : (unsubscribe url sid).built? = some request) :
    Kept url callback asked (⟨now, .called (.http request)⟩ :: trace) now control := by
  have once := unsubscribe_isRenewal built
  exact kept.aside (.last direct stored built) rfl (standingIn_request once kept.calm) kept.awaited

end Kept

end Televisor.Run
