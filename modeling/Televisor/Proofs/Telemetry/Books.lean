import Televisor.Proofs.Run.Passage

namespace Televisor.Network

/-- Whether it asks for a subscription to go on, rather than for a new one. -/
def Request.isRenewal (request : Request) : Bool :=
  request.method == "SUBSCRIBE" && request.headers.any (·.1 == "sid")

theorem Request.built?_headers {request built : Request} (found : request.built? = some built) :
    built.headers = request.headers := by
  unfold Request.built? at found
  split at found
  · split at found
    · cases found
      rfl
    · contradiction
  · contradiction

theorem Request.built?_isRenewal {request built : Request} (found : request.built? = some built) :
    built.isRenewal = request.isRenewal := by
  rw [isRenewal, isRenewal, built?_method found, built?_headers found]

end Televisor.Network

namespace Televisor.Rendering

open Network

variable {url sid callback : String} {request : Request}

theorem renew_isRenewal (built : (renew url sid).built? = some request) :
    request.isRenewal = true := by
  rw [Request.built?_isRenewal built]
  simp [renew, Request.isRenewal]

theorem subscribe_isRenewal (built : (subscribe url callback).built? = some request) :
    request.isRenewal = false := by
  rw [Request.built?_isRenewal built]
  simp [subscribe, Request.isRenewal, timeoutHeader]

theorem unsubscribe_isRenewal (built : (unsubscribe url sid).built? = some request) :
    request.isRenewal = false := by
  rw [Request.built?_isRenewal built]
  simp [unsubscribe, Request.isRenewal]

end Televisor.Rendering

namespace Televisor.Run

open Network Rendering

/-! What the trace of a handle tells of its subscription, and which records may follow one
another. -/

/-- Where the renewal of a subscription stands. -/
inductive Standing where
  | idle
  | asleep (wake : Nat)
  | renewing
  /-- The subscription will not go on; a new one has not been asked for yet. -/
  | refused
  | resubscribing
deriving Repr, DecidableEq

def Standing.next (url : String) (record : Record) (standing : Standing) : Standing :=
  match record.what with
  | .called .unsubscribe => .idle
  | .called (.http request) =>
    if request.isRenewal then .renewing
    else if standing = .refused then .resubscribing
    else standing
  | .answered (.caller false) _ => standing
  | .answered asker answer =>
    match readGrant url answer, asker with
    | .ok grant, _ => .asleep (record.time + renewAfter grant.duration)
    | .error _, .caller _ => standing
    | .error _, .renewal => .refused
    | .error _, .fallback => .asleep (record.time + retryAfter)
  | _ => standing

def standingIn (url : String) (trace : List Record) : Standing :=
  trace.foldr (Standing.next url) .idle

/-- The name of the subscription that was granted last, unless it was ended since. -/
def storedIn (url : String) (trace : List Record) : Option String :=
  trace.foldr (fun record stored =>
    match record.what with
    | .called .unsubscribe => none
    | .answered _ answer => ((readGrant url answer).toOption.map (·.sid)).or stored
    | _ => stored) none

/-- Whether somebody waits for a subscription, and whether it is to be renewed. -/
def askedIn (trace : List Record) : Option Bool :=
  trace.foldr (fun record asked =>
    match record.what with
    | .called (.subscribe renewing) => some renewing
    | .called .unsubscribe => none
    | .answered (.caller _) _ => none
    | _ => asked) none

/-- The instants at which a subscription was asked to go on. -/
def roundsIn (trace : List Record) : List Nat :=
  trace.filterMap fun record =>
    match record.what with
    | .called (.http request) => if request.isRenewal then some record.time else none
    | _ => none

/-- What may be seen after the given trace. -/
inductive Entry (url : String) (callback : Option String) (earlier : List Record) :
    Record → Prop where
  | asked {time renewing} (calm : standingIn url earlier ≠ .refused) :
      Entry url callback earlier ⟨time, .called (.subscribe renewing)⟩
  | unsubscribing {time} (calm : standingIn url earlier ≠ .refused) :
      Entry url callback earlier ⟨time, .called .unsubscribe⟩
  | first {time request renewing rest place} (calm : standingIn url earlier ≠ .refused)
      (direct : earlier = ⟨time, .called (.subscribe renewing)⟩ :: rest)
      (known : callback = some place) (built : (subscribe url place).built? = some request) :
      Entry url callback earlier ⟨time, .called (.http request)⟩
  | round {time request sid} (due : standingIn url earlier = .asleep time)
      (stored : storedIn url earlier = some sid) (built : (renew url sid).built? = some request) :
      Entry url callback earlier ⟨time, .called (.http request)⟩
  | again {time request answer failure rest place}
      (direct : earlier = ⟨time, .answered .renewal answer⟩ :: rest)
      (refused : readGrant url answer = .error failure) (known : callback = some place)
      (built : (subscribe url place).built? = some request) :
      Entry url callback earlier ⟨time, .called (.http request)⟩
  | last {time request rest sid} (direct : earlier = ⟨time, .called .unsubscribe⟩ :: rest)
      (stored : storedIn url rest = some sid)
      (built : (unsubscribe url sid).built? = some request) :
      Entry url callback earlier ⟨time, .called (.http request)⟩
  | answered {time renewing answer} (calm : standingIn url earlier ≠ .refused)
      (asked : askedIn earlier = some renewing) :
      Entry url callback earlier ⟨time, .answered (.caller renewing) answer⟩
  | renewed {time answer} (standing : standingIn url earlier = .renewing) :
      Entry url callback earlier ⟨time, .answered .renewal answer⟩
  | resubscribed {time answer} (standing : standingIn url earlier = .resubscribing) :
      Entry url callback earlier ⟨time, .answered .fallback answer⟩

/-- A trace in which every record has its place and its time. -/
inductive Booked (url : String) (callback : Option String) : List Record → Prop where
  | nil : Booked url callback []
  | cons {record earlier} (entry : Entry url callback earlier record)
      (ordered : ∀ other ∈ earlier, other.time ≤ record.time)
      (punctual : ∀ wake, standingIn url earlier = .asleep wake → record.time ≤ wake)
      (rest : Booked url callback earlier) : Booked url callback (record :: earlier)

variable {url : String} {callback : Option String} {trace earlier later : List Record}

@[simp] theorem standingIn_cons (record : Record) :
    standingIn url (record :: earlier) = .next url record (standingIn url earlier) := rfl

theorem standingIn_request {time : Nat} {request : Request} (once : request.isRenewal = false)
    (calm : standingIn url earlier ≠ .refused) :
    standingIn url (⟨time, .called (.http request)⟩ :: earlier) = standingIn url earlier := by
  simp [Standing.next, once, calm]

theorem standingIn_renewal {time : Nat} {request : Request} (renews : request.isRenewal = true) :
    standingIn url (⟨time, .called (.http request)⟩ :: earlier) = .renewing := by
  simp [Standing.next, renews]

theorem standingIn_granted {time : Nat} {asker : Asker} {answer : Answer} {grant : Grant}
    (renews : asker ≠ .caller false) (granted : readGrant url answer = .ok grant) :
    standingIn url (⟨time, .answered asker answer⟩ :: earlier) =
      .asleep (time + renewAfter grant.duration) := by
  rcases asker with (_ | _) | _ | _
  · contradiction
  all_goals simp [Standing.next, granted]

theorem standingIn_failed {time : Nat} {renewing : Bool} {answer : Answer}
    {failure : Rendering.Failure} (failed : readGrant url answer = .error failure) :
    standingIn url (⟨time, .answered (.caller renewing) answer⟩ :: earlier) =
      standingIn url earlier := by
  cases renewing <;> simp [Standing.next, failed]

theorem standingIn_refused {time : Nat} {answer : Answer} {failure : Rendering.Failure}
    (refused : readGrant url answer = .error failure) :
    standingIn url (⟨time, .answered .renewal answer⟩ :: earlier) = .refused := by
  simp [Standing.next, refused]

theorem storedIn_failed {time : Nat} {asker : Asker} {answer : Answer}
    {failure : Rendering.Failure} (failed : readGrant url answer = .error failure) :
    storedIn url (⟨time, .answered asker answer⟩ :: earlier) = storedIn url earlier := by
  simp [storedIn, failed, Except.toOption]

theorem storedIn_granted {time : Nat} {asker : Asker} {answer : Answer} {grant : Grant}
    (granted : readGrant url answer = .ok grant) :
    storedIn url (⟨time, .answered asker answer⟩ :: earlier) = some grant.sid := by
  simp [storedIn, granted, Except.toOption]

namespace Booked

theorem at_moment (booked : Booked url callback trace) {moment : List Record}
    (before : moment <:+ trace) : Booked url callback moment := by
  induction booked with
  | nil =>
      rw [List.suffix_nil.mp before]
      exact .nil
  | cons entry ordered punctual rest ih =>
      rcases List.suffix_cons_iff.mp before with rfl | before
      · exact .cons entry ordered punctual rest
      · exact ih before

theorem entry {record : Record} (booked : Booked url callback (record :: earlier)) :
    Entry url callback earlier record := by
  cases booked with
  | cons entry _ _ _ => exact entry

theorem tail {record : Record} (booked : Booked url callback (record :: earlier)) :
    Booked url callback earlier := by
  cases booked with
  | cons _ _ _ rest => exact rest

end Booked

theorem renewAfter_ge (granted : Nat) : 30000 ≤ renewAfter granted :=
  Nat.le_max_right _ _

theorem renewAfter_lt {granted : Nat} (long : 30000 < granted) : renewAfter granted < granted := by
  simp only [renewAfter, leastRenewal]
  omega

/-- An answer either leaves the time of the next round alone, or puts it off. -/
theorem asleep_answered {time wake : Nat} {asker : Asker} {answer : Answer}
    (asleep : standingIn url (⟨time, .answered asker answer⟩ :: earlier) = .asleep wake) :
    standingIn url earlier = .asleep wake ∨ time + 30000 ≤ wake := by
  have patient : 30000 ≤ retryAfter := by decide
  by_cases once : asker = .caller false
  · subst once
    exact .inl asleep
  · cases granted : readGrant url answer with
    | ok grant =>
        rw [standingIn_granted once granted] at asleep
        have long := renewAfter_ge grant.duration
        cases asleep
        right
        omega
    | error failure =>
        cases asker with
        | caller renewing =>
            rw [standingIn_failed granted] at asleep
            exact .inl asleep
        | renewal => simp [standingIn_refused granted] at asleep
        | fallback =>
            simp only [standingIn_cons, Standing.next, granted, Standing.asleep.injEq] at asleep
            right
            omega

theorem roundsIn_time {round : Nat} (member : round ∈ roundsIn trace) :
    ∃ record ∈ trace, record.time = round := by
  obtain ⟨record, inTrace, isRound⟩ := List.mem_filterMap.mp member
  refine ⟨record, inTrace, ?_⟩
  split at isRound
  · split at isRound
    · exact Option.some.inj isRound
    · contradiction
  · contradiction

theorem roundsIn_request {time : Nat} {request : Request} (once : request.isRenewal = false) :
    roundsIn (⟨time, .called (.http request)⟩ :: earlier) = roundsIn earlier := by
  simp [roundsIn, once]

theorem roundsIn_renewal {time : Nat} {request : Request} (renews : request.isRenewal = true) :
    roundsIn (⟨time, .called (.http request)⟩ :: earlier) = time :: roundsIn earlier := by
  simp [roundsIn, renews]

/-- Two rounds are far apart, and so is the next one from all before. -/
theorem Booked.rounds (booked : Booked url callback trace) :
    (roundsIn trace).Pairwise (fun later earlier => earlier + 30000 ≤ later) ∧
    ∀ wake, standingIn url trace = .asleep wake → ∀ round ∈ roundsIn trace,
      round + 30000 ≤ wake := by
  induction booked with
  | nil => simp [roundsIn]
  | @cons record earlier entry ordered punctual rest ih =>
      obtain ⟨apart, next⟩ := ih
      -- An answer is no earlier than any round, and what it puts off it puts off from itself.
      have postponed (time : Nat) (asker : Asker) (answer : Answer)
          (before : ∀ other ∈ earlier, other.time ≤ time) (wake : Nat)
          (asleep : standingIn url (⟨time, .answered asker answer⟩ :: earlier) = .asleep wake) :
          ∀ round ∈ roundsIn earlier, round + 30000 ≤ wake := by
        intro round member
        rcases asleep_answered asleep with same | late
        · exact next wake same round member
        · obtain ⟨other, inEarlier, rfl⟩ := roundsIn_time member
          exact Nat.le_trans (Nat.add_le_add_right (before other inEarlier) _) late
      cases entry with
      | asked calm => exact ⟨apart, next⟩
      | unsubscribing calm => exact ⟨apart, nofun⟩
      | first calm direct known built =>
          have once := subscribe_isRenewal built
          rw [roundsIn_request once, standingIn_request once calm]
          exact ⟨apart, next⟩
      | round due stored built =>
          have renews := renew_isRenewal built
          rw [roundsIn_renewal renews, standingIn_renewal renews]
          exact ⟨.cons (next _ due) apart, nofun⟩
      | again direct refused known built =>
          have once := subscribe_isRenewal built
          rw [roundsIn_request once]
          refine ⟨apart, fun wake asleep => ?_⟩
          rw [direct, standingIn_cons, standingIn_refused refused] at asleep
          simp [Standing.next, once] at asleep
      | last direct stored built =>
          have once := unsubscribe_isRenewal built
          rw [roundsIn_request once]
          refine ⟨apart, fun wake asleep => ?_⟩
          rw [direct] at asleep
          simp [Standing.next, once] at asleep
      | answered _ _ => exact ⟨apart, postponed _ _ _ ordered⟩
      | renewed _ => exact ⟨apart, postponed _ _ _ ordered⟩
      | resubscribed _ => exact ⟨apart, postponed _ _ _ ordered⟩

/-- Once a subscription has been ended nothing is asked for until somebody subscribes. -/
theorem Booked.ended {time : Nat}
    (booked : Booked url callback (later ++ ⟨time, .called .unsubscribe⟩ :: earlier))
    (unasked : ∀ renewing, .subscribe renewing ∉ callsIn later) :
    standingIn url (later ++ ⟨time, .called .unsubscribe⟩ :: earlier) = .idle ∧
    storedIn url (later ++ ⟨time, .called .unsubscribe⟩ :: earlier) = none ∧
    askedIn (later ++ ⟨time, .called .unsubscribe⟩ :: earlier) = none ∧
    ∀ request, .http request ∈ callsIn later → request.method ≠ "SUBSCRIBE" := by
  induction later with
  | nil => exact ⟨rfl, rfl, rfl, by simp [callsIn]⟩
  | cons record rest ih =>
      have unaskedRest : ∀ renewing, .subscribe renewing ∉ callsIn rest := by
        intro renewing member
        refine unasked renewing ?_
        rw [← List.singleton_append, callsIn_append]
        exact List.mem_append_right _ member
      obtain ⟨idle, forgotten, unawaited, silent⟩ := ih booked.tail unaskedRest
      -- With nothing asleep, nobody waiting and no round under way, only the request that ends the
      -- subscription still has its place.
      rw [List.cons_append] at booked ⊢
      generalize rest ++ ⟨time, .called .unsubscribe⟩ :: earlier = past
        at booked idle forgotten unawaited ⊢
      cases booked.entry with
      | asked _ => exact absurd (List.mem_cons_self) (unasked _)
      | unsubscribing _ => exact ⟨rfl, rfl, rfl, by simpa [callsIn, Record.call?] using silent⟩
      | first _ direct _ _ =>
          rw [direct] at unawaited
          contradiction
      | round due _ _ =>
          rw [idle] at due
          contradiction
      | again direct refused _ _ =>
          rw [direct, standingIn_refused refused] at idle
          contradiction
      | last _ _ built =>
          have once := unsubscribe_isRenewal built
          refine ⟨?_, forgotten, unawaited, ?_⟩
          · rw [standingIn_request once (by simp [idle]), idle]
          · intro other member
            rcases List.mem_cons.mp member with same | member
            · cases same
              rw [Request.built?_method built]
              simp [unsubscribe]
            · exact silent other member
      | answered _ asked =>
          rw [unawaited] at asked
          contradiction
      | renewed standing =>
          rw [idle] at standing
          contradiction
      | resubscribed standing =>
          rw [idle] at standing
          contradiction

end Televisor.Run
