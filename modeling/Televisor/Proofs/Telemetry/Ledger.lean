import Televisor.Proofs.Rendering.Grants
import Televisor.Proofs.Telemetry.Books

namespace Televisor.Run

open Network Rendering

/-! What a trace tells of a subscription by the headers of the answers in it: which subscription there
is, and when it is to be renewed. -/

/-- Such a record was seen, and none but the others since. -/
def Since (seen others : Record → Prop) (trace : List Record) : Prop :=
  ∃ later record earlier, trace = later ++ record :: earlier ∧ seen record ∧
    ∀ other ∈ later, others other

theorem since_cons {seen others : Record → Prop} {record : Record} {earlier : List Record} :
    Since seen others (record :: earlier) ↔
      seen record ∨ others record ∧ Since seen others earlier := by
  constructor
  · rintro ⟨later, first, rest, split, isSeen, between⟩
    cases later with
    | nil =>
        cases split
        exact .inl isSeen
    | cons latest later =>
        cases split
        obtain ⟨other, between⟩ := List.forall_mem_cons.mp between
        exact .inr ⟨other, later, first, rest, rfl, isSeen, between⟩
  · rintro (isSeen | ⟨other, later, first, rest, rfl, isSeen, between⟩)
    · exact ⟨[], record, earlier, rfl, isSeen, by simp⟩
    · exact ⟨record :: later, first, rest, rfl, isSeen, List.forall_mem_cons.mpr ⟨other, between⟩⟩

/-- It is an answer that grants a subscription of that name. -/
def Record.Names (sid : String) (record : Record) : Prop :=
  ∃ asker answer grant, record.what = .answered asker answer ∧ Grants answer grant ∧
    grant.sid = sid

/-- It neither grants a subscription nor ends one. -/
def Record.Keeps (record : Record) : Prop :=
  record.what ≠ .called .unsubscribe ∧
    ∀ asker answer grant, record.what = .answered asker answer → ¬ Grants answer grant

/-- The subscription of that name was granted last of all, and has not been ended since. -/
def Current (trace : List Record) (sid : String) : Prop :=
  Since (Record.Names sid) Record.Keeps trace

/-- It puts the next round off or does away with it: a round, a subscription that somebody was granted
and that is to be renewed, or the end of the subscription. -/
def Record.Disturbs (record : Record) : Prop :=
  match record.what with
  | .called (.http request) => request.isRenewal = true
  | .called .unsubscribe => True
  | .answered (.caller true) answer => ∃ grant, Grants answer grant
  | _ => False

def Undisturbed (seen : List Record) : Prop :=
  ∀ record ∈ seen, ¬ record.Disturbs

/-- It sets the next round to that instant: when half of a grant is over, but 30 s later at least, or
30 s after a round that has come to nothing. -/
def Record.Sets (instant : Nat) (record : Record) : Prop :=
  ∃ asker answer, record.what = .answered asker answer ∧
    ((asker ≠ .caller false ∧ ∃ grant, Grants answer grant ∧
      instant = record.time + max (grant.duration / 2) 30000) ∨
    asker = .fallback ∧ (∀ grant, ¬ Grants answer grant) ∧ instant = record.time + 30000)

/-- The next round is to begin at that instant. -/
def Due (trace : List Record) (instant : Nat) : Prop :=
  Since (Record.Sets instant) (¬ Record.Disturbs ·) trace

variable {url : String} {callback : Option String} {trace earlier later : List Record}

theorem refuses {answer : Answer} {failure : Rendering.Failure}
    (refused : readGrant url answer = .error failure) (grant : Grant) : ¬ Grants answer grant :=
  readGrant_failed.mp ⟨failure, refused⟩ grant

/-- The name that the books hold is the name of the current subscription. -/
theorem storedIn_eq_some {sid : String} : storedIn url trace = some sid ↔ Current trace sid := by
  induction trace with
  | nil =>
      refine iff_of_false nofun ?_
      rintro ⟨later, record, earlier, split, -⟩
      simp at split
  | cons record earlier ih =>
      rw [Current, since_cons]
      obtain ⟨time, what⟩ := record
      by_cases answered : ∃ asker answer, what = .answered asker answer
      · obtain ⟨asker, answer, rfl⟩ := answered
        cases outcome : readGrant url answer with
        | ok grant =>
            have grants := readGrant_eq_ok.mp outcome
            rw [storedIn_granted outcome, Option.some.injEq]
            constructor
            · exact fun same => .inl ⟨asker, answer, grant, rfl, grants, same⟩
            · rintro (⟨_, _, other, same, granted, rfl⟩ | ⟨⟨_, keeps⟩, _⟩)
              · cases same
                cases outcome.symm.trans (readGrant_eq_ok.mpr granted)
                rfl
              · exact absurd grants (keeps asker answer grant rfl)
        | error failure =>
            have none := refuses outcome
            rw [storedIn_failed outcome, ih]
            constructor
            · refine fun before => .inr ⟨⟨nofun, ?_⟩, before⟩
              rintro _ _ grant same
              cases same
              exact none grant
            · rintro (⟨_, _, grant, same, granted, _⟩ | ⟨_, before⟩)
              · cases same
                exact absurd granted (none grant)
              · exact before
      · have unanswered (asker : Asker) (answer : Answer) : what ≠ .answered asker answer :=
          fun same => answered ⟨asker, answer, same⟩
        have unnamed : ¬ Record.Names sid ⟨time, what⟩ := by
          rintro ⟨asker, answer, _, same, _⟩
          exact unanswered asker answer same
        by_cases ended : what = .called .unsubscribe
        · subst ended
          refine iff_of_false nofun ?_
          rintro (names | ⟨keeps, _⟩)
          · exact unnamed names
          · exact keeps.1 rfl
        · have keeps : Record.Keeps ⟨time, what⟩ :=
            ⟨ended, fun asker answer _ same => absurd same (unanswered asker answer)⟩
          have same : storedIn url (⟨time, what⟩ :: earlier) = storedIn url earlier := by
            unfold storedIn
            rw [List.foldr_cons]
            split
            · exact absurd ‹_› ended
            · exact absurd ‹_› (unanswered _ _)
            · rfl
          rw [same, ih]
          exact ⟨fun before => .inr ⟨keeps, before⟩, fun either =>
            (either.resolve_left unnamed).2⟩

theorem retryAfter_eq : retryAfter = 30000 := by
  decide

/-- A round that the books await is due. -/
theorem due_of_asleep {wake : Nat} (asleep : standingIn url trace = .asleep wake) :
    Due trace wake := by
  induction trace with
  | nil => contradiction
  | cons record earlier ih =>
      rw [Due, since_cons]
      obtain ⟨time, what⟩ := record
      have before (still : standingIn url earlier = .asleep wake)
          (calm : ¬ Record.Disturbs ⟨time, what⟩) :
          Record.Sets wake ⟨time, what⟩ ∨ ¬ Record.Disturbs ⟨time, what⟩ ∧
            Since (Record.Sets wake) (¬ Record.Disturbs ·) earlier :=
        .inr ⟨calm, ih still⟩
      have granted {asker : Asker} {answer : Answer} {grant : Grant} (renews : asker ≠ .caller false)
          (outcome : readGrant url answer = .ok grant)
          (asleep : standingIn url (⟨time, .answered asker answer⟩ :: earlier) = .asleep wake) :
          Record.Sets wake ⟨time, .answered asker answer⟩ := by
        rw [standingIn_granted renews outcome] at asleep
        cases asleep
        exact ⟨asker, answer, rfl, .inl ⟨renews, grant, readGrant_eq_ok.mp outcome, rfl⟩⟩
      cases what with
      | called call =>
          cases call with
          | http request =>
              by_cases renews : request.isRenewal = true
              · rw [standingIn_renewal renews] at asleep
                contradiction
              · refine before ?_ renews
                simp only [standingIn_cons, Standing.next, renews, Bool.false_eq_true, if_false]
                  at asleep
                split at asleep
                · contradiction
                · exact asleep
          | unsubscribe => contradiction
          | _ => exact before asleep not_false
      | answered asker answer =>
          by_cases once : asker = .caller false
          · subst once
            exact before asleep not_false
          · cases outcome : readGrant url answer with
            | ok grant => exact .inl (granted once outcome asleep)
            | error failure =>
                have none := refuses outcome
                cases asker with
                | caller renewing =>
                    rw [standingIn_failed outcome] at asleep
                    refine before asleep ?_
                    cases renewing with
                    | false => contradiction
                    | true =>
                        rintro ⟨grant, grants⟩
                        exact none grant grants
                | renewal =>
                    rw [standingIn_refused outcome] at asleep
                    contradiction
                | fallback =>
                    simp only [standingIn_cons, Standing.next, outcome, Standing.asleep.injEq]
                      at asleep
                    exact .inl ⟨.fallback, answer, rfl,
                      .inr ⟨rfl, none, by rw [← asleep, retryAfter_eq]⟩⟩
      | _ => exact before asleep not_false

/-- The next round stays where it is until it begins. -/
theorem Booked.asleep_until {wake : Nat} (booked : Booked url callback (later ++ earlier))
    (asleep : standingIn url earlier = .asleep wake) (undisturbed : Undisturbed later) :
    standingIn url (later ++ earlier) = .asleep wake := by
  induction later with
  | nil => exact asleep
  | cons record rest ih =>
      obtain ⟨calm, undisturbed⟩ := List.forall_mem_cons.mp undisturbed
      have still := ih booked.tail undisturbed
      rw [List.cons_append] at booked ⊢
      generalize rest ++ earlier = past at booked still ⊢
      have unrefused : standingIn url past ≠ .refused := by simp [still]
      cases booked.entry with
      | asked _ => exact still
      | unsubscribing _ => exact absurd trivial calm
      | first _ _ _ built =>
          have once := subscribe_isRenewal built
          rw [standingIn_request once unrefused, still]
      | round _ _ built => exact absurd (renew_isRenewal built) calm
      | again direct refused _ _ =>
          rw [direct, standingIn_refused refused] at still
          contradiction
      | last _ _ built =>
          have once := unsubscribe_isRenewal built
          rw [standingIn_request once unrefused, still]
      | @answered _ renewing answer _ _ =>
          cases renewing with
          | false => exact still
          | true =>
              cases outcome : readGrant url answer with
              | ok grant => exact absurd ⟨grant, readGrant_eq_ok.mp outcome⟩ calm
              | error failure => rw [standingIn_failed outcome, still]
      | renewed standing =>
          rw [still] at standing
          contradiction
      | resubscribed standing =>
          rw [still] at standing
          contradiction

end Televisor.Run
