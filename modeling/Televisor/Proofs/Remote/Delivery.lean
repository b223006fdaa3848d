import Televisor.Proofs.Remote.Transcript

namespace Televisor.Remote

/-! How far the keys of a conversation get, what comes of it, and when a refusal is reported. -/

/-- What passes in a conversation that tells keys. -/
inductive Course (caller : Caller) (keys : List String) :
    List Passed → Except Failure Unit → Prop where
  | unadmitted {passed : List Passed} {failure : Failure}
      (admission : Admission caller passed (.error failure)) :
      Course caller keys passed (.error failure)
  | admitted {before added : List Passed} {result : Except Failure Unit}
      (admission : Admission caller before (.ok ()))
      (telling : Telling caller.host keys added result) : Course caller keys (before ++ added) result

theorem readDecision_ok {payload : List UInt8} :
    readDecision payload = .ok () ↔ Verdict.ofPayload payload = .granted := by
  unfold readDecision
  cases Verdict.ofPayload payload <;> simp

theorem not_isNotice_of_granted {payload : List UInt8} (granted : Verdict.ofPayload payload = .granted) :
    ¬ isNotice payload := by
  simp only [isNotice, granted, decide_eq_true_eq]
  rintro ⟨⟩

/-- A client that is let in was granted access by the first answer that is no notice. -/
theorem Admission.granted {caller : Caller} {passed : List Passed}
    (admission : Admission caller passed (.ok ())) :
    ∃ notices grant, (∀ notice ∈ notices, isNotice notice) ∧ Verdict.ofPayload grant = .granted ∧
      passed = .wrote (authPacket caller.identity) :: (notices ++ [grant]).map .heard := by
  generalize result : (Except.ok () : Except Failure Unit) = outcome at admission
  cases admission with
  | unsent fault => cases result
  | asked deciding =>
      cases deciding with
      | undecided waiting fault => cases result
      | @decided notices waiting grant decides =>
          exact ⟨notices, grant, waiting, readDecision_ok.mp result.symm, by simp⟩

theorem Admission.success {caller : Caller} {passed : List Passed} {result : Except Failure Unit}
    (admission : Admission caller passed result) :
    result = .ok () ↔ (decisionIn passed).map Verdict.ofPayload = some .granted := by
  cases admission with
  | unsent fault => exact iff_of_false nofun nofun
  | asked deciding =>
      cases deciding with
      | undecided waiting fault =>
          rw [decisionIn_waiting waiting]
          exact iff_of_false nofun nofun
      | @decided notices waiting payload decides =>
          have decision := decisionIn_heard waiting decides (authPacket caller.identity) []
          rw [List.append_nil, List.map_append] at decision
          change _ ↔ (decisionIn (_ :: (notices.map .heard ++ [payload].map .heard))).map _ = _
          rw [decision, Option.map_some, Option.some.injEq, readDecision_ok]

section Shapes

variable {host : String}

theorem Telling.halting {keys : List String} {passed : List Passed} {result : Except Failure Unit}
    (telling : Telling host keys passed result) : Halting host passed result := by
  cases telling with
  | told _ accepted => exact .calm (calm_exchanges accepted)
  | unsent _ accepted fault => exact .stopped (calm_exchanges accepted) rfl
  | @unanswered told key _ _ accepted fault =>
      rw [List.append_cons]
      refine .stopped ((calm_exchanges accepted).append ?_) rfl
      exact List.forall_mem_singleton.mpr rfl
  | @denied told key _ _ accepted payload denial =>
      rw [List.append_cons]
      refine .stopped ((calm_exchanges accepted).append (List.forall_mem_singleton.mpr rfl)) ?_
      simp only [stopOf?, denial, if_true]

theorem Deciding.halting {passed : List Passed} {result : Except Failure Unit}
    (deciding : Deciding host passed result) : Halting host passed result := by
  have quiet {notices : List (List UInt8)} (waiting : ∀ notice ∈ notices, isNotice notice) :
      Calm host (notices.map .heard) :=
    calm_heard fun notice member => not_isDenial_of_isNotice (waiting notice member)
  cases deciding with
  | undecided waiting fault => exact .stopped (quiet waiting) rfl
  | @decided _ waiting payload decides =>
      by_cases denial : isDenial payload
      · have refused : readDecision payload = .error .accessDenied := by
          rw [readDecision, of_decide_eq_true denial]
        rw [refused]
        refine .stopped (quiet waiting) ?_
        simp only [stopOf?, denial, if_true]
      · refine .calm ((quiet waiting).append (List.forall_mem_singleton.mpr ?_))
        simp only [stopOf?, denial, Bool.false_eq_true, if_false]

theorem Admission.halting {caller : Caller} {passed : List Passed} {result : Except Failure Unit}
    (admission : Admission caller passed result) : Halting caller.host passed result := by
  cases admission with
  | unsent fault => exact .stopped (List.forall_mem_nil _) rfl
  | asked deciding =>
      exact deciding.halting.prepend (List.forall_mem_singleton.mpr rfl)

theorem Deciding.written {passed : List Passed} {result : Except Failure Unit}
    (deciding : Deciding host passed result) : writtenIn passed = [] := by
  cases deciding with
  | undecided _ fault => rw [writtenIn_append, writtenIn_heard]; rfl
  | decided _ decides => rw [writtenIn_append, writtenIn_heard]; rfl

theorem Telling.written {keys : List String} {passed : List Passed} {result : Except Failure Unit}
    (telling : Telling host keys passed result) : writtenIn passed <+: keys.map keyPacket := by
  cases telling with
  | told all _ =>
      exact ⟨[], by rw [List.append_nil, writtenIn_exchanges, all]⟩
  | unsent next _ fault =>
      rw [writtenIn_append, writtenIn_exchanges, next, List.map_append]
      exact List.prefix_append_right_inj _ |>.mpr List.nil_prefix
  | @unanswered told key rest next _ fault =>
      rw [writtenIn_append, writtenIn_exchanges, next, List.map_append]
      exact List.prefix_append_right_inj _ |>.mpr ⟨rest.map keyPacket, rfl⟩
  | @denied told key rest next _ payload denial =>
      rw [writtenIn_append, writtenIn_exchanges, next, List.map_append]
      exact List.prefix_append_right_inj _ |>.mpr ⟨rest.map keyPacket, rfl⟩

/-- All keys are told exactly if all went out, all were answered and no answer was a denial. -/
theorem Telling.success {keys : List String} {passed : List Passed} {result : Except Failure Unit}
    (telling : Telling host keys passed result) :
    result = .ok () ↔ writtenIn passed = keys.map keyPacket ∧ (∀ fault, .unheard fault ∉ passed) ∧
      ∀ payload ∈ heardIn passed, ¬ isDenial payload := by
  cases telling with
  | @told told all accepted =>
      refine iff_of_true rfl ⟨by rw [writtenIn_exchanges, all], ?_, ?_⟩
      · intro fault member
        have calm : stopOf? host (.unheard fault) = none := calm_exchanges accepted _ member
        cases calm
      · rw [heardIn_exchanges]
        exact List.forall_mem_map.mpr accepted
  | unsent next accepted fault =>
      refine iff_of_false nofun fun ⟨whole, _⟩ => ?_
      have sizes := congrArg List.length whole
      simp only [writtenIn_append, writtenIn_exchanges, next, List.length_append, List.length_map,
        List.length_cons] at sizes
      change _ + 0 = _ at sizes
      omega
  | unanswered next accepted fault =>
      exact iff_of_false nofun fun ⟨_, answered, _⟩ => answered fault (by simp)
  | denied next accepted denial =>
      refine iff_of_false nofun fun ⟨_, _, accepting⟩ => accepting _ ?_ denial
      rw [heardIn_append]
      exact List.mem_append_right _ List.mem_cons_self

/-- When a key goes out: every key before it in the list has gone out and has been answered, and no
answer was a denial. -/
inductive Due (keys : List String) : List Passed → List UInt8 → Prop where
  | due {told : List (String × List UInt8)} {key : String} {rest : List String}
      (next : keys = told.map Prod.fst ++ key :: rest)
      (accepted : ∀ exchange ∈ told, ¬ isDenial exchange.2) : Due keys (exchanges told) (keyPacket key)

theorem due_of_split {keys others : List String} {told : List (String × List UInt8)}
    {tail before after : List Passed} {packet : List UInt8} (next : keys = told.map Prod.fst ++ others)
    (accepted : ∀ exchange ∈ told, ¬ isDenial exchange.2)
    (whole : exchanges told ++ tail = before ++ .wrote packet :: after)
    (last : ∀ rest, tail = rest ++ .wrote packet :: after →
      rest = [] ∧ ∃ key left, others = key :: left ∧ packet = keyPacket key) :
    Due keys before packet := by
  rcases exchanges_split whole with ⟨earlier, key, answer, later, rfl, rfl, rfl⟩ | ⟨rest, rfl, tail⟩
  · have same : keys = earlier.map Prod.fst ++ key :: (later.map Prod.fst ++ others) := by
      rw [next, List.map_append, List.map_cons, List.append_assoc, List.cons_append]
    exact .due same fun exchange member => accepted exchange (List.mem_append_left _ member)
  · obtain ⟨rfl, key, left, rfl, rfl⟩ := last rest tail
    rw [List.append_nil]
    exact .due next accepted

theorem Telling.paced {keys : List String} {before after : List Passed} {packet : List UInt8}
    {result : Except Failure Unit}
    (telling : Telling host keys (before ++ .wrote packet :: after) result) :
    Due keys before packet := by
  generalize whole : before ++ .wrote packet :: after = passed at telling
  cases telling with
  | @told told all accepted =>
      have next : keys = told.map Prod.fst ++ [] := by rw [all, List.append_nil]
      have split : exchanges told ++ [] = before ++ .wrote packet :: after := by
        rw [List.append_nil, whole]
      exact due_of_split next accepted split fun rest tail => by simp at tail
  | unsent next accepted fault =>
      refine due_of_split next accepted whole.symm fun rest tail => ?_
      rcases rest with _ | ⟨first, rest⟩
      · cases tail
      · simp at tail
  | unanswered next accepted fault =>
      refine due_of_split next accepted whole.symm fun rest tail => ?_
      obtain ⟨none, rfl⟩ := pair_split tail nofun
      exact ⟨none, _, _, rfl, rfl⟩
  | denied next accepted denial =>
      refine due_of_split next accepted whole.symm fun rest tail => ?_
      obtain ⟨none, rfl⟩ := pair_split tail nofun
      exact ⟨none, _, _, rfl, rfl⟩

theorem Telling.fails {keys : List String} {passed : List Passed} {failure : Failure}
    (telling : Telling host keys passed (.error failure)) :
    ∃ item ∈ passed, stopOf? host item = some failure := by
  generalize result : (Except.error failure : Except Failure Unit) = outcome at telling
  cases telling with
  | told _ _ => cases result
  | unsent _ _ fault =>
      cases result
      exact ⟨_, List.mem_append_right _ List.mem_cons_self, rfl⟩
  | unanswered _ _ fault =>
      cases result
      exact ⟨.unheard fault, by simp, rfl⟩
  | @denied _ _ _ _ _ payload denial =>
      cases result
      refine ⟨.heard payload, by simp, ?_⟩
      simp only [stopOf?, denial, if_true]

theorem Deciding.fails {passed : List Passed} {failure : Failure}
    (deciding : Deciding host passed (.error failure)) :
    (∃ item ∈ passed, stopOf? host item = some failure) ∨
      ∃ payload, decisionIn passed = some payload ∧ Verdict.ofPayload payload = .unknown ∧
        failure = .unexpected (payloadText payload) := by
  generalize result : (Except.error failure : Except Failure Unit) = outcome at deciding
  cases deciding with
  | undecided waiting fault =>
      cases result
      exact .inl ⟨.unheard fault, by simp, rfl⟩
  | @decided notices waiting payload decides =>
      unfold readDecision at result
      split at result
      · cases result
      · rename_i denial
        cases result
        refine .inl ⟨.heard payload, by simp, ?_⟩
        simp only [stopOf?, isDenial, denial, decide_true, if_true]
      · rename_i notGranted notDenied
        cases result
        refine .inr ⟨payload, ?_, ?_, rfl⟩
        · rw [decisionIn, heardIn_append, heardIn_heard]
          exact find?_decision waiting decides []
        · cases verdict : Verdict.ofPayload payload with
          | granted => exact (notGranted verdict).elim
          | denied => exact (notDenied verdict).elim
          | waiting => exact (decides (decide_eq_true verdict)).elim
          | unknown => rfl

end Shapes

/-- When a packet goes out: the introduction first of all, and a key once access has been granted and
it is due. -/
inductive Ready (caller : Caller) (keys : List String) : List Passed → List UInt8 → Prop where
  | introducing : Ready caller keys [] (authPacket caller.identity)
  | telling {notices : List (List UInt8)} {grant packet : List UInt8} {earlier : List Passed}
      (waiting : ∀ notice ∈ notices, isNotice notice) (granted : Verdict.ofPayload grant = .granted)
      (due : Due keys earlier packet) :
      Ready caller keys
        (.wrote (authPacket caller.identity) :: ((notices ++ [grant]).map .heard ++ earlier)) packet

namespace Course

variable {caller : Caller} {keys : List String} {passed : List Passed} {result : Except Failure Unit}

theorem halting (course : Course caller keys passed result) : Halting caller.host passed result := by
  cases course with
  | unadmitted admission => exact admission.halting
  | admitted admission telling =>
      obtain ⟨notices, grant, waiting, granted, rfl⟩ := admission.granted
      refine telling.halting.prepend (List.forall_mem_cons.mpr ⟨rfl, calm_heard ?_⟩)
      intro payload member
      rcases List.mem_append.mp member with notice | last
      · exact not_isDenial_of_isNotice (waiting payload notice)
      · obtain rfl := List.mem_singleton.mp last
        simp [isDenial, granted]

theorem written (course : Course caller keys passed result) :
    writtenIn passed <+: authPacket caller.identity :: keys.map keyPacket := by
  cases course with
  | unadmitted admission =>
      cases admission with
      | unsent fault => exact List.nil_prefix
      | asked deciding =>
          rw [writtenIn_wrote, deciding.written]
          exact List.cons_prefix_cons.mpr ⟨rfl, List.nil_prefix⟩
  | admitted admission telling =>
      obtain ⟨notices, grant, _, _, rfl⟩ := admission.granted
      rw [List.cons_append, writtenIn_wrote, writtenIn_append, writtenIn_heard]
      exact List.cons_prefix_cons.mpr ⟨rfl, telling.written⟩

theorem ready {before after : List Passed} {packet : List UInt8}
    (course : Course caller keys (before ++ .wrote packet :: after) result) :
    Ready caller keys before packet := by
  generalize whole : before ++ .wrote packet :: after = passed at course
  have first {answers : List Passed} (whole : before ++ .wrote packet :: after =
        .wrote (authPacket caller.identity) :: answers)
      (later : ∀ rest, before = .wrote (authPacket caller.identity) :: rest →
        answers = rest ++ .wrote packet :: after → Ready caller keys before packet) :
      Ready caller keys before packet := by
    rcases before with _ | ⟨introduction, rest⟩
    · cases whole
      exact .introducing
    · simp only [List.cons_append, List.cons.injEq] at whole
      obtain ⟨rfl, answers⟩ := whole
      exact later rest rfl answers.symm
  cases course with
  | unadmitted admission =>
      cases admission with
      | unsent fault =>
          rcases before with _ | ⟨introduction, rest⟩
          · cases whole
          · simp at whole
      | asked deciding =>
          refine first whole fun rest _ answers => ?_
          have none := deciding.written
          rw [answers, writtenIn_append, writtenIn_wrote] at none
          simp at none
  | admitted admission telling =>
      obtain ⟨notices, grant, waiting, granted, rfl⟩ := admission.granted
      refine first whole fun rest started answers => ?_
      obtain ⟨earlier, rfl, rfl⟩ := heard_split answers
      rw [started]
      exact .telling waiting granted telling.paced

/-- The keys are delivered exactly if access was granted, every key went out, and every one of them
was answered, none by a denial. -/
theorem success (course : Course caller keys passed result) :
    result = .ok () ↔ (decisionIn passed).map Verdict.ofPayload = some .granted ∧
      writtenIn passed = authPacket caller.identity :: keys.map keyPacket ∧
      (∀ fault, .unheard fault ∉ passed) ∧ ∀ payload ∈ heardIn passed, ¬ isDenial payload := by
  cases course with
  | unadmitted admission =>
      refine iff_of_false nofun fun ⟨granted, _⟩ => ?_
      cases admission.success.mpr granted
  | @admitted _ added _ admission telling =>
      obtain ⟨notices, grant, waiting, granted, rfl⟩ := admission.granted
      have decision := decisionIn_heard waiting (not_isNotice_of_granted granted)
        (authPacket caller.identity) added
      have accepting : ∀ payload ∈ notices ++ [grant], ¬ isDenial payload :=
        List.forall_mem_append.mpr
          ⟨fun payload member => not_isDenial_of_isNotice (waiting payload member),
            List.forall_mem_singleton.mpr (by simp [isDenial, granted])⟩
      rw [telling.success, decision, Option.map_some, granted, List.cons_append, writtenIn_wrote,
        heardIn_wrote, writtenIn_append, heardIn_append, writtenIn_heard, heardIn_heard,
        List.nil_append, List.cons.injEq, List.forall_mem_append]
      have unheard (fault : Fault) :
          .unheard fault ∉ Passed.wrote (authPacket caller.identity) ::
            ((notices ++ [grant]).map .heard ++ added) ↔ .unheard fault ∉ added := by
        simp
      simp only [unheard, true_and]
      rw [and_iff_right accepting]

/-- An answer to the introduction that is not understood ends the conversation. -/
theorem unknown (course : Course caller keys passed result) {payload : List UInt8}
    (decision : decisionIn passed = some payload) (unknown : Verdict.ofPayload payload = .unknown) :
    writtenIn passed = [authPacket caller.identity] ∧
      result = .error (.unexpected (payloadText payload)) := by
  cases course with
  | unadmitted admission =>
      generalize outcome : (Except.error _ : Except Failure Unit) = result at admission ⊢
      cases admission with
      | unsent fault => cases decision
      | asked deciding =>
          refine ⟨by rw [writtenIn_wrote, deciding.written], ?_⟩
          cases deciding with
          | @undecided notices waiting fault =>
              rw [decisionIn_waiting waiting] at decision
              cases decision
          | @decided notices waiting answer decides =>
              rw [decisionIn, heardIn_wrote, heardIn_append, heardIn_heard] at decision
              obtain rfl : answer = payload :=
                Option.some.inj ((find?_decision waiting decides []).symm.trans decision)
              simp only [readDecision, unknown]
  | admitted admission telling =>
      obtain ⟨notices, grant, waiting, granted, rfl⟩ := admission.granted
      rw [decisionIn_heard waiting (not_isNotice_of_granted granted), Option.some.injEq] at decision
      rw [← decision, granted] at unknown
      cases unknown

/-- A conversation fails by something that ends it, or by an answer that is not understood. -/
theorem fails {failure : Failure} (course : Course caller keys passed (.error failure)) :
    (∃ item ∈ passed, stopOf? caller.host item = some failure) ∨
      ∃ payload, decisionIn passed = some payload ∧ Verdict.ofPayload payload = .unknown ∧
        failure = .unexpected (payloadText payload) := by
  generalize outcome : (Except.error failure : Except Failure Unit) = result at course
  cases course with
  | unadmitted admission =>
      cases outcome
      generalize outcome : (Except.error failure : Except Failure Unit) = result at admission
      cases admission with
      | unsent fault =>
          cases outcome
          exact .inl ⟨_, List.mem_singleton.mpr rfl, rfl⟩
      | asked deciding =>
          rw [← outcome] at deciding
          rcases deciding.fails with ⟨item, member, stops⟩ | unknown
          · exact .inl ⟨item, List.mem_cons_of_mem _ member, stops⟩
          · exact .inr unknown
  | admitted admission telling =>
      cases outcome
      obtain ⟨item, member, stops⟩ := telling.fails
      exact .inl ⟨item, List.mem_append_right _ member, stops⟩

theorem denied (course : Course caller keys passed result) :
    result = .error .accessDenied ↔ (heardIn passed).any isDenial := by
  rw [List.any_eq_true]
  constructor
  · rintro rfl
    rcases course.fails with ⟨item, member, stops⟩ | ⟨_, _, _, other⟩
    · obtain ⟨payload, rfl, denial⟩ := stopOf?_eq_denied.mp stops
      exact ⟨payload, mem_heardIn.mpr member, denial⟩
    · cases other
  · rintro ⟨payload, member, denial⟩
    obtain ⟨before, after, rfl⟩ := List.append_of_mem (mem_heardIn.mp member)
    exact (course.halting.stop (stopOf?_eq_denied.mpr ⟨payload, rfl, denial⟩)).1

end Course

end Televisor.Remote
