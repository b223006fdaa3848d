import Televisor.Proofs.Remote.Delivery

namespace Televisor.Remote

/-! A conversation goes on until something ends it: a packet that is ready is sent, and as long as
an answer is due it is waited for. -/

/-- A packet goes out, or it does not. -/
inductive Tried (packet : List UInt8) : Passed → Prop where
  | wrote : Tried packet (.wrote packet)
  | unsent (fault : Fault) : Tried packet (.unsent packet fault)

/-- An answer comes, or none does. -/
inductive Awaited : Passed → Prop where
  | heard (payload : List UInt8) : Awaited (.heard payload)
  | unheard (fault : Fault) : Awaited (.unheard fault)

/-- When an answer is due: after each packet, and while the television has not decided yet. -/
inductive Waits (caller : Caller) : List Passed → Prop where
  | answer (before : List Passed) (packet : List UInt8) : Waits caller (before ++ [.wrote packet])
  | decision {notices : List (List UInt8)} (waiting : ∀ notice ∈ notices, isNotice notice) :
      Waits caller (.wrote (authPacket caller.identity) :: notices.map .heard)

/-- Every packet goes out in its time and is tried then, and no answer that is due is left out. -/
structure Orderly (caller : Caller) (keys : List String) (passed : List Passed) : Prop where
  ready : ∀ before packet after, passed = before ++ .wrote packet :: after →
    Ready caller keys before packet
  sends : ∀ before packet after, passed = before ++ after → Ready caller keys before packet →
    ∃ item rest, after = item :: rest ∧ Tried packet item
  reads : ∀ before after, passed = before ++ after → Waits caller before →
    ∃ item rest, after = item :: rest ∧ Awaited item

/-- What becomes of the first of some keys, and then of the others. -/
inductive First (host key : String) (keys : List String) :
    List Passed → Except Failure Unit → Prop where
  | unsent (fault : Fault) :
      First host key keys [.unsent (keyPacket key) fault] (.error (fault.failure host))
  | unanswered (fault : Fault) :
      First host key keys [.wrote (keyPacket key), .unheard fault] (.error (fault.failure host))
  | denied {payload : List UInt8} (denial : isDenial payload) :
      First host key keys [.wrote (keyPacket key), .heard payload] (.error .accessDenied)
  | accepted {answer : List UInt8} {passed : List Passed} {result : Except Failure Unit}
      (accepted : ¬ isDenial answer) (telling : Telling host keys passed result) :
      First host key keys (.wrote (keyPacket key) :: .heard answer :: passed) result

section Telling

variable {host key : String} {keys : List String} {passed before after : List Passed}
  {packet : List UInt8} {result : Except Failure Unit}

theorem Telling.first (telling : Telling host (key :: keys) passed result) :
    First host key keys passed result := by
  generalize listed : key :: keys = list at telling
  cases telling with
  | @told told all accepted =>
      rcases told with _ | ⟨⟨_, answer⟩, told⟩
      · cases listed.trans all
      · obtain ⟨rfl, same⟩ := List.cons.inj (listed.trans all)
        obtain ⟨harmless, others⟩ := List.forall_mem_cons.mp accepted
        exact .accepted harmless (.told same others)
  | @unsent told other rest next accepted fault =>
      rcases told with _ | ⟨⟨_, answer⟩, told⟩
      · obtain ⟨rfl, _⟩ := List.cons.inj (listed.trans next)
        exact .unsent fault
      · obtain ⟨rfl, same⟩ := List.cons.inj (listed.trans next)
        obtain ⟨harmless, others⟩ := List.forall_mem_cons.mp accepted
        exact .accepted harmless (.unsent same others fault)
  | @unanswered told other rest next accepted fault =>
      rcases told with _ | ⟨⟨_, answer⟩, told⟩
      · obtain ⟨rfl, _⟩ := List.cons.inj (listed.trans next)
        exact .unanswered fault
      · obtain ⟨rfl, same⟩ := List.cons.inj (listed.trans next)
        obtain ⟨harmless, others⟩ := List.forall_mem_cons.mp accepted
        exact .accepted harmless (.unanswered same others fault)
  | @denied told other rest next accepted payload denial =>
      rcases told with _ | ⟨⟨_, answer⟩, told⟩
      · obtain ⟨rfl, _⟩ := List.cons.inj (listed.trans next)
        exact .denied denial
      · obtain ⟨rfl, same⟩ := List.cons.inj (listed.trans next)
        obtain ⟨harmless, others⟩ := List.forall_mem_cons.mp accepted
        exact .accepted harmless (.denied same others denial)

theorem Telling.silent (telling : Telling host [] passed result) : passed = [] := by
  generalize listed : [] = list at telling
  cases telling with
  | told all _ =>
      rw [List.map_eq_nil_iff.mp (listed.trans all).symm]
      rfl
  | unsent next _ _ | unanswered next _ _ | denied next _ _ => simp [← listed] at next

theorem Telling.sends (telling : Telling host keys (before ++ after) result)
    (due : Due keys before packet) : ∃ item rest, after = item :: rest ∧ Tried packet item := by
  obtain @⟨told, key, rest, next, accepted⟩ := due
  induction told generalizing keys with
  | nil =>
      rw [next] at telling
      change Telling host (key :: rest) after result at telling
      cases telling.first with
      | unsent fault => exact ⟨_, _, rfl, .unsent fault⟩
      | unanswered _ | denied _ | accepted _ _ => exact ⟨_, _, rfl, .wrote⟩
  | cons exchange told ih =>
      obtain ⟨harmless, others⟩ := List.forall_mem_cons.mp accepted
      rw [next] at telling
      have first := telling.first
      generalize whole : exchanges (exchange :: told) ++ after = passed at first
      change .wrote (keyPacket exchange.1) :: .heard exchange.2 :: (exchanges told ++ after) = passed
        at whole
      cases first with
      | unsent _ | unanswered _ => cases whole
      | denied denial =>
          simp only [List.cons.injEq, Passed.heard.injEq] at whole
          exact (harmless (whole.2.1 ▸ denial)).elim
      | accepted _ telling =>
          simp only [List.cons.injEq] at whole
          obtain ⟨_, _, rfl⟩ := whole
          exact ih rfl others telling

theorem Telling.reads (telling : Telling host keys (before ++ .wrote packet :: after) result) :
    ∃ item rest, after = item :: rest ∧ Awaited item := by
  induction keys generalizing before with
  | nil =>
      have silent := telling.silent
      simp at silent
  | cons key keys ih =>
      have first := telling.first
      generalize whole : before ++ .wrote packet :: after = passed at first
      rcases before with _ | ⟨sent, _ | ⟨answer, before⟩⟩
      · cases first with
        | unsent _ => cases whole
        | unanswered fault =>
            cases whole
            exact ⟨_, _, rfl, .unheard fault⟩
        | denied _ | accepted _ _ =>
            cases whole
            exact ⟨_, _, rfl, .heard _⟩
      · cases first <;> cases whole
      · cases first with
        | unsent _ | unanswered _ | denied _ => simp at whole
        | accepted _ telling =>
            simp only [List.cons_append, List.cons.injEq] at whole
            obtain ⟨_, _, rfl⟩ := whole
            exact ih telling

end Telling

section Deciding

variable {host : String} {notices others : List (List UInt8)} {passed more after : List Passed}
  {result : Except Failure Unit}

/-- The first answer is a notice, and then the television decides, or it is the last. -/
theorem Deciding.first (deciding : Deciding host passed result) :
    (∃ notice rest, passed = .heard notice :: rest ∧ Deciding host rest result) ∨
      ∃ item, passed = [item] ∧ Awaited item ∧ ∀ notice, isNotice notice → item ≠ .heard notice := by
  cases deciding with
  | @undecided notices waiting fault =>
      rcases notices with _ | ⟨notice, notices⟩
      · exact .inr ⟨_, rfl, .unheard fault, nofun⟩
      · exact .inl ⟨notice, _, rfl, .undecided (List.forall_mem_cons.mp waiting).2 fault⟩
  | @decided notices waiting payload decides =>
      rcases notices with _ | ⟨notice, notices⟩
      · refine .inr ⟨_, rfl, .heard payload, fun notice waits same => ?_⟩
        cases same
        exact decides waits
      · exact .inl ⟨notice, _, rfl, .decided (List.forall_mem_cons.mp waiting).2 decides⟩

theorem Deciding.opens (deciding : Deciding host passed result) (more : List Passed) :
    ∃ item rest, passed ++ more = item :: rest ∧ Awaited item := by
  rcases deciding.first with ⟨notice, rest, rfl, _⟩ | ⟨item, rfl, awaited, _⟩
  · exact ⟨_, _, rfl, .heard notice⟩
  · exact ⟨_, _, rfl, awaited⟩

theorem Deciding.reads (deciding : Deciding host passed result)
    (waiting : ∀ notice ∈ notices, isNotice notice)
    (whole : passed ++ more = notices.map .heard ++ after) :
    ∃ item rest, after = item :: rest ∧ Awaited item := by
  induction notices generalizing passed with
  | nil =>
      obtain ⟨item, rest, opened, awaited⟩ := deciding.opens more
      exact ⟨item, rest, whole.symm.trans opened, awaited⟩
  | cons notice notices ih =>
      obtain ⟨waits, others⟩ := List.forall_mem_cons.mp waiting
      rcases deciding.first with ⟨_, rest, rfl, later⟩ | ⟨item, rfl, _, last⟩
      · exact ih later others (List.cons.inj whole).2
      · exact (last notice waits (List.cons.inj whole).1).elim

/-- No packet goes out before there is a decision. -/
theorem Deciding.precedes {packet : List UInt8} {before : List Passed}
    (deciding : Deciding host passed result)
    (whole : before ++ .wrote packet :: after = passed ++ more) :
    ∃ rest, more = rest ++ .wrote packet :: after := by
  rcases List.append_eq_append_iff.mp whole with ⟨rest, rfl, ended⟩ | ⟨rest, _, same⟩
  · rcases rest with _ | ⟨sent, rest⟩
    · exact ⟨[], ended.symm⟩
    · obtain ⟨rfl, _⟩ := List.cons.inj ended
      have unwritten := deciding.written
      simp at unwritten
  · exact ⟨rest, same⟩

/-- What has been told of a decision determines where it is. -/
theorem decision_split {grant decision : List UInt8}
    (waiting : ∀ notice ∈ notices, isNotice notice) (grants : ¬ isNotice grant)
    (othersWaiting : ∀ notice ∈ others, isNotice notice) (decides : ¬ isNotice decision)
    (whole : (notices ++ [grant]).map .heard ++ more = (others ++ [decision]).map .heard ++ after) :
    more = after := by
  induction notices generalizing others with
  | nil =>
      rcases others with _ | ⟨other, others⟩
      · exact (List.cons.inj whole).2
      · cases (List.cons.inj whole).1
        exact (grants (List.forall_mem_cons.mp othersWaiting).1).elim
  | cons notice notices ih =>
      obtain ⟨waits, rest⟩ := List.forall_mem_cons.mp waiting
      rcases others with _ | ⟨other, others⟩
      · cases (List.cons.inj whole).1
        exact (decides waits).elim
      · exact ih rest (List.forall_mem_cons.mp othersWaiting).2 (List.cons.inj whole).2

end Deciding

namespace Course

variable {caller : Caller} {keys : List String} {passed before after : List Passed}
  {packet : List UInt8} {result : Except Failure Unit}

theorem sends (course : Course caller keys (before ++ after) result)
    (ready : Ready caller keys before packet) :
    ∃ item rest, after = item :: rest ∧ Tried packet item := by
  generalize whole : before ++ after = passed at course
  cases ready with
  | introducing =>
      change after = passed at whole
      subst whole
      cases course with
      | unadmitted admission =>
          cases admission with
          | unsent fault => exact ⟨_, _, rfl, .unsent fault⟩
          | asked _ => exact ⟨_, _, rfl, .wrote⟩
      | admitted admission _ =>
          obtain ⟨_, _, _, _, rfl⟩ := admission.granted
          exact ⟨_, _, rfl, .wrote⟩
  | @telling notices grant _ earlier waiting granted due =>
      cases course with
      | unadmitted admission =>
          have decision := decisionIn_heard waiting (not_isNotice_of_granted granted)
            (authPacket caller.identity) (earlier ++ after)
          have same : passed = .wrote (authPacket caller.identity) ::
              (notices ++ [grant]).map .heard ++ (earlier ++ after) := by
            rw [← whole]
            simp
          rw [← same] at decision
          have admitted := admission.success.mpr (by rw [decision, Option.map_some, granted])
          cases admitted
      | admitted admission telling =>
          obtain ⟨others, decision, othersWaiting, decided, rfl⟩ := admission.granted
          simp only [List.cons_append, List.append_assoc, List.cons.injEq, true_and] at whole
          have same := decision_split waiting (not_isNotice_of_granted granted) othersWaiting
            (not_isNotice_of_granted decided) whole
          subst same
          exact telling.sends due

/-- The introduction does not go out, or the television is to decide, and whatever follows has an
answer to every packet. -/
theorem opened (course : Course caller keys passed result) :
    (∃ fault, passed = [.unsent (authPacket caller.identity) fault]) ∨
      ∃ deciding outcome more, Deciding caller.host deciding outcome ∧
        passed = .wrote (authPacket caller.identity) :: (deciding ++ more) ∧
        ∀ before packet after, more = before ++ .wrote packet :: after →
          ∃ item rest, after = item :: rest ∧ Awaited item := by
  cases course with
  | unadmitted admission =>
      cases admission with
      | unsent fault => exact .inl ⟨fault, rfl⟩
      | asked deciding => exact .inr ⟨_, _, [], deciding, by rw [List.append_nil], by simp⟩
  | admitted admission telling =>
      cases admission with
      | asked deciding =>
          refine .inr ⟨_, _, _, deciding, rfl, ?_⟩
          rintro before packet after rfl
          exact telling.reads

theorem reads (course : Course caller keys (before ++ after) result) (waits : Waits caller before) :
    ∃ item rest, after = item :: rest ∧ Awaited item := by
  rcases course.opened with ⟨fault, whole⟩ | ⟨deciding, outcome, more, decides, whole, answered⟩
  · cases waits with
    | answer before packet => simp [List.append_eq_singleton_iff] at whole
    | decision _ => cases whole
  · cases waits with
    | answer before packet =>
        rw [List.append_assoc, List.singleton_append] at whole
        rcases before with _ | ⟨introduction, before⟩
        · rw [(List.cons.inj whole).2]
          exact decides.opens more
        · obtain ⟨rest, later⟩ := decides.precedes (List.cons.inj whole).2
          exact answered rest packet after later
    | decision waiting => exact decides.reads waiting (List.cons.inj whole).2.symm

theorem orderly (course : Course caller keys passed result) : Orderly caller keys passed where
  ready := by
    rintro before packet after rfl
    exact course.ready
  sends := by
    rintro before packet after rfl
    exact course.sends
  reads := by
    rintro before after rfl
    exact course.reads

end Course

end Televisor.Remote
