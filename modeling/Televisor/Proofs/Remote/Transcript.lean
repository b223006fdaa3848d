import Televisor.Proofs.Remote.Dialogue

namespace Televisor.Remote

/-! What can be told from what has passed: what went out, what the television decided, and what ended the
conversation. -/

def Passed.written? : Passed → Option (List UInt8)
  | .wrote packet => some packet
  | _ => none

def Passed.heard? : Passed → Option (List UInt8)
  | .heard payload => some payload
  | _ => none

def writtenIn (passed : List Passed) : List (List UInt8) :=
  passed.filterMap Passed.written?

def heardIn (passed : List Passed) : List (List UInt8) :=
  passed.filterMap Passed.heard?

@[simp] theorem writtenIn_append (passed more : List Passed) :
    writtenIn (passed ++ more) = writtenIn passed ++ writtenIn more :=
  List.filterMap_append

@[simp] theorem heardIn_append (passed more : List Passed) :
    heardIn (passed ++ more) = heardIn passed ++ heardIn more :=
  List.filterMap_append

@[simp] theorem writtenIn_wrote (packet : List UInt8) (passed : List Passed) :
    writtenIn (.wrote packet :: passed) = packet :: writtenIn passed :=
  rfl

@[simp] theorem heardIn_wrote (packet : List UInt8) (passed : List Passed) :
    heardIn (.wrote packet :: passed) = heardIn passed :=
  rfl

@[simp] theorem writtenIn_heard (payloads : List (List UInt8)) :
    writtenIn (payloads.map .heard) = [] := by
  induction payloads with
  | nil => rfl
  | cons payload payloads ih => exact ih

@[simp] theorem heardIn_heard (payloads : List (List UInt8)) :
    heardIn (payloads.map .heard) = payloads := by
  induction payloads with
  | nil => rfl
  | cons payload payloads ih => exact congrArg (payload :: ·) ih

theorem mem_heardIn {payload : List UInt8} {passed : List Passed} :
    payload ∈ heardIn passed ↔ .heard payload ∈ passed := by
  simp only [heardIn, List.mem_filterMap]
  constructor
  · rintro ⟨item, member, heard⟩
    cases item with
    | heard answer =>
        cases heard
        exact member
    | wrote packet => cases heard
    | unsent packet fault => cases heard
    | unheard fault => cases heard
    | reported => cases heard
  · exact fun member => ⟨_, member, rfl⟩

@[simp] theorem writtenIn_exchanges (told : List (String × List UInt8)) :
    writtenIn (exchanges told) = (told.map Prod.fst).map keyPacket := by
  induction told with
  | nil => rfl
  | cons exchange told ih => exact congrArg (keyPacket exchange.1 :: ·) ih

@[simp] theorem heardIn_exchanges (told : List (String × List UInt8)) :
    heardIn (exchanges told) = told.map Prod.snd := by
  induction told with
  | nil => rfl
  | cons exchange told ih => exact congrArg (exchange.2 :: ·) ih

/-- The failure that ends a conversation with this. -/
def stopOf? (host : String) : Passed → Option Failure
  | .unsent _ fault => some (fault.failure host)
  | .unheard fault => some (fault.failure host)
  | .heard payload => if isDenial payload then some .accessDenied else none
  | _ => none

theorem stopOf?_failure {host : String} {item : Passed} {failure : Failure}
    (stops : stopOf? host item = some failure) :
    failure = .accessDenied ∨ ∃ fault : Fault, failure = fault.failure host := by
  cases item with
  | unsent packet fault => exact .inr ⟨fault, (Option.some.inj stops).symm⟩
  | unheard fault => exact .inr ⟨fault, (Option.some.inj stops).symm⟩
  | heard payload =>
      by_cases denial : isDenial payload
      · simp only [stopOf?, denial, if_true] at stops
        exact .inl (Option.some.inj stops).symm
      · simp [stopOf?, denial] at stops
  | wrote packet => cases stops
  | reported => cases stops

theorem stopOf?_eq_denied {host : String} {item : Passed} :
    stopOf? host item = some .accessDenied ↔ ∃ payload, item = .heard payload ∧ isDenial payload := by
  constructor
  · intro stops
    cases item with
    | heard payload =>
        by_cases denial : isDenial payload
        · exact ⟨payload, rfl, denial⟩
        · simp [stopOf?, denial] at stops
    | unsent packet fault => cases fault <;> cases stops
    | unheard fault => cases fault <;> cases stops
    | wrote packet => cases stops
    | reported => cases stops
  · rintro ⟨payload, rfl, denial⟩
    simp only [stopOf?, denial, if_true]

/-- The television's decision about this client: its first answer that is no waiting notice. -/
def decisionIn (passed : List Passed) : Option (List UInt8) :=
  (heardIn passed).find? (!isNotice ·)

theorem not_isDenial_of_isNotice {payload : List UInt8} (notice : isNotice payload) :
    ¬ isDenial payload := by
  simp only [isNotice, isDenial, decide_eq_true_eq] at notice ⊢
  rw [notice]
  rintro ⟨⟩

/-- The notices of an undecided television and the payload that follows them. -/
theorem find?_decision {notices : List (List UInt8)} (waiting : ∀ notice ∈ notices, isNotice notice)
    {payload : List UInt8} (decides : ¬ isNotice payload) (answers : List (List UInt8)) :
    (notices ++ payload :: answers).find? (!isNotice ·) = some payload := by
  have skipped : notices.find? (!isNotice ·) = none := by
    simpa using waiting
  rw [List.find?_append, skipped, Option.none_or, List.find?_cons_of_pos (by simpa using decides)]

theorem decisionIn_heard {notices : List (List UInt8)} (waiting : ∀ notice ∈ notices, isNotice notice)
    {payload : List UInt8} (decides : ¬ isNotice payload) (packet : List UInt8) (more : List Passed) :
    decisionIn (.wrote packet :: (notices ++ [payload]).map .heard ++ more) = some payload := by
  rw [decisionIn, List.cons_append, heardIn_wrote, heardIn_append, heardIn_heard, List.append_assoc,
    List.singleton_append, find?_decision waiting decides]

/-- A television that has only said to wait has not decided. -/
theorem decisionIn_waiting {notices : List (List UInt8)} (waiting : ∀ notice ∈ notices, isNotice notice)
    (packet : List UInt8) (fault : Fault) :
    decisionIn (.wrote packet :: (notices.map .heard ++ [.unheard fault])) = none := by
  have none : (notices ++ []).find? (!isNotice ·) = none := by simpa using waiting
  rw [decisionIn, heardIn_wrote, heardIn_append, heardIn_heard]
  exact none

/-- Nothing among this ends a conversation. -/
def Calm (host : String) (passed : List Passed) : Prop :=
  ∀ item ∈ passed, stopOf? host item = none

/-- What ends a conversation is the last that passes in it, and decides its result. -/
inductive Halting (host : String) : List Passed → Except Failure Unit → Prop where
  | calm {passed : List Passed} {result : Except Failure Unit} (calm : Calm host passed) :
      Halting host passed result
  | stopped {before : List Passed} {stop : Passed} {failure : Failure} (calm : Calm host before)
      (stops : stopOf? host stop = some failure) : Halting host (before ++ [stop]) (.error failure)

section Endings

variable {host : String}

theorem Calm.append {passed more : List Passed} (calm : Calm host passed) (others : Calm host more) :
    Calm host (passed ++ more) :=
  List.forall_mem_append.mpr ⟨calm, others⟩

theorem calm_heard {payloads : List (List UInt8)} (harmless : ∀ payload ∈ payloads, ¬ isDenial payload) :
    Calm host (payloads.map .heard) := by
  intro item member
  obtain ⟨payload, inside, rfl⟩ := List.mem_map.mp member
  simp only [stopOf?, harmless payload inside, Bool.false_eq_true, if_false]

theorem calm_exchanges {told : List (String × List UInt8)}
    (accepted : ∀ exchange ∈ told, ¬ isDenial exchange.2) : Calm host (exchanges told) := by
  intro item member
  obtain ⟨exchange, inside, passed⟩ := List.mem_flatMap.mp member
  simp only [List.mem_cons, List.not_mem_nil, or_false] at passed
  rcases passed with rfl | rfl
  · rfl
  · simp only [stopOf?, accepted exchange inside, Bool.false_eq_true, if_false]

theorem Halting.prepend {before passed : List Passed} {result : Except Failure Unit}
    (halting : Halting host passed result) (calm : Calm host before) :
    Halting host (before ++ passed) result := by
  cases halting with
  | calm others => exact .calm (calm.append others)
  | stopped others stops =>
      rw [← List.append_assoc]
      exact .stopped (calm.append others) stops

/-- Where a conversation is ended by something, nothing follows it. -/
theorem Halting.stop {before after : List Passed} {stop : Passed} {result : Except Failure Unit}
    {failure : Failure} (halting : Halting host (before ++ stop :: after) result)
    (stops : stopOf? host stop = some failure) : result = .error failure ∧ after = [] := by
  generalize whole : before ++ stop :: after = passed at halting
  cases halting with
  | calm calm =>
      subst whole
      rw [calm stop (by simp)] at stops
      cases stops
  | @stopped earlier last _ calm other =>
      rcases List.eq_nil_or_concat after with rfl | ⟨middle, final, rfl⟩
      · obtain ⟨_, same⟩ := List.append_inj' whole rfl
        cases same
        rw [stops] at other
        cases other
        exact ⟨rfl, rfl⟩
      · rw [List.concat_eq_append, ← List.cons_append, ← List.append_assoc] at whole
        obtain ⟨rfl, _⟩ := List.append_inj' whole rfl
        rw [calm stop (by simp)] at stops
        cases stops

end Endings

/-- A packet that goes out beside payloads that are heard goes out after them. -/
theorem heard_split {payloads : List (List UInt8)} {tail before after : List Passed}
    {packet : List UInt8}
    (whole : payloads.map .heard ++ tail = before ++ .wrote packet :: after) :
    ∃ rest, before = payloads.map .heard ++ rest ∧ tail = rest ++ .wrote packet :: after := by
  induction payloads generalizing before with
  | nil => exact ⟨before, rfl, whole⟩
  | cons payload payloads ih =>
      rcases before with _ | ⟨first, before⟩
      · cases whole
      · simp only [List.map_cons, List.cons_append, List.cons.injEq] at whole
        obtain ⟨rfl, whole⟩ := whole
        obtain ⟨rest, rfl, tail⟩ := ih whole
        exact ⟨rest, rfl, tail⟩

/-- A packet among exchanges and what follows them is a key's, after the exchanges before it, or goes
out after them all. -/
theorem exchanges_split {told : List (String × List UInt8)} {tail before after : List Passed}
    {packet : List UInt8} (whole : exchanges told ++ tail = before ++ .wrote packet :: after) :
    (∃ earlier key answer later, told = earlier ++ (key, answer) :: later ∧
      before = exchanges earlier ∧ packet = keyPacket key) ∨
    ∃ rest, before = exchanges told ++ rest ∧ tail = rest ++ .wrote packet :: after := by
  induction told generalizing before with
  | nil => exact .inr ⟨before, rfl, whole⟩
  | cons exchange told ih =>
      obtain ⟨key, answer⟩ := exchange
      change .wrote (keyPacket key) :: .heard answer :: (exchanges told ++ tail) = _ at whole
      rcases before with _ | ⟨first, _ | ⟨second, before⟩⟩
      · cases whole
        exact .inl ⟨[], key, answer, told, rfl, rfl, rfl⟩
      · cases whole
      · simp only [List.cons_append, List.cons.injEq] at whole
        obtain ⟨rfl, rfl, whole⟩ := whole
        rcases ih whole with ⟨earlier, other, reply, later, rfl, rfl, rfl⟩ | ⟨rest, rfl, rfl⟩
        · exact .inl ⟨(key, answer) :: earlier, other, reply, later, rfl, rfl, rfl⟩
        · exact .inr ⟨rest, rfl, rfl⟩

/-- The one packet among these two. -/
theorem pair_split {packet sent : List UInt8} {last : Passed} {rest after : List Passed}
    (whole : [.wrote sent, last] = rest ++ .wrote packet :: after)
    (other : ∀ packet, last ≠ .wrote packet) : rest = [] ∧ packet = sent := by
  rcases rest with _ | ⟨first, _ | ⟨second, rest⟩⟩
  · cases whole
    exact ⟨rfl, rfl⟩
  · simp only [List.cons_append, List.nil_append, List.cons.injEq] at whole
    exact (other packet whole.2.1).elim
  · simp at whole

end Televisor.Remote
