import Televisor.Proofs.Remote.Decision
import Televisor.Proofs.Remote.Progress

namespace Televisor.Remote

/-! What one conversation does, and when the owner is told of a refusal: each operation tells at most
once, also where one operation calls another. -/

theorem Peer.Allows.unreported {peer : Peer} {passed : List Passed} {pending : List Reaction}
    {unread : List UInt8} (allowed : peer.Allows passed pending unread) : .reported ∉ passed := by
  induction allowed with
  | start => exact List.not_mem_nil
  | wrote packet _ ih => simpa using ih
  | wroteLast packet _ ih => simpa using ih
  | unsent packet _ ih => simpa using ih
  | heard _ _ ih => simpa using ih
  | unheard _ _ ih => simpa using ih

/-- What is told of a refusal. -/
def closing (refused : Bool) : List Passed :=
  if refused then [.reported] else []

section Closing

variable {said before after : List Passed} {refused : Bool}

@[simp] theorem writtenIn_closing (said : List Passed) (refused : Bool) :
    writtenIn (said ++ closing refused) = writtenIn said := by
  cases refused <;> exact (writtenIn_append ..).trans (List.append_nil _)

@[simp] theorem heardIn_closing (said : List Passed) (refused : Bool) :
    heardIn (said ++ closing refused) = heardIn said := by
  cases refused <;> exact (heardIn_append ..).trans (List.append_nil _)

@[simp] theorem decisionIn_closing (said : List Passed) (refused : Bool) :
    decisionIn (said ++ closing refused) = decisionIn said :=
  congrArg (List.find? _) (heardIn_closing said refused)

theorem mem_closing (said : List Passed) (refused : Bool) {item : Passed} (other : item ≠ .reported) :
    item ∈ said ++ closing refused ↔ item ∈ said := by
  cases refused <;> simp [closing, other]

theorem count_closing (unreported : .reported ∉ said) :
    (said ++ closing refused).count .reported = if refused then 1 else 0 := by
  rw [List.count_append, List.count_eq_zero_of_not_mem unreported]
  cases refused <;> rfl

/-- What ends with something else than the report has passed before it. -/
theorem closing_before (whole : said ++ closing refused = before ++ after)
    (other : before.getLast? ≠ some .reported) :
    ∃ middle, said = before ++ middle ∧ after = middle ++ closing refused := by
  cases refused with
  | false => exact ⟨after, (List.append_nil _).symm.trans whole, (List.append_nil _).symm⟩
  | true =>
      rcases List.eq_nil_or_concat after with rfl | ⟨middle, final, rfl⟩
      · rw [List.append_nil] at whole
        rw [← whole, closing, if_pos rfl, List.getLast?_concat] at other
        exact (other rfl).elim
      · rw [List.concat_eq_append, ← List.append_assoc] at whole
        obtain ⟨same, last⟩ := List.append_inj' whole rfl
        exact ⟨middle, same, by rw [List.concat_eq_append, last]⟩

theorem closing_split {item : Passed} (other : item ≠ .reported)
    (whole : said ++ closing refused = before ++ item :: after) :
    ∃ middle, said = before ++ item :: middle ∧ after = middle ++ closing refused := by
  rw [List.append_cons] at whole
  obtain ⟨middle, same, rest⟩ := closing_before whole (by simpa using other)
  exact ⟨middle, same.trans (List.append_cons ..).symm, rest⟩

theorem Ready.unreported {caller : Caller} {keys : List String} {packet : List UInt8}
    (ready : Ready caller keys before packet) : before.getLast? ≠ some .reported := by
  refine fun last => absurd (List.mem_of_getLast? last) ?_
  cases ready with
  | introducing => exact List.not_mem_nil
  | telling _ _ due =>
      cases due
      simp [exchanges]

theorem Waits.unreported {caller : Caller} (waits : Waits caller before) :
    before.getLast? ≠ some .reported := by
  cases waits with
  | answer before packet => simp
  | decision waiting => exact fun last => absurd (List.mem_of_getLast? last) (by simp)

theorem Orderly.closing {caller : Caller} {keys : List String} (orderly : Orderly caller keys said)
    (refused : Bool) : Orderly caller keys (said ++ closing refused) where
  ready before packet after whole := by
    obtain ⟨middle, same, _⟩ := closing_split (show Passed.wrote packet ≠ .reported from nofun) whole
    exact orderly.ready before packet middle same
  sends before packet after whole ready := by
    obtain ⟨middle, same, rfl⟩ := closing_before whole ready.unreported
    obtain ⟨item, rest, rfl, tried⟩ := orderly.sends before packet middle same ready
    exact ⟨item, _, rfl, tried⟩
  reads before after whole waits := by
    obtain ⟨middle, same, rfl⟩ := closing_before whole waits.unreported
    obtain ⟨item, rest, rfl, awaited⟩ := orderly.reads before middle same waits
    exact ⟨item, _, rfl, awaited⟩

end Closing

/-- What passed is the course of a conversation that tells these keys, as this television allows it,
and the report of a refusal where it denied access. -/
def Truthful (caller : Caller) (peer : Peer) (keys : List String) (passed : List Passed)
    (result : Except Failure Unit) : Prop :=
  ∃ said pending unread, peer.Allows said pending unread ∧ Course caller keys said result ∧
    passed = said ++ closing ((heardIn said).any isDenial)

/-- A conversation that delivers keys, on a connection that has been opened. -/
structure Delivered (caller : Caller) (peer : Peer) (keys : List String)
    (conversation : Conversation Unit) : Prop extends Orderly caller keys conversation.passed where
  truthful : Truthful caller peer keys conversation.passed conversation.result
  begins : (∃ after, conversation.passed = .wrote (authPacket caller.identity) :: after) ∨
    ∃ fault, conversation.passed = [.unsent (authPacket caller.identity) fault]
  written : writtenIn conversation.passed <+: authPacket caller.identity :: keys.map keyPacket
  success : conversation.result = .ok () ↔
    (decisionIn conversation.passed).map Verdict.ofPayload = some .granted ∧
      writtenIn conversation.passed = authPacket caller.identity :: keys.map keyPacket ∧
      (∀ fault, .unheard fault ∉ conversation.passed) ∧
      ∀ payload ∈ heardIn conversation.passed, ¬ isDenial payload
  stops : ∀ before stop after failure, conversation.passed = before ++ stop :: after →
    stopOf? caller.host stop = some failure →
      conversation.result = .error failure ∧ ∀ item ∈ after, item = .reported
  unknown : ∀ payload, decisionIn conversation.passed = some payload →
    Verdict.ofPayload payload = .unknown →
      writtenIn conversation.passed = [authPacket caller.identity] ∧
        conversation.result = .error (.unexpected (payloadText payload))
  fails : ∀ failure, conversation.result = .error failure →
    (∃ item ∈ conversation.passed, stopOf? caller.host item = some failure) ∨
      ∃ payload, decisionIn conversation.passed = some payload ∧
        Verdict.ofPayload payload = .unknown ∧ failure = .unexpected (payloadText payload)
  reports : conversation.passed.count .reported =
    if (heardIn conversation.passed).any isDenial then 1 else 0

/-- Whether the television is on, told by how the introduction ended. -/
inductive Inferred (host : String) : Except Failure Unit → Except Failure Bool → Prop where
  | admitted : Inferred host (.ok ()) (.ok true)
  | denied : Inferred host (.error .accessDenied) (.ok false)
  | unreached (fault : Fault) : Inferred host (.error (fault.failure host)) (.ok false)
  | unexpected (answer : String) :
      Inferred host (.error (.unexpected answer)) (.error (.unexpected answer))

/-- A conversation that only asks whether the television is on. -/
structure Asked (caller : Caller) (peer : Peer) (conversation : Conversation Bool) : Prop
    extends Orderly caller [] conversation.passed where
  truthful : ∃ outcome, Truthful caller peer [] conversation.passed outcome ∧
    Inferred caller.host outcome conversation.result
  begins : (∃ after, conversation.passed = .wrote (authPacket caller.identity) :: after) ∨
    ∃ fault, conversation.passed = [.unsent (authPacket caller.identity) fault]
  written : writtenIn conversation.passed <+: [authPacket caller.identity]
  admitted : conversation.result = .ok true ↔
    (decisionIn conversation.passed).map Verdict.ofPayload = some .granted
  denied : (heardIn conversation.passed).any isDenial → conversation.result = .ok false
  reports : conversation.passed.count .reported =
    if (heardIn conversation.passed).any isDenial then 1 else 0

section Opened

variable {caller : Caller} {peer : Peer}

theorem Course.delivered {keys : List String} {said : List Passed} {result : Except Failure Unit}
    {pending : List Reaction} {unread : List UInt8} (course : Course caller keys said result)
    (allowed : peer.Allows said pending unread) :
    Delivered caller peer keys ⟨result, said ++ closing ((heardIn said).any isDenial)⟩ where
  toOrderly := course.orderly.closing _
  truthful := ⟨said, pending, unread, allowed, course, rfl⟩
  begins := by
    rcases course.opened with ⟨fault, rfl⟩ | ⟨_, _, _, _, rfl, _⟩
    · exact .inr ⟨fault, rfl⟩
    · exact .inl ⟨_, rfl⟩
  written := by
    rw [writtenIn_closing]
    exact course.written
  success := by
    have answered (fault : Fault) := mem_closing said ((heardIn said).any isDenial)
      (show Passed.unheard fault ≠ .reported from nofun)
    simpa only [decisionIn_closing, writtenIn_closing, heardIn_closing, answered]
      using course.success
  stops before stop after failure whole stops := by
    have other : stop ≠ .reported := by
      rintro rfl
      cases stops
    obtain ⟨middle, same, rest⟩ := closing_split other whole
    subst same
    obtain ⟨failed, rfl⟩ := course.halting.stop stops
    refine ⟨failed, ?_⟩
    rw [rest, List.nil_append]
    cases (heardIn _).any isDenial
    · exact List.forall_mem_nil _
    · exact List.forall_mem_singleton.mpr rfl
  unknown payload decision unknown := by
    rw [decisionIn_closing] at decision
    rw [writtenIn_closing]
    exact course.unknown decision unknown
  fails failure failed := by
    cases failed
    rw [decisionIn_closing]
    rcases course.fails with ⟨item, member, stops⟩ | unknown
    · exact .inl ⟨item, List.mem_append_left _ member, stops⟩
    · exact .inr unknown
  reports := by
    rw [heardIn_closing]
    exact count_closing allowed.unreported

theorem deliverKeys_course (caller : Caller) (peer : Peer) (keys : List String) :
    ∃ pending unread, peer.Allows (caller.deliverKeys (.ok peer.line) keys).passed pending unread ∧
      Course caller keys (caller.deliverKeys (.ok peer.line) keys).passed
        (caller.deliverKeys (.ok peer.line) keys).result := by
  obtain ⟨before, passed, along, admission⟩ :=
    Line.introduce_admission (Line.opened_along peer) caller
  change _ = [] ++ before at passed
  simp only [Caller.deliverKeys, Caller.talk]
  generalize peer.line.introduce caller.host caller.identity = introduced
    at passed along admission ⊢
  obtain ⟨_ | _, line⟩ := introduced
  · refine ⟨line.reactions, line.arrived, along.allowed, ?_⟩
    rw [passed]
    exact .unadmitted admission
  · obtain ⟨added, more, later, telling⟩ := Line.tellKeys_telling along caller.host keys
    refine ⟨_, _, later.allowed, ?_⟩
    rw [more, passed]
    exact .admitted admission telling

/-- A conversation that was refused ends with the report, -/
theorem Course.refused {keys : List String} {said : List Passed}
    (course : Course caller keys said (.error .accessDenied)) :
    said ++ closing ((heardIn said).any isDenial) = said ++ [.reported] := by
  rw [course.denied.mp rfl]
  rfl

/-- and any other tells nothing more. -/
theorem Course.unrefused {keys : List String} {said : List Passed} {result : Except Failure Unit}
    (course : Course caller keys said result) (accepted : result ≠ .error .accessDenied) :
    said ++ closing ((heardIn said).any isDenial) = said := by
  rw [Bool.eq_false_iff.mpr fun denial => accepted (course.denied.mpr denial)]
  exact List.append_nil said

/-- The owner is told exactly if the television denied access. -/
theorem sendKeys_delivered (caller : Caller) (peer : Peer) (keys : List String) :
    Delivered caller peer keys (caller.sendKeys (.ok peer.line) keys) := by
  obtain ⟨pending, unread, allowed, course⟩ := deliverKeys_course caller peer keys
  have delivered := course.delivered allowed
  unfold Caller.sendKeys
  generalize caller.deliverKeys (.ok peer.line) keys = conversation at course delivered ⊢
  obtain ⟨result, said⟩ := conversation
  dsimp only at course delivered ⊢
  split
  · rwa [course.refused] at delivered
  · rename_i accepted
    rwa [course.unrefused accepted] at delivered

/-- Whether the television is on is asked by a conversation that tells no keys. -/
theorem Admission.course {said : List Passed} {result : Except Failure Unit}
    (admission : Admission caller said result) : Course caller [] said result := by
  cases result with
  | error failure => exact .unadmitted admission
  | ok _ =>
      have course := Course.admitted admission (.told rfl (List.forall_mem_nil _))
      rwa [show exchanges [] = [] from rfl, List.append_nil] at course

theorem Inferred.admitted_iff {host : String} {result : Except Failure Unit}
    {answer : Except Failure Bool} (inferred : Inferred host result answer) :
    answer = .ok true ↔ result = .ok () := by
  cases inferred <;> simp

theorem Inferred.refused {host : String} {result : Except Failure Unit}
    {answer : Except Failure Bool} (inferred : Inferred host result answer)
    (refused : result = .error .accessDenied) : answer = .ok false := by
  cases inferred with
  | denied | unreached _ => rfl
  | admitted | unexpected _ => cases refused

theorem Admission.answered {said : List Passed} {result : Except Failure Unit}
    {pending : List Reaction} {unread : List UInt8} {answer : Except Failure Bool}
    (admission : Admission caller said result) (allowed : peer.Allows said pending unread)
    (inferred : Inferred caller.host result answer) :
    Asked caller peer ⟨answer, said ++ closing ((heardIn said).any isDenial)⟩ := by
  have delivered := admission.course.delivered allowed
  refine ⟨delivered.toOrderly, ⟨result, delivered.truthful, inferred⟩, delivered.begins,
    delivered.written, ?_, ?_, delivered.reports⟩
  · rw [decisionIn_closing, ← admission.success]
    exact inferred.admitted_iff
  · rw [heardIn_closing]
    exact fun denial => inferred.refused (admission.course.denied.mpr denial)

theorem introduce_admitted (caller : Caller) (peer : Peer) :
    ∃ pending unread, peer.Allows (caller.introduce (.ok peer.line)).passed pending unread ∧
      Admission caller (caller.introduce (.ok peer.line)).passed
        (caller.introduce (.ok peer.line)).result := by
  obtain ⟨said, passed, along, admission⟩ :=
    Line.introduce_admission (Line.opened_along peer) caller
  change _ = [] ++ said at passed
  refine ⟨_, _, along.allowed, ?_⟩
  simp only [Caller.introduce, Caller.talk]
  rw [passed]
  exact admission

theorem isOn_asked (caller : Caller) (peer : Peer) :
    Asked caller peer (caller.isOn (.ok peer.line)) := by
  obtain ⟨pending, unread, allowed, admission⟩ := introduce_admitted caller peer
  unfold Caller.isOn
  generalize caller.introduce (.ok peer.line) = conversation at allowed admission ⊢
  obtain ⟨result, said⟩ := conversation
  have course := admission.course
  dsimp only at allowed admission course ⊢
  split
  · have asked : Asked caller peer ⟨.ok true, _⟩ :=
      admission.answered allowed .admitted
    rwa [course.unrefused nofun] at asked
  · have asked : Asked caller peer ⟨.ok false, _⟩ :=
      admission.answered allowed .denied
    rwa [course.refused] at asked
  · rename_i answer
    have asked : Asked caller peer ⟨.error (.unexpected answer), _⟩ :=
      admission.answered allowed (.unexpected answer)
    rwa [course.unrefused nofun] at asked
  · rename_i failure refused expected
    have accepted : (.error failure : Except Failure Unit) ≠ .error .accessDenied :=
      fun same => refused (Except.error.inj same)
    have inferred : Inferred caller.host (.error failure) (.ok false) := by
      rcases course.fails with ⟨_, _, stops⟩ | ⟨_, _, _, rfl⟩
      · rcases stopOf?_failure stops with rfl | ⟨fault, rfl⟩
        · exact (refused rfl).elim
        · exact .unreached fault
      · exact (expected _ rfl).elim
    have asked : Asked caller peer ⟨.ok false, _⟩ := admission.answered allowed inferred
    rwa [course.unrefused accepted] at asked

end Opened

/-- Whatever the television answers, keys are delivered in order and up to the first failure, and the
owner is told of a denial once. -/
theorem conversations_conduct (caller : Caller) :
    (∀ fault keys, caller.sendKeys (.error fault) keys = ⟨.error (fault.failure caller.host), []⟩) ∧
    (∀ fault, caller.powerOff (.error fault) = ⟨.error (fault.failure caller.host), []⟩) ∧
    (∀ fault, caller.isOn (.error fault) = ⟨.ok false, []⟩) ∧
    ∀ peer : Peer, (∀ keys, Delivered caller peer keys (caller.sendKeys (.ok peer.line) keys)) ∧
      Delivered caller peer [Key.powerOff] (caller.powerOff (.ok peer.line)) ∧
      Asked caller peer (caller.isOn (.ok peer.line)) := by
  have unopened (fault : Fault) (keys : List String) :
      caller.sendKeys (.error fault) keys = ⟨.error (fault.failure caller.host), []⟩ := by
    cases fault <;> rfl
  refine ⟨unopened, fun fault => unopened fault _, ?_, fun peer => ?_⟩
  · intro fault
    cases fault <;> rfl
  · exact ⟨sendKeys_delivered caller peer, sendKeys_delivered caller peer _, isOn_asked caller peer⟩

/-- A key is taken, -/
def taking : Frame := ⟨0, [0x74, 0x76], [0x00, 0x00, 0x00, 0x00]⟩

/-- and another is refused. -/
def refusing : Frame := ⟨0, [], [0x64, 0x00, 0x00, 0x00]⟩

/-- A television that lets the client in, and changes its mind after the first key. -/
def fickle : Peer :=
  ⟨[.bytes (asking.packet ++ allowing.packet), .bytes taking.packet, .bytes refusing.packet], closed⟩

theorem fickle_refuses :
    let conversation := visitor.sendKeys (.ok fickle.line) ["KEY_UP", "KEY_DOWN", "KEY_ENTER"]
    Delivered visitor fickle ["KEY_UP", "KEY_DOWN", "KEY_ENTER"] conversation ∧
    conversation.result = .error .accessDenied ∧
    writtenIn conversation.passed =
      [authPacket visitor.identity, keyPacket "KEY_UP", keyPacket "KEY_DOWN"] ∧
    conversation.passed.count .reported = 1 := by
  intro conversation
  have delivered : Delivered visitor fickle ["KEY_UP", "KEY_DOWN", "KEY_ENTER"] conversation :=
    ((conversations_conduct visitor).2.2.2 fickle).1 _
  have passed : conversation.passed =
      [.wrote (authPacket visitor.identity), .heard asking.payload, .heard allowing.payload,
        .wrote (keyPacket "KEY_UP"), .heard taking.payload, .wrote (keyPacket "KEY_DOWN")] ++
      .heard refusing.payload :: [.reported] := by
    decide +kernel
  have denied : (heardIn conversation.passed).any isDenial = true := by
    rw [passed]
    decide
  refine ⟨delivered, (delivered.stops _ _ _ _ passed rfl).1, ?_, ?_⟩
  · rw [passed]
    rfl
  · rw [delivered.reports, if_pos denied]

end Televisor.Remote
