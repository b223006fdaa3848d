import Televisor.Proofs.Remote.Framing
import Televisor.Remote.Conversation

namespace Televisor.Remote

/-! What passes in a conversation, whatever the television does: until it has decided, and while keys
are told. -/

/-- What a television does on one connection: its reactions to the packets it is sent, and what is met
when it has none left. -/
structure Peer where
  reactions : List Reaction
  last : Fault

namespace Peer

def line (peer : Peer) : Line :=
  .opened peer.reactions peer.last

/-- What can pass with a television. `pending` are its reactions to the packets still to come, and
`unread` is what it has said and nobody has read yet. -/
inductive Allows (peer : Peer) : List Passed → List Reaction → List UInt8 → Prop where
  | start : peer.Allows [] peer.reactions []
  | wrote {passed pending unread bytes} (packet : List UInt8)
      (before : peer.Allows passed (.bytes bytes :: pending) unread) :
      peer.Allows (passed ++ [.wrote packet]) pending (unread ++ bytes)
  | wroteLast {passed unread} (packet : List UInt8) (before : peer.Allows passed [] unread) :
      peer.Allows (passed ++ [.wrote packet]) [] unread
  | unsent {passed pending unread fault} (packet : List UInt8)
      (before : peer.Allows passed (.fault fault :: pending) unread) :
      peer.Allows (passed ++ [.unsent packet fault]) pending unread
  | heard {passed pending rest} {frame : Frame} (fits : frame.Fits)
      (before : peer.Allows passed pending (frame.packet ++ rest)) :
      peer.Allows (passed ++ [.heard frame.payload]) pending rest
  | unheard {passed pending unread} (before : peer.Allows passed pending unread)
      (short : readFrame? unread = none) :
      peer.Allows (passed ++ [.unheard (if pending.isEmpty then peer.last else .timeout)]) pending
        unread

end Peer

/-- The connection is where what passed on it has led. -/
structure Line.Along (line : Line) (peer : Peer) : Prop where
  allowed : peer.Allows line.passed line.reactions line.arrived
  last : line.last = peer.last

namespace Line

variable {peer : Peer} {line : Line}

theorem opened_along (peer : Peer) : peer.line.Along peer :=
  ⟨.start, rfl⟩

/-- A packet goes out or does not. -/
inductive Sending (peer : Peer) (line : Line) (packet : List UInt8) :
    Except Fault Unit × Line → Prop where
  | wrote {after : Line} (along : after.Along peer)
      (passed : after.passed = line.passed ++ [.wrote packet]) : Sending peer line packet (.ok (), after)
  | unsent {fault : Fault} {after : Line} (along : after.Along peer)
      (passed : after.passed = line.passed ++ [.unsent packet fault]) :
      Sending peer line packet (.error fault, after)

theorem send_sending (along : line.Along peer) (packet : List UInt8) :
    Sending peer line packet (line.send packet) := by
  have allowed := along.allowed
  unfold send
  split
  · rename_i none
    rw [none] at allowed
    refine .wrote ⟨?_, along.last⟩ rfl
    change peer.Allows (line.passed ++ [.wrote packet]) line.reactions line.arrived
    rw [none]
    exact .wroteLast packet allowed
  · rename_i some
    rw [some] at allowed
    exact .wrote ⟨.wrote packet allowed, along.last⟩ rfl
  · rename_i some
    rw [some] at allowed
    exact .unsent ⟨.unsent packet allowed, along.last⟩ rfl

/-- A whole frame is read, or none comes. -/
inductive Hearing (peer : Peer) (line : Line) : Except Fault (List UInt8) × Line → Prop where
  | heard {payload : List UInt8} {after : Line} (along : after.Along peer)
      (passed : after.passed = line.passed ++ [.heard payload]) : Hearing peer line (.ok payload, after)
  | unheard {fault : Fault} {after : Line} (along : after.Along peer)
      (passed : after.passed = line.passed ++ [.unheard fault]) :
      Hearing peer line (.error fault, after)

theorem readPayload_hearing (along : line.Along peer) : Hearing peer line line.readPayload := by
  have allowed := along.allowed
  unfold readPayload
  split
  · rename_i read
    obtain ⟨arrived, fits⟩ := readFrame?_eq_some.mp read
    rw [arrived] at allowed
    exact .heard ⟨.heard fits allowed, along.last⟩ rfl
  · rename_i short
    have unheard := Peer.Allows.unheard allowed short
    rw [← along.last] at unheard
    exact .unheard ⟨unheard, along.last⟩ rfl

end Line

def isNotice (payload : List UInt8) : Bool :=
  Verdict.ofPayload payload = .waiting

def isDenial (payload : List UInt8) : Bool :=
  Verdict.ofPayload payload = .denied

/-- What passes until the television has decided: waiting notices, and then its decision or nothing
more. -/
inductive Deciding (host : String) : List Passed → Except Failure Unit → Prop where
  | undecided {notices : List (List UInt8)} (waiting : ∀ notice ∈ notices, isNotice notice)
      (fault : Fault) :
      Deciding host (notices.map .heard ++ [.unheard fault]) (.error (fault.failure host))
  | decided {notices : List (List UInt8)} (waiting : ∀ notice ∈ notices, isNotice notice)
      {payload : List UInt8} (decides : ¬ isNotice payload) :
      Deciding host (notices.map .heard ++ [.heard payload]) (readDecision payload)

theorem Deciding.later {host : String} {notice : List UInt8} {passed : List Passed}
    {result : Except Failure Unit} (deciding : Deciding host passed result) (waiting : isNotice notice) :
    Deciding host (.heard notice :: passed) result := by
  cases deciding with
  | undecided others fault => exact .undecided (List.forall_mem_cons.mpr ⟨waiting, others⟩) fault
  | decided others decides => exact .decided (List.forall_mem_cons.mpr ⟨waiting, others⟩) decides

/-- What passes until this client is let in or is not. -/
inductive Admission (caller : Caller) : List Passed → Except Failure Unit → Prop where
  | unsent (fault : Fault) :
      Admission caller [.unsent (authPacket caller.identity) fault] (.error (fault.failure caller.host))
  | asked {passed : List Passed} {result : Except Failure Unit}
      (deciding : Deciding caller.host passed result) :
      Admission caller (.wrote (authPacket caller.identity) :: passed) result

/-- Keys that were sent, each followed by its answer. -/
def exchanges (told : List (String × List UInt8)) : List Passed :=
  told.flatMap fun (key, answer) => [.wrote (keyPacket key), .heard answer]

/-- What passes when keys are told: each key waits for the answer to the one before it, and the first
that does not go out, is not answered or is denied is the last. -/
inductive Telling (host : String) (keys : List String) : List Passed → Except Failure Unit → Prop where
  | told {told : List (String × List UInt8)} (all : keys = told.map Prod.fst)
      (accepted : ∀ exchange ∈ told, ¬ isDenial exchange.2) :
      Telling host keys (exchanges told) (.ok ())
  | unsent {told : List (String × List UInt8)} {key : String} {rest : List String}
      (next : keys = told.map Prod.fst ++ key :: rest)
      (accepted : ∀ exchange ∈ told, ¬ isDenial exchange.2) (fault : Fault) :
      Telling host keys (exchanges told ++ [.unsent (keyPacket key) fault])
        (.error (fault.failure host))
  | unanswered {told : List (String × List UInt8)} {key : String} {rest : List String}
      (next : keys = told.map Prod.fst ++ key :: rest)
      (accepted : ∀ exchange ∈ told, ¬ isDenial exchange.2) (fault : Fault) :
      Telling host keys (exchanges told ++ [.wrote (keyPacket key), .unheard fault])
        (.error (fault.failure host))
  | denied {told : List (String × List UInt8)} {key : String} {rest : List String}
      (next : keys = told.map Prod.fst ++ key :: rest)
      (accepted : ∀ exchange ∈ told, ¬ isDenial exchange.2) {payload : List UInt8}
      (denial : isDenial payload) :
      Telling host keys (exchanges told ++ [.wrote (keyPacket key), .heard payload])
        (.error .accessDenied)

theorem Telling.next {host key : String} {keys : List String} {answer : List UInt8}
    {passed : List Passed} {result : Except Failure Unit} (telling : Telling host keys passed result)
    (accepted : ¬ isDenial answer) :
    Telling host (key :: keys) (.wrote (keyPacket key) :: .heard answer :: passed) result := by
  have all {told : List (String × List UInt8)} (rest : ∀ exchange ∈ told, ¬ isDenial exchange.2) :
      ∀ exchange ∈ (key, answer) :: told, ¬ isDenial exchange.2 :=
    List.forall_mem_cons.mpr ⟨accepted, rest⟩
  cases telling with
  | told same others => exact .told (congrArg (key :: ·) same) (all others)
  | unsent same others fault => exact .unsent (congrArg (key :: ·) same) (all others) fault
  | unanswered same others fault => exact .unanswered (congrArg (key :: ·) same) (all others) fault
  | denied same others denial => exact .denied (congrArg (key :: ·) same) (all others) denial

namespace Line

variable {peer : Peer} {line : Line}

theorem awaitDecision_deciding (along : line.Along peer) (host : String) :
    ∃ added, (line.awaitDecision host).2.passed = line.passed ++ added ∧
      (line.awaitDecision host).2.Along peer ∧
      Deciding host added (line.awaitDecision host).1 := by
  fun_induction awaitDecision line host with
  | case1 line fault after read =>
      have hearing := readPayload_hearing along
      rw [read] at hearing
      cases hearing with
      | unheard along passed => exact ⟨_, passed, along, .undecided (List.forall_mem_nil _) fault⟩
  | case2 line payload after read notice ih =>
      have hearing := readPayload_hearing along
      rw [read] at hearing
      cases hearing with
      | heard along passed =>
          obtain ⟨added, more, along, deciding⟩ := ih along
          refine ⟨.heard payload :: added, ?_, along, deciding.later (decide_eq_true notice)⟩
          rw [more, passed, List.append_assoc, List.singleton_append]
  | case3 line payload after read decides =>
      have hearing := readPayload_hearing along
      rw [read] at hearing
      cases hearing with
      | heard along passed =>
          have decisive : ¬ isNotice payload := by simpa [isNotice] using decides
          exact ⟨_, passed, along, .decided (List.forall_mem_nil _) decisive⟩

theorem introduce_admission (along : line.Along peer) (caller : Caller) :
    ∃ added, (line.introduce caller.host caller.identity).2.passed = line.passed ++ added ∧
      (line.introduce caller.host caller.identity).2.Along peer ∧
      Admission caller added (line.introduce caller.host caller.identity).1 := by
  have sending := send_sending along (authPacket caller.identity)
  unfold introduce
  generalize line.send (authPacket caller.identity) = sent at sending ⊢
  cases sending with
  | unsent along passed => exact ⟨_, passed, along, .unsent _⟩
  | wrote along passed =>
      obtain ⟨added, more, along, deciding⟩ := awaitDecision_deciding along caller.host
      refine ⟨_, ?_, along, .asked deciding⟩
      rw [more, passed, List.append_assoc, List.singleton_append]

theorem tellKeys_telling (along : line.Along peer) (host : String) (keys : List String) :
    ∃ added, (line.tellKeys host keys).2.passed = line.passed ++ added ∧
      (line.tellKeys host keys).2.Along peer ∧ Telling host keys added (line.tellKeys host keys).1 := by
  induction keys generalizing line with
  | nil => exact ⟨[], (List.append_nil _).symm, along, .told rfl (List.forall_mem_nil _)⟩
  | cons key keys ih =>
      have sending := send_sending along (keyPacket key)
      unfold tellKeys
      generalize line.send (keyPacket key) = sent at sending ⊢
      cases sending with
      | unsent along passed => exact ⟨_, passed, along, .unsent rfl (List.forall_mem_nil _) _⟩
      | @wrote asked along passed =>
          have hearing := readPayload_hearing along
          dsimp only
          generalize asked.readPayload = answer at hearing ⊢
          cases hearing with
          | unheard along heard =>
              refine ⟨_, ?_, along, .unanswered rfl (List.forall_mem_nil _) _⟩
              rw [heard, passed, List.append_assoc]
              rfl
          | @heard payload after along heard =>
              dsimp only
              split
              · rename_i denial
                refine ⟨_, ?_, along, .denied rfl (List.forall_mem_nil _) (decide_eq_true denial)⟩
                rw [heard, passed, List.append_assoc]
                rfl
              · rename_i accepted
                obtain ⟨added, more, along, telling⟩ := ih along
                refine ⟨_, ?_, along, telling.next (by simpa [isDenial] using accepted)⟩
                rw [more, heard, passed, List.append_assoc, List.append_assoc]
                rfl

end Line

end Televisor.Remote
