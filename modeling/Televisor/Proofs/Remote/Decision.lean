import Televisor.Proofs.Remote.Dialogue

namespace Televisor.Remote

open Text

/-! What a television decides, told from the bytes that it sends when a client has introduced itself.
Any bytes are notices that it waits for somebody to decide, and then either a frame that is no notice,
whatever follows it, or no more than the beginning of a frame. -/

/-- No frame is the beginning of another, whatever follows either. -/
theorem packet_append_inj {frame other : Frame} {rest more : List UInt8} (fits : frame.Fits)
    (otherFits : other.Fits) (same : frame.packet ++ rest = other.packet ++ more) :
    frame = other ∧ rest = more := by
  have read : readFrame? (frame.packet ++ rest) = some (frame, rest) :=
    readFrame?_eq_some.mpr ⟨rfl, fits⟩
  rw [same, readFrame?_eq_some.mpr ⟨rfl, otherFits⟩, Option.some.injEq, Prod.mk.injEq] at read
  exact ⟨read.1.symm, read.2.symm⟩

theorem readField?_none {bytes : List UInt8} (short : readField? bytes = none) :
    ∃ data more, data.length < 65536 ∧ more ≠ [] ∧ field data = bytes ++ more := by
  match bytes, short with
  | [], _ => exact ⟨[], [0, 0], by decide, by decide, rfl⟩
  | [low], _ =>
      have size := low.toNat_lt
      refine ⟨List.replicate low.toNat 0, 0 :: List.replicate low.toNat 0, ?_, nofun, ?_⟩
      · rw [List.length_replicate]
        omega
      · have length := lengthBytes_read low 0
        rw [show low.toNat + 256 * (0 : UInt8).toNat = low.toNat from rfl] at length
        rw [field, List.length_replicate, length]
        rfl
  | low :: high :: begun, short =>
      have lowSize := low.toNat_lt
      have highSize := high.toNat_lt
      have missing : begun.length < low.toNat + 256 * high.toNat := by
        refine Nat.lt_of_not_le fun enough => ?_
        simp [readField?, takeExactly?, enough] at short
      generalize count : low.toNat + 256 * high.toNat = length at missing
      refine ⟨begun ++ List.replicate (length - begun.length) 0,
        List.replicate (length - begun.length) 0, ?_, ?_, ?_⟩
      · simp only [List.length_append, List.length_replicate]
        omega
      · rw [Ne, List.replicate_eq_nil_iff]
        omega
      · have whole : (begun ++ List.replicate (length - begun.length) (0 : UInt8)).length = length := by
          simp only [List.length_append, List.length_replicate]
          omega
        rw [field, whole, ← count, lengthBytes_read]
        rfl

/-- The beginning of a frame, without all of it. -/
def Begun (bytes : List UInt8) : Prop :=
  ∃ frame : Frame, frame.Fits ∧ ∃ more, more ≠ [] ∧ frame.packet = bytes ++ more

/-- Where no whole frame can be read, one has begun. -/
theorem readFrame?_eq_none {bytes : List UInt8} : readFrame? bytes = none ↔ Begun bytes := by
  constructor
  · intro short
    cases bytes with
    | nil => exact ⟨⟨0, [], []⟩, ⟨by decide, by decide⟩, _, List.cons_ne_nil _ _, rfl⟩
    | cons kind bytes =>
        cases name : readField? bytes with
        | none =>
            obtain ⟨data, more, small, missing, same⟩ := readField?_none name
            refine ⟨⟨kind, data, []⟩, ⟨small, Nat.zero_lt_succ _⟩, more ++ field [], ?_, ?_⟩
            · exact List.append_ne_nil_of_left_ne_nil missing _
            · simp only [Frame.packet, same, List.cons_append, List.append_assoc]
        | some found =>
            obtain ⟨data, rest⟩ := found
            obtain ⟨same, small⟩ := readField?_eq_some.mp name
            have unread : readField? rest = none := by
              cases payload : readField? rest with
              | none => rfl
              | some found => simp [readFrame?, name, payload] at short
            obtain ⟨payload, more, fits, missing, whole⟩ := readField?_none unread
            refine ⟨⟨kind, data, payload⟩, ⟨small, fits⟩, more, missing, ?_⟩
            simp only [Frame.packet, same, whole, List.cons_append, List.append_assoc]
  · rintro ⟨frame, fits, more, missing, whole⟩
    cases read : readFrame? bytes with
    | none => rfl
    | some found =>
        obtain ⟨found, rest⟩ := found
        obtain ⟨same, foundFits⟩ := readFrame?_eq_some.mp read
        rw [same, List.append_assoc, ← List.append_nil frame.packet] at whole
        have ended := (packet_append_inj fits foundFits whole).2
        exact absurd (List.append_eq_nil_iff.mp ended.symm).2 missing

/-- A frame that says that the television waits for somebody to decide. -/
structure Frame.Waits (frame : Frame) : Prop extends frame.Fits where
  notice : frame.payload.head? = some 0x0A

/-- Bytes that hold a decision: notices, the frame that decides, and what follows. -/
structure Decided (notices : List Frame) (deciding : Frame) (rest bytes : List UInt8) : Prop where
  waiting : ∀ notice ∈ notices, notice.Waits
  fits : deciding.Fits
  decides : deciding.payload.head? ≠ some 0x0A
  whole : bytes = notices.flatMap Frame.packet ++ (deciding.packet ++ rest)

/-- Bytes that end before there is a decision. -/
structure Undecided (notices : List Frame) (begun bytes : List UInt8) : Prop where
  waiting : ∀ notice ∈ notices, notice.Waits
  begins : Begun begun
  whole : bytes = notices.flatMap Frame.packet ++ begun

section Bytes

variable {notices : List Frame} {notice deciding : Frame} {bytes rest begun : List UInt8}

theorem Decided.later (decided : Decided notices deciding rest bytes) (waits : notice.Waits) :
    Decided (notice :: notices) deciding rest (notice.packet ++ bytes) where
  waiting := List.forall_mem_cons.mpr ⟨waits, decided.waiting⟩
  fits := decided.fits
  decides := decided.decides
  whole := by rw [decided.whole, List.flatMap_cons, List.append_assoc]

theorem Undecided.later (undecided : Undecided notices begun bytes) (waits : notice.Waits) :
    Undecided (notice :: notices) begun (notice.packet ++ bytes) where
  waiting := List.forall_mem_cons.mpr ⟨waits, undecided.waiting⟩
  begins := undecided.begins
  whole := by rw [undecided.whole, List.flatMap_cons, List.append_assoc]

/-- There is a decision in any bytes, or they end before there is one. -/
theorem decided_or_undecided (bytes : List UInt8) :
    (∃ notices deciding rest, Decided notices deciding rest bytes) ∨
      ∃ notices begun, Undecided notices begun bytes := by
  cases read : readFrame? bytes with
  | none => exact .inr ⟨[], bytes, List.forall_mem_nil _, readFrame?_eq_none.mp read, rfl⟩
  | some found =>
      obtain ⟨frame, rest⟩ := found
      obtain ⟨same, fits⟩ := readFrame?_eq_some.mp read
      by_cases notice : frame.payload.head? = some 0x0A
      · rw [same]
        rcases decided_or_undecided rest with
          ⟨notices, deciding, after, decided⟩ | ⟨notices, begun, undecided⟩
        · exact .inl ⟨_, deciding, after, decided.later ⟨fits, notice⟩⟩
        · exact .inr ⟨_, begun, undecided.later ⟨fits, notice⟩⟩
      · exact .inl ⟨[], frame, rest, List.forall_mem_nil _, fits, notice, same⟩
termination_by bytes.length
decreasing_by exact readFrame?_length read

end Bytes

theorem ofPayload_eq_waiting {payload : List UInt8} :
    Verdict.ofPayload payload = .waiting ↔ payload.head? = some 0x0A := by
  unfold Verdict.ofPayload
  constructor
  · intro waiting
    split at waiting
    · contradiction
    · split at waiting
      · contradiction
      · split at waiting
        · assumption
        · contradiction
  · intro notice
    have notGranted : payload ≠ [0x64, 0x00, 0x01, 0x00] := by
      rintro rfl
      contradiction
    have notDenied : payload ≠ [0x64, 0x00, 0x00, 0x00] := by
      rintro rfl
      contradiction
    simp [notGranted, notDenied, notice]

/-- What the first answer that is no notice comes to. -/
inductive Settles : List UInt8 → Except Failure Unit → Prop where
  | granted : Settles [0x64, 0x00, 0x01, 0x00] (.ok ())
  | denied : Settles [0x64, 0x00, 0x00, 0x00] (.error .accessDenied)
  | cancelled (more : List UInt8) : Settles (0x65 :: more) (.error .accessDenied)
  | unknown {payload : List UInt8} (notGranted : payload ≠ [0x64, 0x00, 0x01, 0x00])
      (notDenied : payload ≠ [0x64, 0x00, 0x00, 0x00]) (notCancelled : payload.head? ≠ some 0x65)
      (notNotice : payload.head? ≠ some 0x0A) :
      Settles payload (.error (.unexpected (payloadText payload)))

theorem readDecision_settles {payload : List UInt8} (decides : payload.head? ≠ some 0x0A) :
    Settles payload (readDecision payload) := by
  by_cases isGrant : payload = [0x64, 0x00, 0x01, 0x00]
  · subst isGrant
    exact .granted
  by_cases isDenial : payload = [0x64, 0x00, 0x00, 0x00]
  · subst isDenial
    exact .denied
  by_cases isCancelled : payload.head? = some 0x65
  · obtain ⟨more, rfl⟩ := List.head?_eq_some_iff.mp isCancelled
    exact .cancelled more
  have unknown : Verdict.ofPayload payload = .unknown := by
    simp [Verdict.ofPayload, isGrant, isDenial, isCancelled, decides]
  rw [readDecision, unknown]
  exact .unknown isGrant isDenial isCancelled decides

theorem hexByte_injective : Function.Injective hexByte := by
  intro byte other same
  simp only [hexByte, List.cons.injEq, and_true] at same
  have digits {value known : Nat} (small : value < 16) (smallToo : known < 16)
      (same : hexDigit value = hexDigit known) : value = known := by
    have values := congrArg hexValue? same
    rwa [hexValue?_hexDigit small, hexValue?_hexDigit smallToo, Option.some.injEq] at values
  have size := byte.toNat_lt
  have otherSize := other.toNat_lt
  have high := digits (by omega) (by omega) same.1
  have low := digits (by omega) (by omega) same.2
  exact UInt8.toNat_inj.mp (by omega)

/-- Bytes as they are listed, each after the first behind a comma. -/
theorem listed_cons (first : UInt8) (rest : List UInt8) :
    [',', ' '].intercalate ((first :: rest).map hexByte) =
      hexByte first ++ rest.flatMap fun byte => ',' :: ' ' :: hexByte byte := by
  induction rest generalizing first with
  | nil => simp
  | cons second rest ih =>
      rw [List.map_cons, List.map_cons, List.intercalate_cons_cons, ← List.map_cons, ih second,
        List.flatMap_cons, List.append_assoc]
      rfl

theorem flatMap_hexByte_injective :
    Function.Injective (List.flatMap fun byte => ',' :: ' ' :: hexByte byte) := by
  intro bytes
  induction bytes with
  | nil =>
      rintro (_ | ⟨other, others⟩) same
      · rfl
      · cases same
  | cons byte bytes ih =>
      rintro (_ | ⟨other, others⟩) same
      · cases same
      · rw [List.flatMap_cons, List.flatMap_cons] at same
        obtain ⟨first, rest⟩ := List.append_inj same rfl
        rw [hexByte_injective (List.tail_eq_of_cons_eq (List.tail_eq_of_cons_eq first)), ih rest]

/-- An answer that cannot be understood is shown to its last byte. -/
theorem payloadText_injective : Function.Injective payloadText := by
  have spelled (payload : List UInt8) : (payloadText payload).toList =
      '[' :: ([',', ' '].intercalate (payload.map hexByte) ++ [']']) := by
    simp [payloadText, Function.comp_def]
  intro payload other same
  have texts := congrArg String.toList same
  rw [spelled, spelled, List.cons.injEq, List.append_cancel_right_eq] at texts
  have listed := texts.2
  rcases payload with _ | ⟨first, rest⟩ <;> rcases other with _ | ⟨second, others⟩
  · rfl
  · rw [listed_cons] at listed
    cases listed
  · rw [listed_cons] at listed
    cases listed
  · rw [listed_cons, listed_cons] at listed
    obtain ⟨heads, tails⟩ := List.append_inj listed rfl
    rw [hexByte_injective heads, flatMap_hexByte_injective tails]

namespace Line

variable {line : Line}

theorem readPayload_packet {frame : Frame} {rest : List UInt8} (fits : frame.Fits)
    (arrived : line.arrived = frame.packet ++ rest) : line.readPayload =
      (.ok frame.payload, { line.note (.heard frame.payload) with arrived := rest }) := by
  rw [readPayload, readFrame?_eq_some.mpr ⟨arrived, fits⟩]

theorem readPayload_begun (begun : Begun line.arrived) :
    line.readPayload = (.error line.shortage, line.note (.unheard line.shortage)) := by
  rw [readPayload, readFrame?_eq_none.mpr begun]

/-- What is left of a connection when these frames have been read, and what follows them has not. -/
def heard (line : Line) (frames : List Frame) (rest : List UInt8) : Line :=
  { line with arrived := rest, passed := line.passed ++ frames.map (.heard ·.payload) }

theorem awaitDecision_notice {notice : Frame} {rest : List UInt8} (host : String)
    (waits : notice.Waits) (arrived : line.arrived = notice.packet ++ rest) :
    line.awaitDecision host = (line.heard [notice] rest).awaitDecision host := by
  have read := readPayload_packet waits.toFits arrived
  rw [awaitDecision]
  split
  · rename_i failed
    rw [read] at failed
    cases failed
  · rename_i heard
    rw [read] at heard
    cases heard
    rw [if_pos (ofPayload_eq_waiting.mpr waits.notice)]
    rfl

theorem awaitDecision_decided {notices : List Frame} {deciding : Frame} {rest : List UInt8}
    (host : String) (decided : Decided notices deciding rest line.arrived) :
    line.awaitDecision host =
      (readDecision deciding.payload, line.heard (notices ++ [deciding]) rest) := by
  obtain ⟨waiting, fits, decides, whole⟩ := decided
  induction notices generalizing line with
  | nil =>
      have read := readPayload_packet fits whole
      rw [awaitDecision]
      split
      · rename_i failed
        rw [read] at failed
        cases failed
      · rename_i heard
        rw [read] at heard
        cases heard
        rw [if_neg (mt ofPayload_eq_waiting.mp decides)]
        rfl
  | cons notice notices ih =>
      rw [List.flatMap_cons, List.append_assoc] at whole
      obtain ⟨waits, others⟩ := List.forall_mem_cons.mp waiting
      rw [awaitDecision_notice host waits whole, ih others rfl]
      simp [heard]

theorem awaitDecision_undecided {notices : List Frame} {begun : List UInt8} (host : String)
    (undecided : Undecided notices begun line.arrived) :
    (line.awaitDecision host).1 = .error (line.shortage.failure host) := by
  obtain ⟨waiting, begins, whole⟩ := undecided
  induction notices generalizing line with
  | nil =>
      have unread := readPayload_begun (whole ▸ begins : Begun line.arrived)
      rw [awaitDecision]
      split
      · rename_i failed
        rw [unread] at failed
        cases failed
        rfl
      · rename_i heard
        rw [unread] at heard
        cases heard
  | cons notice notices ih =>
      rw [List.flatMap_cons, List.append_assoc] at whole
      obtain ⟨waits, others⟩ := List.forall_mem_cons.mp waiting
      rw [awaitDecision_notice host waits whole]
      exact ih others rfl

end Line

/-- The television cannot be talked to, or takes too long. -/
inductive Unreached (host : String) : Except Failure Unit → Prop where
  | timeout : Unreached host (.error (.timeout host))
  | connection (reason : String) : Unreached host (.error (.connection host reason))

theorem Fault.unreached (host : String) (fault : Fault) :
    Unreached host (.error (fault.failure host)) := by
  cases fault with
  | timeout => exact .timeout
  | broken reason => exact .connection reason

namespace Peer

/-- What comes for the first packet that the television is sent, if that goes out. -/
def answer (peer : Peer) : Except Fault (List UInt8) :=
  match peer.reactions with
  | [] => .ok []
  | .bytes bytes :: _ => .ok bytes
  | .fault fault :: _ => .error fault

/-- The connection when one packet has been sent and its answer has not been read. -/
def asked (peer : Peer) (packet bytes : List UInt8) : Line :=
  ⟨bytes, peer.reactions.tail, peer.last, [.wrote packet]⟩

variable {peer : Peer}

theorem introduce_answered {bytes : List UInt8} (host : String) (identity : Identity)
    (answers : peer.answer = .ok bytes) : peer.line.introduce host identity =
      (peer.asked (authPacket identity) bytes).awaitDecision host := by
  obtain ⟨reactions, last⟩ := peer
  match reactions, answers with
  | [], rfl => rfl
  | .bytes _ :: _, rfl => rfl

theorem introduce_unsent {fault : Fault} (host : String) (identity : Identity)
    (fails : peer.answer = .error fault) :
    (peer.line.introduce host identity).1 = .error (fault.failure host) := by
  obtain ⟨reactions, last⟩ := peer
  match reactions, fails with
  | .fault _ :: _, rfl => rfl

end Peer

/-- The first frame of a television that is no waiting notice decides, by its payload alone, and what
follows it has not been read when it has decided; if its bytes end before there is such a frame, or it
cannot be talked to at all, nothing is decided. -/
theorem first_answer_decides (caller : Caller) (peer : Peer) :
    let done := peer.line.introduce caller.host caller.identity
    (caller.introduce (.ok peer.line)).result = done.1 ∧
    (∀ bytes, peer.answer = .ok bytes →
      (∀ notices deciding rest, Decided notices deciding rest bytes →
        Settles deciding.payload done.1 ∧ done.2.arrived = rest ∧
        done.2.passed = .wrote (authPacket caller.identity) ::
          (notices ++ [deciding]).map (.heard ·.payload)) ∧
      (∀ notices begun, Undecided notices begun bytes → Unreached caller.host done.1) ∧
      ((∃ notices deciding rest, Decided notices deciding rest bytes) ∨
        ∃ notices begun, Undecided notices begun bytes)) ∧
    (∀ fault, peer.answer = .error fault → Unreached caller.host done.1) ∧
    (∀ fault, Unreached caller.host (caller.introduce (.error fault)).result) ∧
    Function.Injective payloadText := by
  intro done
  refine ⟨rfl, fun bytes answers => ⟨?_, ?_, decided_or_undecided bytes⟩, ?_, ?_,
    payloadText_injective⟩
  · intro notices deciding rest decided
    have settled := readDecision_settles decided.decides
    have ends : done = _ := (Peer.introduce_answered _ _ answers).trans
      (Line.awaitDecision_decided _ decided)
    rw [ends]
    exact ⟨settled, rfl, rfl⟩
  · intro notices begun undecided
    have ends : done.1 = _ := (congrArg Prod.fst (Peer.introduce_answered _ _ answers)).trans
      (Line.awaitDecision_undecided _ undecided)
    rw [ends]
    exact Fault.unreached _ _
  · intro fault fails
    have ends : done.1 = _ := Peer.introduce_unsent _ _ fails
    rw [ends]
    exact Fault.unreached _ _
  · exact fun fault => Fault.unreached _ fault

/-- Somebody is asked whether the client may come in, -/
def asking : Frame := ⟨0, [0x74, 0x76], [0x0A, 0x00, 0x02, 0x00]⟩

/-- and it may. -/
def allowing : Frame := ⟨2, [], [0x64, 0x00, 0x01, 0x00]⟩

/-- A television that allows the client to come in after a while, and says something more. -/
def hesitant : Peer :=
  ⟨[.bytes (asking.packet ++ (allowing.packet ++ [0x65, 0x00])), .bytes [0x65]], closed⟩

/-- A television that is switched off before it has said so. -/
def interrupted : Peer :=
  ⟨[.bytes (asking.packet ++ allowing.packet.dropLast)], closed⟩

def visitor : Caller := ⟨"10.0.0.9", ⟨"Bridge", "bridge", "tv.bridge"⟩⟩

theorem hesitant_admits :
    hesitant.answer = .ok (asking.packet ++ (allowing.packet ++ [0x65, 0x00])) ∧
    Decided [asking] allowing [0x65, 0x00] (asking.packet ++ (allowing.packet ++ [0x65, 0x00])) ∧
    (hesitant.line.introduce visitor.host visitor.identity).1 = .ok () ∧
    (hesitant.line.introduce visitor.host visitor.identity).2.arrived = [0x65, 0x00] ∧
    interrupted.answer = .ok (asking.packet ++ allowing.packet.dropLast) ∧
    Undecided [asking] allowing.packet.dropLast (asking.packet ++ allowing.packet.dropLast) ∧
    Unreached visitor.host (interrupted.line.introduce visitor.host visitor.identity).1 := by
  have waits : asking.Waits := ⟨⟨by decide, by decide⟩, rfl⟩
  have decided : Decided [asking] allowing [0x65, 0x00]
      (asking.packet ++ (allowing.packet ++ [0x65, 0x00])) :=
    ⟨List.forall_mem_singleton.mpr waits, ⟨by decide, by decide⟩, by decide, rfl⟩
  have begun : Begun allowing.packet.dropLast :=
    ⟨allowing, ⟨by decide, by decide⟩, [0x00], List.cons_ne_nil _ _, rfl⟩
  have undecided : Undecided [asking] allowing.packet.dropLast
      (asking.packet ++ allowing.packet.dropLast) :=
    ⟨List.forall_mem_singleton.mpr waits, begun, rfl⟩
  obtain ⟨settled, unread, _⟩ := ((first_answer_decides visitor hesitant).2.1 _ rfl).1 _ _ _ decided
  have unreached := ((first_answer_decides visitor interrupted).2.1 _ rfl).2.1 _ _ undecided
  refine ⟨rfl, decided, ?_, unread, rfl, undecided, unreached⟩
  generalize (hesitant.line.introduce visitor.host visitor.identity).1 = result at settled ⊢
  cases settled with
  | granted => rfl
  | unknown notGranted _ _ _ => exact absurd rfl notGranted

end Televisor.Remote
