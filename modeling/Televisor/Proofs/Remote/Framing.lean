import Televisor.Proofs.Text.Base64
import Televisor.Proofs.Text.Utf8
import Televisor.Remote.Key
import Televisor.Remote.Reading

namespace Televisor.Remote

open Text

/-! Reading frames is the inverse of writing them, as long as their lengths fit into two bytes. -/

/-- The bytes of a frame. -/
def Frame.packet (frame : Frame) : List UInt8 :=
  frame.kind :: field frame.name ++ field frame.payload

/-- Both lengths can be written in two bytes. -/
structure Frame.Fits (frame : Frame) : Prop where
  name : frame.name.length < 65536
  payload : frame.payload.length < 65536

theorem lengthBytes_inj {length other : Nat} (same : lengthBytes length = lengthBytes other) :
    length % 65536 = other % 65536 := by
  simp only [lengthBytes, List.cons.injEq, and_true] at same
  obtain ⟨low, high⟩ := same
  have low := congrArg UInt8.toNat low
  have high := congrArg UInt8.toNat high
  simp only [UInt8.toNat_ofNat'] at low high
  omega

/-- Two bytes tell a length from whatever follows it. -/
theorem lengthBytes_append_inj {length other : Nat} {bytes rest : List UInt8}
    (same : lengthBytes length ++ bytes = lengthBytes other ++ rest) :
    lengthBytes length = lengthBytes other ∧ bytes = rest :=
  List.append_inj same rfl

theorem lengthBytes_read (low high : UInt8) :
    lengthBytes (low.toNat + 256 * high.toNat) = [low, high] := by
  have lowSize := low.toNat_lt
  have highSize := high.toNat_lt
  have lowByte : (low.toNat + 256 * high.toNat) % 256 = low.toNat := by omega
  have highByte : (low.toNat + 256 * high.toNat) / 256 % 256 = high.toNat := by omega
  rw [lengthBytes, lowByte, highByte, UInt8.ofNat_toNat, UInt8.ofNat_toNat]

theorem takeExactly?_eq_some {count : Nat} {bytes data rest : List UInt8} :
    takeExactly? count bytes = some (data, rest) ↔ bytes = data ++ rest ∧ data.length = count := by
  unfold takeExactly?
  constructor
  · intro taken
    split at taken
    · rename_i enough
      cases taken
      exact ⟨(List.take_append_drop _ _).symm, by simp [enough]⟩
    · contradiction
  · rintro ⟨rfl, rfl⟩
    rw [if_pos (by simp), List.take_left, List.drop_left]

theorem readField?_eq_some {bytes data rest : List UInt8} :
    readField? bytes = some (data, rest) ↔ bytes = field data ++ rest ∧ data.length < 65536 := by
  constructor
  · intro read
    match bytes, read with
    | low :: high :: bytes, read =>
        obtain ⟨same, length⟩ := takeExactly?_eq_some.mp read
        have lowSize := low.toNat_lt
        have highSize := high.toNat_lt
        refine ⟨?_, by omega⟩
        rw [field, length, lengthBytes_read, same]
        rfl
  · rintro ⟨rfl, small⟩
    have low := UInt8.toNat_ofNat' (n := data.length % 256)
    have high := UInt8.toNat_ofNat' (n := data.length / 256 % 256)
    refine takeExactly?_eq_some.mpr ⟨rfl, ?_⟩
    omega

/-- Reading accepts exactly what writing makes of frames whose lengths fit. -/
theorem readFrame?_eq_some {bytes rest : List UInt8} {frame : Frame} :
    readFrame? bytes = some (frame, rest) ↔ bytes = frame.packet ++ rest ∧ frame.Fits := by
  cases bytes with
  | nil => simp [readFrame?, Frame.packet]
  | cons kind bytes =>
      simp only [readFrame?, Option.bind_eq_bind, Option.bind_eq_some_iff, Prod.exists,
        Option.pure_def, Option.some.injEq, Prod.mk.injEq, readField?_eq_some, Frame.packet]
      constructor
      · rintro ⟨name, _, ⟨rfl, nameFits⟩, payload, _, ⟨rfl, payloadFits⟩, rfl, rfl⟩
        exact ⟨by simp, nameFits, payloadFits⟩
      · rintro ⟨same, nameFits, payloadFits⟩
        simp only [List.cons_append, List.cons.injEq, List.append_assoc] at same
        obtain ⟨rfl, rfl⟩ := same
        exact ⟨_, _, ⟨rfl, nameFits⟩, _, _, ⟨rfl, payloadFits⟩, rfl, rfl⟩

theorem frame_packet (payload : List UInt8) : frame payload = Frame.packet ⟨0, [], payload⟩ :=
  rfl

theorem readFrame?_frame {payload : List UInt8} (small : payload.length < 65536)
    (rest : List UInt8) : readFrame? (frame payload ++ rest) = some (⟨0, [], payload⟩, rest) :=
  readFrame?_eq_some.mpr ⟨rfl, by simp, small⟩

/-- A frame without a name is the frame of no other payload. -/
theorem packet_eq_frame {other : Frame} {payload : List UInt8} (fits : other.Fits)
    (same : other.packet = frame payload) : other.payload = payload := by
  rw [frame_packet] at same
  simp only [Frame.packet, List.cons_append, List.cons.injEq, field, List.append_assoc] at same
  obtain ⟨names, rest⟩ := lengthBytes_append_inj same.2
  have unnamed : other.name = [] := by
    have length := lengthBytes_inj names
    have nameFits := fits.name
    simp only [List.length_nil] at length
    exact List.length_eq_zero_iff.mp (by omega)
  rw [unnamed] at rest
  exact (lengthBytes_append_inj rest).2

theorem packet_ne_frame {payload : List UInt8} (large : 65536 ≤ payload.length) {found : Frame}
    (fits : found.Fits) : found.packet ≠ frame payload := by
  intro same
  have payloadFits := fits.payload
  rw [packet_eq_frame fits same] at payloadFits
  omega

/-- No reading ends where a frame ends whose payload is too long. -/
theorem readFrame?_overlong {payload : List UInt8} (large : 65536 ≤ payload.length)
    (found : Frame) (rest : List UInt8) : readFrame? (frame payload ++ rest) ≠ some (found, rest) := by
  intro read
  obtain ⟨same, fits⟩ := readFrame?_eq_some.mp read
  exact packet_ne_frame large fits (List.append_cancel_right same).symm

section Texts

variable (text : String)

theorem textBytes_length : (textBytes text).length = 4 * ((text.utf8ByteSize + 2) / 3) := by
  rw [textBytes, List.length_map, Base64.encode_length, utf8Bytes_length]

theorem textBytes_chars :
    (textBytes text).map (fun byte => Char.ofNat byte.toNat) = Base64.encode (utf8Bytes text.toList) := by
  have ascii := Base64.encode_ascii (utf8Bytes text.toList)
  rw [textBytes, List.map_map]
  refine (List.map_congr_left fun c member => ?_).trans (List.map_id' _)
  rw [Function.comp_apply, toNat_ofNat (Nat.lt_trans (ascii c member) (by decide)), Char.ofNat_toNat]

theorem readText?_textField (small : (textBytes text).length < 65536) (rest : List UInt8) :
    readText? (textField text ++ rest) = some (text, rest) := by
  have read : readField? (textField text ++ rest) = some (textBytes text, rest) :=
    readField?_eq_some.mpr ⟨rfl, small⟩
  simp only [readText?, readTextField?, read, Option.bind_eq_bind, Option.bind_some, textBytes_chars,
    Base64.decode?_encode, Option.pure_def, textOfUtf8?_utf8Bytes]

theorem textBytes_injective : Function.Injective textBytes := by
  intro text other same
  have digits := congrArg (List.map fun byte => Char.ofNat byte.toNat) same
  rw [textBytes_chars, textBytes_chars] at digits
  have bytes := congrArg Base64.decode? digits
  rw [Base64.decode?_encode, Base64.decode?_encode, Option.some.injEq] at bytes
  have texts := congrArg textOfUtf8? bytes
  rw [textOfUtf8?_utf8Bytes, textOfUtf8?_utf8Bytes, Option.some.injEq] at texts
  exact texts

theorem textField_length : (textField text).length = 2 + (textBytes text).length := by
  simp only [textField, field, lengthBytes, List.length_append, List.length_cons, List.length_nil]

end Texts

theorem keyPayload_length (key : String) :
    (keyPayload key).length = 5 + (textBytes key).length := by
  simp only [keyPayload, List.length_cons, textField_length]
  omega

theorem authPayload_length (identity : Identity) :
    (authPayload identity).length = 2 + ((2 + (textBytes identity.description).length) +
      (2 + (textBytes identity.id).length) + (2 + (textBytes identity.name).length)) := by
  simp only [authPayload, List.length_cons, List.length_append, textField_length]
  omega

theorem readKey?_keyPayload {key : String} (small : (keyPayload key).length ≤ 65535) :
    readKey? (keyPayload key) = some key := by
  rw [keyPayload_length] at small
  have read := readText?_textField key (by omega) []
  rw [List.append_nil] at read
  simp only [keyPayload, readKey?, read, Option.bind_eq_bind, Option.bind_some, List.isEmpty_nil,
    if_true]

theorem readIdentity?_authPayload {identity : Identity}
    (small : (authPayload identity).length ≤ 65535) :
    readIdentity? (authPayload identity) = some identity := by
  rw [authPayload_length] at small
  have readName := readText?_textField identity.name (by omega) []
  rw [List.append_nil] at readName
  simp only [authPayload, readIdentity?, List.append_assoc, List.cons_append,
    readText?_textField identity.description (by omega),
    readText?_textField identity.id (by omega), readName, Option.bind_eq_bind,
    Option.bind_some, List.isEmpty_nil, if_true]

theorem readKeys?_keyPacket {key : String} (small : (keyPayload key).length ≤ 65535)
    (rest : List UInt8) :
    readKeys? (keyPacket key ++ rest) = (readKeys? rest).map (key :: ·) := by
  have read := readFrame?_frame (show (keyPayload key).length < 65536 by omega) rest
  rw [readKeys?]
  split
  · rename_i none
    rw [keyPacket, read] at none
    exact (Option.some_ne_none _ none).elim
  · rename_i found left some
    rw [keyPacket, read, Option.some.injEq, Prod.mk.injEq] at some
    obtain ⟨rfl, rfl⟩ := some
    rw [readKey?_keyPayload small]
    cases readKeys? rest <;> rfl

theorem readKeys?_keyPackets {keys : List String}
    (small : ∀ key ∈ keys, (keyPayload key).length ≤ 65535) :
    readKeys? (keys.flatMap keyPacket) = some keys := by
  induction keys with
  | nil => simp [readKeys?, readFrame?]
  | cons key keys ih =>
      have others : ∀ key ∈ keys, (keyPayload key).length ≤ 65535 :=
        fun other member => small other (List.mem_cons_of_mem _ member)
      rw [List.flatMap_cons, readKeys?_keyPacket (small key List.mem_cons_self), ih others,
        Option.map_some]

theorem keyPacket_injective : Function.Injective keyPacket := by
  intro key other same
  simp only [keyPacket, frame, keyPayload, textField, field, List.cons_append, List.append_assoc,
    List.cons.injEq, List.append_cancel_left_eq] at same
  obtain ⟨_, payloads⟩ := lengthBytes_append_inj same.2
  simp only [List.cons.injEq, true_and] at payloads
  exact textBytes_injective (lengthBytes_append_inj payloads).2

/-- How what follows a packet is told from the packet: it is, if the payload's length can be written
in two bytes, and cannot be if not. -/
structure Delimited (packet payload : List UInt8) : Prop where
  exact : payload.length ≤ 65535 →
    ∀ rest, readFrame? (packet ++ rest) = some (⟨0, [], payload⟩, rest)
  overlong : 65535 < payload.length →
    ∀ found rest, readFrame? (packet ++ rest) ≠ some (found, rest)
  noFrame : 65535 < payload.length → ∀ found : Frame, found.Fits → found.packet ≠ packet

theorem frame_delimited (payload : List UInt8) : Delimited (frame payload) payload where
  exact small := readFrame?_frame (by omega)
  overlong large := readFrame?_overlong (by omega)
  noFrame large _ fits := packet_ne_frame (by omega) fits

/-- Packets can be told from what follows them and read back as long as their payloads' lengths can
be written in two bytes, and only then. -/
theorem packets_readable :
    (∀ text, (textBytes text).length = 4 * ((text.utf8ByteSize + 2) / 3)) ∧
    (∀ key, (keyPayload key).length = 5 + (textBytes key).length ∧
      Delimited (keyPacket key) (keyPayload key) ∧
      ((keyPayload key).length ≤ 65535 → readKey? (keyPayload key) = some key)) ∧
    (∀ identity, (authPayload identity).length = 2 +
        ((2 + (textBytes identity.description).length) + (2 + (textBytes identity.id).length) +
          (2 + (textBytes identity.name).length)) ∧
      Delimited (authPacket identity) (authPayload identity) ∧
      ((authPayload identity).length ≤ 65535 →
        readIdentity? (authPayload identity) = some identity)) ∧
    (∀ keys, (∀ key ∈ keys, (keyPayload key).length ≤ 65535) →
      readKeys? (keys.flatMap keyPacket) = some keys) ∧
    Function.Injective keyPacket := by
  refine ⟨textBytes_length, fun key => ?_, fun identity => ?_, ?_, keyPacket_injective⟩
  · exact ⟨keyPayload_length key, frame_delimited _, readKey?_keyPayload⟩
  · exact ⟨authPayload_length identity, frame_delimited _, readIdentity?_authPayload⟩
  · exact fun keys => readKeys?_keyPackets

theorem replicate_utf8ByteSize (count : Nat) :
    (String.ofList (List.replicate count 'K')).utf8ByteSize = count := by
  have letter : (String.utf8EncodeChar 'K').length = 1 := rfl
  rw [← utf8Bytes_length, String.toList_ofList, utf8Bytes, List.length_flatMap, List.map_replicate,
    List.sum_replicate_nat, letter, Nat.mul_one]

/-- The shortest key of ASCII letters whose packet cannot be read. -/
def longKey : String :=
  String.ofList (List.replicate 49147 'K')

theorem packets_readable_limit :
    (keyPayload Key.mute).length ≤ 65535 ∧ readKey? (keyPayload Key.mute) = some Key.mute ∧
      65535 < (keyPayload longKey).length ∧
      ∀ found rest, readFrame? (keyPacket longKey ++ rest) ≠ some (found, rest) := by
  obtain ⟨_, keys, _⟩ := packets_readable
  have small : (keyPayload Key.mute).length ≤ 65535 := by decide +kernel
  have large : 65535 < (keyPayload longKey).length := by
    have payload := keyPayload_length longKey
    have digits := textBytes_length longKey
    have size : longKey.utf8ByteSize = 49147 := replicate_utf8ByteSize 49147
    omega
  exact ⟨small, (keys _).2.2 small, large, (keys _).2.1.overlong large⟩

end Televisor.Remote
