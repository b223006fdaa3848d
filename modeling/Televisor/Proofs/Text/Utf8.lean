import Mathlib.Tactic.SplitIfs
import Televisor.Text.Utf8

namespace Televisor.Text

/-! Reading UTF-8 back. -/

theorem tailBits_ofNat {bits : Nat} (small : bits < 64) :
    tailBits (UInt8.ofNat (bits + 128)) = bits := by
  rw [tailBits, UInt8.toNat_ofNat']
  omega

theorem isContinuation_ofNat {bits : Nat} (small : bits < 64) :
    isContinuation (UInt8.ofNat (bits + 128)) = true := by
  simp only [isContinuation, Bool.and_eq_true, decide_eq_true_eq, UInt8.le_iff_toNat_le,
    UInt8.toNat_ofNat', UInt8.reduceToNat]
  omega

/-- Behind four lead bytes a part of the continuation bytes is left out: the characters they would
make have a shorter form, are surrogates or lie beyond the last character. -/
theorem isSecond_ofNat {lead bits : Nat} (byte : lead < 256) (small : bits < 64)
    (long3 : lead = 0xE0 → 32 ≤ bits) (noSurrogate : lead = 0xED → bits < 32)
    (long4 : lead = 0xF0 → 16 ≤ bits) (inside : lead = 0xF4 → bits < 16) :
    isSecond (UInt8.ofNat lead) (UInt8.ofNat (bits + 128)) = true := by
  simp only [isSecond, beq_iff_eq, ← UInt8.toNat_inj, UInt8.toNat_ofNat', UInt8.reduceToNat]
  rw [Nat.mod_eq_of_lt byte]
  simp only [isContinuation, UInt8.le_iff_toNat_le, UInt8.toNat_ofNat', UInt8.reduceToNat]
  split_ifs <;> simp only [Bool.and_eq_true, decide_eq_true_eq] <;> omega

theorem toNat_ofNat {value : Nat} (byte : value < 256) : (UInt8.ofNat value).toNat = value :=
  UInt8.toNat_ofNat_of_lt' byte

section Head

variable {lead second third fourth : Nat} (rest : List UInt8)

theorem headChar_one (small : lead < 128) :
    headChar (UInt8.ofNat lead) rest = (some (Char.ofNat lead), 0) := by
  have size := toNat_ofNat (show lead < 256 by omega)
  unfold headChar
  simp only [UInt8.lt_iff_toNat_lt, size, UInt8.reduceToNat, small, if_pos]

theorem headChar_two (low : 2 ≤ lead) (high : lead < 32) (bits : second < 64) :
    headChar (UInt8.ofNat (lead + 192)) (UInt8.ofNat (second + 128) :: rest) =
      (some (Char.ofNat (lead * 64 + second)), 1) := by
  have size := toNat_ofNat (show lead + 192 < 256 by omega)
  have follows : isSecond (UInt8.ofNat (lead + 192)) (UInt8.ofNat (second + 128)) = true :=
    isSecond_ofNat (by omega) bits (by omega) (by omega) (by omega) (by omega)
  have several : ¬ lead + 192 < 128 := by omega
  have known : ¬ (lead + 192 < 194 ∨ 244 < lead + 192) := by omega
  have two : lead + 192 < 224 := by omega
  have value : (lead + 192) % 32 = lead := by omega
  unfold headChar
  simp only [UInt8.lt_iff_toNat_lt, size, UInt8.reduceToNat, several, known, two, follows,
    tailBits_ofNat bits, value, Bool.or_eq_true, decide_eq_true_eq, if_true, if_false,
    Bool.not_true, Bool.false_eq_true]

theorem headChar_three (high : lead < 16) (bits : second < 64) (bits' : third < 64)
    (long : lead = 0 → 32 ≤ second) (noSurrogate : lead = 13 → second < 32) :
    headChar (UInt8.ofNat (lead + 224))
        (UInt8.ofNat (second + 128) :: UInt8.ofNat (third + 128) :: rest) =
      (some (Char.ofNat (lead * 4096 + second * 64 + third)), 2) := by
  have size := toNat_ofNat (show lead + 224 < 256 by omega)
  have follows : isSecond (UInt8.ofNat (lead + 224)) (UInt8.ofNat (second + 128)) = true :=
    isSecond_ofNat (by omega) bits (by omega) (by omega) (by omega) (by omega)
  have several : ¬ lead + 224 < 128 := by omega
  have known : ¬ (lead + 224 < 194 ∨ 244 < lead + 224) := by omega
  have notTwo : ¬ lead + 224 < 224 := by omega
  have three : lead + 224 < 240 := by omega
  have value : (lead + 224) % 16 = lead := by omega
  unfold headChar
  simp only [UInt8.lt_iff_toNat_lt, size, UInt8.reduceToNat, several, known, notTwo, three, follows,
    isContinuation_ofNat bits', tailBits_ofNat bits, tailBits_ofNat bits', value, Bool.or_eq_true,
    decide_eq_true_eq, if_true, if_false, Bool.not_true, Bool.false_eq_true]

theorem headChar_four (high : lead < 5) (bits : second < 64) (bits' : third < 64)
    (bits'' : fourth < 64) (long : lead = 0 → 16 ≤ second) (inside : lead = 4 → second < 16) :
    headChar (UInt8.ofNat (lead + 240))
        (UInt8.ofNat (second + 128) :: UInt8.ofNat (third + 128) :: UInt8.ofNat (fourth + 128) ::
          rest) =
      (some (Char.ofNat (lead * 262144 + second * 4096 + third * 64 + fourth)), 3) := by
  have size := toNat_ofNat (show lead + 240 < 256 by omega)
  have follows : isSecond (UInt8.ofNat (lead + 240)) (UInt8.ofNat (second + 128)) = true :=
    isSecond_ofNat (by omega) bits (by omega) (by omega) (by omega) (by omega)
  have several : ¬ lead + 240 < 128 := by omega
  have known : ¬ (lead + 240 < 194 ∨ 244 < lead + 240) := by omega
  have notTwo : ¬ lead + 240 < 224 := by omega
  have notThree : ¬ lead + 240 < 240 := by omega
  have value : (lead + 240) % 8 = lead := by omega
  unfold headChar
  simp only [UInt8.lt_iff_toNat_lt, size, UInt8.reduceToNat, several, known, notTwo, notThree,
    follows, isContinuation_ofNat bits', isContinuation_ofNat bits'', tailBits_ofNat bits,
    tailBits_ofNat bits', tailBits_ofNat bits'', value, Bool.or_eq_true, decide_eq_true_eq, if_false,
    Bool.not_true, Bool.false_eq_true]

end Head

theorem charOf_code {value : Nat} {c : Char} (same : value = c.toNat) : Char.ofNat value = c := by
  rw [same, Char.ofNat_toNat]

theorem headChar_encoded (c : Char) (rest : List UInt8) :
    ∃ lead tail, String.utf8EncodeChar c = lead :: tail ∧
      headChar lead (tail ++ rest) = (some c, tail.length) := by
  have valid : c.toNat < 0xD800 ∨ 0xDFFF < c.toNat ∧ c.toNat < 0x110000 := c.valid
  have point : c.val.toNat = c.toNat := rfl
  simp only [String.utf8EncodeChar, point]
  generalize same : c.toNat = code at *
  split_ifs with one two three
  · refine ⟨_, _, rfl, ?_⟩
    rw [List.nil_append, headChar_one _ (by omega), ← same, Char.ofNat_toNat]
    rfl
  · refine ⟨_, _, rfl, ?_⟩
    rw [List.singleton_append, headChar_two _ (by omega) (by omega) (by omega),
      charOf_code (show _ = c.toNat by omega)]
    rfl
  · refine ⟨_, _, rfl, ?_⟩
    rw [List.cons_append, List.singleton_append,
      headChar_three _ (by omega) (by omega) (by omega) (by omega) (by omega),
      charOf_code (show _ = c.toNat by omega)]
    rfl
  · refine ⟨_, _, rfl, ?_⟩
    rw [List.cons_append, List.cons_append, List.singleton_append,
      headChar_four _ (by omega) (by omega) (by omega) (by omega) (by omega) (by omega),
      charOf_code (show _ = c.toNat by omega)]
    rfl

theorem utf8Bytes_length (text : String) : (utf8Bytes text.toList).length = text.utf8ByteSize := by
  rw [← String.size_toByteArray, ← String.utf8Encode_toList, List.utf8Encode, List.size_toByteArray]
  rfl

theorem decodeUtf8_encoded (c : Char) (rest : List UInt8) :
    decodeUtf8 (String.utf8EncodeChar c ++ rest) = some c :: decodeUtf8 rest := by
  obtain ⟨lead, tail, bytes, head⟩ := headChar_encoded c rest
  rw [bytes, List.cons_append, decodeUtf8, head, List.drop_left]

theorem decodeUtf8_utf8Bytes (text : List Char) : decodeUtf8 (utf8Bytes text) = text.map some := by
  induction text with
  | nil => simp [utf8Bytes, decodeUtf8]
  | cons c text ih =>
      rw [utf8Bytes, List.flatMap_cons, decodeUtf8_encoded, ← utf8Bytes, ih, List.map_cons]

theorem textOfUtf8?_utf8Bytes (text : String) : textOfUtf8? (utf8Bytes text.toList) = some text := by
  have whole : (text.toList.map some).mapM id = some text.toList := by
    rw [List.mapM_map]
    simpa using List.mapM_pure (m := Option) (l := text.toList) (f := id)
  rw [textOfUtf8?, decodeUtf8_utf8Bytes, whole, Option.map_some, String.ofList_toList]

end Televisor.Text
