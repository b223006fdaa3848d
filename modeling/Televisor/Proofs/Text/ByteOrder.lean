import Mathlib.Data.String.Basic
import Televisor.Proofs.Text.Utf8

namespace Televisor.Text

/-! Texts in the order of their characters are in the order of their bytes, too. -/

/-- The lesser of two numbers has the lesser digits to base 64. -/
theorem digits_lt {low high : Nat} (less : low < high) :
    low / 64 < high / 64 ∨ low / 64 = high / 64 ∧ low % 64 < high % 64 := by
  omega

theorem byte_lt {low high : Nat} (less : low < high) (byte : high < 256) :
    UInt8.ofNat low < UInt8.ofNat high := by
  rw [UInt8.lt_iff_toNat_lt, toNat_ofNat byte, toNat_ofNat (Nat.lt_trans less byte)]
  exact less

/-- Of two characters the lesser has the lesser bytes, whatever follows. -/
theorem utf8EncodeChar_lt {c d : Char} (less : c < d) (rest rest' : List UInt8) :
    String.utf8EncodeChar c ++ rest < String.utf8EncodeChar d ++ rest' := by
  have codes : c.val.toNat < d.val.toNat := less
  have last (c : Char) : c.val.toNat < 0x110000 := by
    have valid : c.val.toNat < 0xD800 ∨ 0xDFFF < c.val.toNat ∧ c.val.toNat < 0x110000 := c.valid
    omega
  have inside := last c
  have inside' := last d
  have two (code : Nat) : code / 4096 = code / 64 / 64 := (Nat.div_div_eq_div_mul code 64 64).symm
  have three (code : Nat) : code / 262144 = code / 64 / 64 / 64 := by
    rw [Nat.div_div_eq_div_mul, Nat.div_div_eq_div_mul]
  simp only [String.utf8EncodeChar, two, three]
  generalize c.val.toNat = code at *
  generalize d.val.toNat = code' at *
  split_ifs <;> simp only [List.cons_append, List.nil_append, List.cons_lt_cons_iff]
  all_goals try exact .inl (byte_lt (by omega) (by omega))
  -- Characters whose first bytes may be the same have as many bytes, two at least.
  · rcases digits_lt codes with first | ⟨same, second⟩
    · exact .inl (byte_lt (by omega) (by omega))
    · exact .inr ⟨by rw [same], .inl (byte_lt (by omega) (by omega))⟩
  · rcases digits_lt codes with upper | ⟨same, third⟩
    · rcases digits_lt upper with first | ⟨same, second⟩
      · exact .inl (byte_lt (by omega) (by omega))
      · exact .inr ⟨by rw [same], .inl (byte_lt (by omega) (by omega))⟩
    · exact .inr ⟨by rw [same], .inr ⟨by rw [same], .inl (byte_lt (by omega) (by omega))⟩⟩
  · rcases digits_lt codes with upper | ⟨same, fourth⟩
    · rcases digits_lt upper with upper | ⟨same, third⟩
      · rcases digits_lt upper with first | ⟨same, second⟩
        · exact .inl (byte_lt (by omega) (by omega))
        · exact .inr ⟨by rw [same], .inl (byte_lt (by omega) (by omega))⟩
      · exact .inr ⟨by rw [same], .inr ⟨by rw [same], .inl (byte_lt (by omega) (by omega))⟩⟩
    · exact .inr ⟨by rw [same], .inr ⟨by rw [same], .inr ⟨by rw [same],
        .inl (byte_lt (by omega) (by omega))⟩⟩⟩

theorem utf8Bytes_cons (c : Char) (text : List Char) :
    utf8Bytes (c :: text) = String.utf8EncodeChar c ++ utf8Bytes text :=
  List.flatMap_cons

theorem utf8Bytes_lt {text text' : List Char} (less : text < text') :
    utf8Bytes text < utf8Bytes text' := by
  induction less with
  | @nil c rest =>
      obtain ⟨lead, tail, bytes, _⟩ := headChar_encoded c []
      rw [utf8Bytes_cons, bytes]
      exact .nil
  | cons _ ih =>
      rw [utf8Bytes_cons, utf8Bytes_cons]
      exact List.append_left_lt ih
  | rel less =>
      rw [utf8Bytes_cons, utf8Bytes_cons]
      exact utf8EncodeChar_lt less _ _

end Televisor.Text
