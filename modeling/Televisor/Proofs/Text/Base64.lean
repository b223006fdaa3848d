import Televisor.Text.Base64

namespace Televisor.Text.Base64

/-! Reading base64 back, and how long it is. -/

theorem digit_ascii {value : Nat} (small : value < 64) : (digit value).toNat < 128 := by
  have digits : ∀ v ∈ List.range 64, (digit v).toNat < 128 := by decide
  exact digits value (List.mem_range.mpr small)

theorem digit_ne_padding {value : Nat} (small : value < 64) : digit value ≠ '=' := by
  have digits : ∀ v ∈ List.range 64, digit v ≠ '=' := by decide
  exact digits value (List.mem_range.mpr small)

/-- Where the digits of two neighbours meet, each of them gets its bits back. -/
theorem ofNat_eq {value : Nat} {byte : UInt8} (same : value = byte.toNat) :
    UInt8.ofNat value = byte := by
  rw [same, UInt8.ofNat_toNat]

theorem decode?_encode (bytes : List UInt8) : decode? (encode bytes) = some bytes := by
  fun_induction encode bytes with
  | case1 => rfl
  | case2 a =>
      have sizeA := a.toNat_lt
      have first : UInt8.ofNat (a.toNat / 4 * 4 + a.toNat % 4 * 16 / 16) = a := ofNat_eq (by omega)
      rw [decode?.eq_2, value?_digit (by omega), value?_digit (by omega)]
      exact congrArg (fun byte => some [byte]) first
  | case3 a b =>
      have sizeA := a.toNat_lt
      have sizeB := b.toNat_lt
      have first : UInt8.ofNat (a.toNat / 4 * 4 + (a.toNat % 4 * 16 + b.toNat / 16) / 16) = a :=
        ofNat_eq (by omega)
      have second : UInt8.ofNat ((a.toNat % 4 * 16 + b.toNat / 16) % 16 * 16 +
          b.toNat % 16 * 4 / 4) = b := ofNat_eq (by omega)
      rw [decode?.eq_3 _ _ _ (digit_ne_padding (by omega)), value?_digit (by omega),
        value?_digit (by omega), value?_digit (by omega)]
      simp only [Option.bind_eq_bind, Option.bind_some, Option.pure_def, first, second]
  | case4 a b c rest ih =>
      have sizeA := a.toNat_lt
      have sizeB := b.toNat_lt
      have sizeC := c.toNat_lt
      have first : UInt8.ofNat (a.toNat / 4 * 4 + (a.toNat % 4 * 16 + b.toNat / 16) / 16) = a :=
        ofNat_eq (by omega)
      have second : UInt8.ofNat ((a.toNat % 4 * 16 + b.toNat / 16) % 16 * 16 +
          (b.toNat % 16 * 4 + c.toNat / 64) / 4) = b := ofNat_eq (by omega)
      have third : UInt8.ofNat ((b.toNat % 16 * 4 + c.toNat / 64) % 4 * 64 + c.toNat % 64) = c :=
        ofNat_eq (by omega)
      have unpadded : digit (c.toNat % 64) ≠ '=' := digit_ne_padding (by omega)
      rw [decode?.eq_4 _ _ _ _ _ (fun _ last _ => unpadded last) (fun last _ => unpadded last),
        value?_digit (by omega), value?_digit (by omega), value?_digit (by omega),
        value?_digit (by omega), ih]
      simp only [Option.bind_eq_bind, Option.bind_some, Option.pure_def, first, second, third]

theorem encode_length (bytes : List UInt8) : (encode bytes).length = 4 * ((bytes.length + 2) / 3) := by
  fun_induction encode bytes with
  | case1 => rfl
  | case2 a => simp
  | case3 a b => simp
  | case4 a b c rest ih =>
      simp only [List.length_cons, ih]
      omega

theorem encode_ascii (bytes : List UInt8) : ∀ c ∈ encode bytes, c.toNat < 128 := by
  fun_induction encode bytes with
  | case1 => exact nofun
  | case2 a =>
      have sizeA := a.toNat_lt
      simp only [List.forall_mem_cons]
      exact ⟨digit_ascii (by omega), digit_ascii (by omega), by decide, by decide, nofun⟩
  | case3 a b =>
      have sizeA := a.toNat_lt
      have sizeB := b.toNat_lt
      simp only [List.forall_mem_cons]
      exact ⟨digit_ascii (by omega), digit_ascii (by omega), digit_ascii (by omega), by decide, nofun⟩
  | case4 a b c rest ih =>
      have sizeA := a.toNat_lt
      have sizeB := b.toNat_lt
      have sizeC := c.toNat_lt
      simp only [List.forall_mem_cons]
      exact ⟨digit_ascii (by omega), digit_ascii (by omega), digit_ascii (by omega),
        digit_ascii (by omega), ih⟩

end Televisor.Text.Base64
