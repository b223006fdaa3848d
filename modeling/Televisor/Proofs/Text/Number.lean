import Televisor.Text.Search
import Televisor.Text.Number

namespace Televisor.Text

/-! Numbers that are written in decimal digits are read back, and nothing else is read as a number. -/

theorem digitsValue?_digits {digits : List Char} (plain : ∀ c ∈ digits, c.isDigit) (acc : Nat) :
    digitsValue? acc digits = some (Nat.ofDigitChars 10 digits acc) := by
  induction digits generalizing acc with
  | nil => rfl
  | cons c digits ih =>
      obtain ⟨digit, plain⟩ := List.forall_mem_cons.mp plain
      rw [digitsValue?, if_pos digit, ih plain, Nat.ofDigitChars_cons, Nat.mul_comm]
      rfl

theorem isDigit_of_digitsValue? {digits : List Char} {acc value : Nat}
    (read : digitsValue? acc digits = some value) : ∀ c ∈ digits, c.isDigit := by
  induction digits generalizing acc with
  | nil => simp
  | cons c digits ih =>
      simp only [digitsValue?] at read
      split at read
      · rename_i digit
        exact List.forall_mem_cons.mpr ⟨digit, ih read⟩
      · contradiction

/-- The text consists of decimal digits, at least one, with at most a plus sign before them. -/
def IsNumeral (text : String) (number : Nat) : Prop :=
  ∃ digits, (text.toList = digits ∨ text.toList = '+' :: digits) ∧ digits ≠ [] ∧
    (∀ c ∈ digits, c.isDigit) ∧ Nat.ofDigitChars 10 digits 0 = number

theorem IsNumeral.last {text : String} {number : Nat} (numeral : IsNumeral text number) :
    ∃ front last, text.toList = front ++ [last] ∧ last.isDigit := by
  obtain ⟨digits, shape, nonempty, plain, _⟩ := numeral
  rcases List.eq_nil_or_concat digits with rfl | ⟨front, last, rfl⟩
  · contradiction
  · rw [List.concat_eq_append] at shape plain
    have digit := plain last (by simp)
    rcases shape with shape | shape
    · exact ⟨front, last, shape, digit⟩
    · exact ⟨'+' :: front, last, shape, digit⟩

theorem readUnsigned?_digits {bound number : Nat} {digits : List Char} (nonempty : digits ≠ [])
    (plain : ∀ c ∈ digits, c.isDigit) (value : Nat.ofDigitChars 10 digits 0 = number)
    (small : number < bound) :
    (if digits.isEmpty then none else (digitsValue? 0 digits).filter (· < bound)) = some number := by
  rw [List.isEmpty_eq_false_iff.mpr nonempty, digitsValue?_digits plain, value]
  simp [Option.filter, small]

theorem readUnsigned?_eq_some {bound number : Nat} {text : String} :
    readUnsigned? bound text.toList = some number ↔ IsNumeral text number ∧ number < bound := by
  constructor
  · intro read
    obtain ⟨digits, shape, rest⟩ : ∃ digits,
        (text.toList = digits ∨ text.toList = '+' :: digits) ∧
        (if digits.isEmpty then none else (digitsValue? 0 digits).filter (· < bound)) =
          some number := by
      unfold readUnsigned? at read
      split at read
      · rename_i digits signed
        exact ⟨digits, .inr signed, read⟩
      · exact ⟨_, .inl rfl, read⟩
    split at rest
    · contradiction
    · rename_i nonempty
      obtain ⟨value, small⟩ := Option.filter_eq_some_iff.mp rest
      have plain := isDigit_of_digitsValue? value
      rw [digitsValue?_digits plain] at value
      exact ⟨⟨digits, shape, by simpa using nonempty, plain, Option.some.inj value⟩,
        by simpa using small⟩
  · rintro ⟨⟨digits, shape, nonempty, plain, value⟩, small⟩
    have read := readUnsigned?_digits nonempty plain value small
    unfold readUnsigned?
    rcases shape with shape | shape
    · rw [shape]
      split
      · exact absurd (plain '+' List.mem_cons_self) (by decide)
      · exact read
    · rw [shape]
      exact read

theorem readBool?_eq_some {text : String} {value : Bool} :
    readBool? text = some value ↔ text = toString value := by
  cases value with
  | false =>
      simp only [readBool?]
      split
      · rename_i same
        subst same
        decide
      · simp [toString]
  | true => simp [readBool?, toString]

theorem isDigit_of_mem_repr {number : Nat} {c : Char} (inside : c ∈ (Nat.repr number).toList) :
    c.isDigit := by
  rw [Nat.toList_repr] at inside
  exact Nat.isDigit_of_mem_toDigits (by decide) (by decide) inside

theorem readUnsigned?_repr {bound number : Nat} (small : number < bound) :
    readUnsigned? bound (Nat.repr number).toList = some number := by
  have plain : ∀ c ∈ (Nat.repr number).toList, c.isDigit := fun c => isDigit_of_mem_repr
  have value : Nat.ofDigitChars 10 (Nat.repr number).toList 0 = number := by
    rw [Nat.toList_repr]
    exact Nat.ofDigitChars_toDigits (by decide) (by decide)
  have nonempty : (Nat.repr number).toList ≠ [] := by
    rw [Nat.toList_repr]
    exact Nat.toDigits_ne_nil
  exact readUnsigned?_eq_some.mpr ⟨⟨_, .inl rfl, nonempty, plain, value⟩, small⟩

theorem not_isBlank_of_isDigit {c : Char} (digit : c.isDigit) : ¬ isBlank c := by
  have known : ∀ point ∈ List.range 58, (Char.ofNat point).isDigit → ¬ isBlank (Char.ofNat point) := by
    decide
  have small : c.toNat < 58 := by
    simp only [Char.isDigit, Bool.and_eq_true, decide_eq_true_eq] at digit
    exact Nat.lt_succ_of_le digit.2
  have solid := known c.toNat (List.mem_range.mpr small)
  rw [Char.ofNat_toNat] at solid
  exact solid digit

end Televisor.Text
