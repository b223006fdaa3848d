namespace Televisor.Text

/-! Hexadecimal digits and byte strings. -/

def hexDigit (value : Nat) : Char :=
  if value < 10 then Char.ofNat (0x30 + value) else Char.ofNat (0x61 + value - 10)

/-- The value of a digit of either case. -/
def hexValue? (c : Char) : Option Nat :=
  let code := c.toNat
  if 0x30 ≤ code && code ≤ 0x39 then some (code - 0x30)
  else if 0x61 ≤ code && code ≤ 0x66 then some (code - 0x61 + 10)
  else if 0x41 ≤ code && code ≤ 0x46 then some (code - 0x41 + 10)
  else none

theorem hexValue?_hexDigit {value : Nat} (small : value < 16) :
    hexValue? (hexDigit value) = some value := by
  have digits : ∀ v ∈ List.range 16, hexValue? (hexDigit v) = some v := by decide
  exact digits value (List.mem_range.mpr small)

def hexByte (byte : UInt8) : List Char :=
  [hexDigit (byte.toNat / 16), hexDigit (byte.toNat % 16)]

def hexBytes (bytes : List UInt8) : String :=
  String.ofList (bytes.flatMap hexByte)

/-- Reads pairs of digits; an odd count or any other character is refused. -/
def bytesOfHex? (acc : List UInt8) : List Char → Option (List UInt8)
  | [] => some acc.reverse
  | [_] => none
  | high :: low :: rest =>
    match hexValue? high, hexValue? low with
    | some h, some l => bytesOfHex? (UInt8.ofNat (h * 16 + l) :: acc) rest
    | _, _ => none

def hexNumber (n : Nat) : List Char :=
  Nat.toDigits 16 n

end Televisor.Text
