namespace Televisor.Text

/-! Reading unsigned decimal numbers: digits alone, a plus sign allowed before them. -/

/-- The value of decimal digits and nothing else. -/
def digitsValue? (acc : Nat) : List Char → Option Nat
  | [] => some acc
  | c :: rest => if c.isDigit then digitsValue? (acc * 10 + (c.toNat - 0x30)) rest else none

def readUnsigned? (bound : Nat) (text : List Char) : Option Nat :=
  let digits :=
    match text with
    | '+' :: rest => rest
    | text => text
  if digits.isEmpty then none
  else (digitsValue? 0 digits).filter (· < bound)

def readWord16? (text : String) : Option Nat :=
  readUnsigned? (Nat.pow 2 16) text.toList

def readWord64? (text : String) : Option Nat :=
  readUnsigned? (Nat.pow 2 64) text.toList

def readBool? (text : String) : Option Bool :=
  if text = "true" then some true else if text = "false" then some false else none

end Televisor.Text
