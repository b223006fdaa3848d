import Televisor.Text.Search
import Televisor.Text.Hex

namespace Televisor.Wake

/-! Hardware addresses, the packet that wakes a machine, and what can go wrong when a television is to
be turned on. -/

inductive Failure where
  | invalidMac (text : String)
  | io (reason : String)
  | script (reason : String)
deriving Repr, DecidableEq

def Failure.message : Failure → String
  | .invalidMac text => "invalid MAC address: " ++ text
  | .io reason => "wake packet failed: " ++ reason
  | .script reason => "on action failed: " ++ reason

structure MacAddress where
  octets : Vector UInt8 6
deriving Repr, DecidableEq

namespace MacAddress

/-- Colons, hyphens and full stops may stand anywhere in an address. -/
def isSeparator (c : Char) : Bool :=
  c = ':' || c = '-' || c = '.'

/-- The hexadecimal digits of an address, once blanks around it and separators are gone. -/
def digits (text : String) : List Char :=
  (Text.trimBlanks text.toList).filter (!isSeparator ·)

def ofString? (text : String) : Option MacAddress :=
  match Text.bytesOfHex? [] (digits text) with
  | some bytes =>
    if sixBytes : bytes.length = 6 then some ⟨⟨bytes.toArray, by simpa using sixBytes⟩⟩
    else none
  | none => none

def parse (text : String) : Except Failure MacAddress :=
  match ofString? text with
  | some mac => .ok mac
  | none => .error (.invalidMac text)

def toList (mac : MacAddress) : List UInt8 :=
  mac.octets.toList

def text (mac : MacAddress) : String :=
  String.intercalate ":" (mac.toList.map fun octet => String.ofList (Text.hexByte octet))

/-- Six bytes of ones, then the address sixteen times. -/
def magicPacket (mac : MacAddress) : List UInt8 :=
  List.replicate 6 0xFF ++ (List.replicate 16 mac.toList).flatten

end MacAddress

end Televisor.Wake
