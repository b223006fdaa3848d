import Televisor.Text.Base64
import Televisor.Text.Utf8

namespace Televisor.Remote

open Text

/-! Frames of the remote-control protocol.  A frame is a kind byte and two fields, an application
name and a payload; each field is prefixed by its length in two bytes, the low one first.  Texts
inside a payload are base64 in a field of their own. -/

/-- How this client introduces itself; the television shows `name` when it asks for permission. -/
structure Identity where
  name : String
  description : String
  id : String
deriving Repr, DecidableEq

/-- The low and the high byte of a length, which is taken modulo 65536. -/
def lengthBytes (length : Nat) : List UInt8 :=
  [UInt8.ofNat (length % 256), UInt8.ofNat (length / 256 % 256)]

def field (data : List UInt8) : List UInt8 :=
  lengthBytes data.length ++ data

def textBytes (text : String) : List UInt8 :=
  (Base64.encode (utf8Bytes text.toList)).map fun digit => UInt8.ofNat digit.toNat

def textField (text : String) : List UInt8 :=
  field (textBytes text)

def frame (payload : List UInt8) : List UInt8 :=
  0 :: field [] ++ field payload

def authPayload (identity : Identity) : List UInt8 :=
  0x64 :: 0 :: textField identity.description ++ textField identity.id ++ textField identity.name

def authPacket (identity : Identity) : List UInt8 :=
  frame (authPayload identity)

def keyPayload (key : String) : List UInt8 :=
  0 :: 0 :: 0 :: textField key

def keyPacket (key : String) : List UInt8 :=
  frame (keyPayload key)

/-- The first `count` bytes and the rest, if there are as many. -/
def takeExactly? (count : Nat) (bytes : List UInt8) : Option (List UInt8 × List UInt8) :=
  if count ≤ bytes.length then some (bytes.take count, bytes.drop count) else none

def readField? : List UInt8 → Option (List UInt8 × List UInt8)
  | low :: high :: rest => takeExactly? (low.toNat + 256 * high.toNat) rest
  | _ => none

structure Frame where
  kind : UInt8
  name : List UInt8
  payload : List UInt8
deriving Repr, DecidableEq

def readFrame? : List UInt8 → Option (Frame × List UInt8)
  | [] => none
  | kind :: rest => do
    let (name, rest) ← readField? rest
    let (payload, rest) ← readField? rest
    return (⟨kind, name, payload⟩, rest)

def readTextField? (bytes : List UInt8) : Option (List UInt8 × List UInt8) := do
  let (data, rest) ← readField? bytes
  let text ← Base64.decode? (data.map fun byte => Char.ofNat byte.toNat)
  return (text, rest)

end Televisor.Remote
