import Televisor.Remote.Line

namespace Televisor.Remote

open Text

/-! What a television can make of the packets it is sent. -/

/-- A text in a field of its own, and the bytes after it. -/
def readText? (bytes : List UInt8) : Option (String × List UInt8) := do
  let (data, rest) ← readTextField? bytes
  let text ← textOfUtf8? data
  return (text, rest)

/-- Three zero bytes and the key, and nothing else. -/
def readKey? : List UInt8 → Option String
  | 0 :: 0 :: 0 :: bytes => do
    let (key, rest) ← readText? bytes
    if rest.isEmpty then some key else none
  | _ => none

/-- The mark of an introduction, then description, id and name, and nothing else. -/
def readIdentity? : List UInt8 → Option Identity
  | 0x64 :: 0 :: bytes => do
    let (description, rest) ← readText? bytes
    let (id, rest) ← readText? rest
    let (name, rest) ← readText? rest
    if rest.isEmpty then some ⟨name, description, id⟩ else none
  | _ => none

/-- The keys of frames that follow one another to the end. -/
def readKeys? (bytes : List UInt8) : Option (List String) :=
  match _found : readFrame? bytes with
  | none => if bytes.isEmpty then some [] else none
  | some (frame, rest) => do
    let key ← readKey? frame.payload
    let keys ← readKeys? rest
    return key :: keys
termination_by bytes.length
decreasing_by exact readFrame?_length _found

end Televisor.Remote
