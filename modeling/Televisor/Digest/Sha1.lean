namespace Televisor.Digest

/-! SHA-1: the message is padded to blocks of 64 bytes, and each block is mixed into five words. -/

def rotateLeft (word : UInt32) (places : Nat) : UInt32 :=
  word <<< UInt32.ofNat places ||| word >>> UInt32.ofNat (32 - places)

structure Sha1 where
  a : UInt32
  b : UInt32
  c : UInt32
  d : UInt32
  e : UInt32
deriving Repr, DecidableEq

namespace Sha1

def start : Sha1 :=
  ⟨0x67452301, 0xEFCDAB89, 0x98BADCFE, 0x10325476, 0xC3D2E1F0⟩

def add (left right : Sha1) : Sha1 :=
  ⟨left.a + right.a, left.b + right.b, left.c + right.c, left.d + right.d, left.e + right.e⟩

/-- What round `number` mixes into the words, its constant included. -/
def mix (number : Nat) (words : Sha1) : UInt32 :=
  let { b, c, d, .. } := words
  if number < 20 then (b &&& c ||| ~~~b &&& d) + 0x5A827999
  else if number < 40 then (b ^^^ c ^^^ d) + 0x6ED9EBA1
  else if number < 60 then (b &&& c ||| b &&& d ||| c &&& d) + 0x8F1BBCDC
  else (b ^^^ c ^^^ d) + 0xCA62C1D6

def round (number : Nat) (word : UInt32) (words : Sha1) : Sha1 where
  a := rotateLeft words.a 5 + words.mix number + words.e + word
  b := words.a
  c := rotateLeft words.b 30
  d := words.c
  e := words.d

def nextWord (window : List UInt32) : UInt32 :=
  rotateLeft (window.getD 0 0 ^^^ window.getD 2 0 ^^^ window.getD 8 0 ^^^ window.getD 13 0) 1

/-- Runs the last `rounds` of the eighty rounds; the window holds the next sixteen words. -/
def run (words : Sha1) (window : List UInt32) : (rounds : Nat) → Sha1
  | 0 => words
  | rounds + 1 =>
    run (words.round (79 - rounds) (window.getD 0 0)) (window.drop 1 ++ [nextWord window]) rounds

def wordsOf : List UInt8 → List UInt32
  | a :: b :: c :: d :: rest =>
    (a.toUInt32 <<< 24 ||| b.toUInt32 <<< 16 ||| c.toUInt32 <<< 8 ||| d.toUInt32) :: wordsOf rest
  | _ => []

def absorb (words : Sha1) (block : List UInt8) : Sha1 :=
  words.add (words.run (wordsOf block) 80)

def absorbAll (words : Sha1) (bytes : List UInt8) : Sha1 :=
  if bytes.length < 64 then words
  else absorbAll (words.absorb (bytes.take 64)) (bytes.drop 64)
termination_by bytes.length
decreasing_by
  simp only [List.length_drop]
  omega

def bytesOfWord (word : UInt32) : List UInt8 :=
  [word >>> 24, word >>> 16, word >>> 8, word].map (·.toUInt8)

def toBytes (words : Sha1) : List UInt8 :=
  [words.a, words.b, words.c, words.d, words.e].flatMap bytesOfWord

end Sha1

def lengthBytes (length : Nat) : List UInt8 :=
  [56, 48, 40, 32, 24, 16, 8, 0].map fun places => UInt8.ofNat (length / Nat.pow 2 places)

/-- The message, a set bit, as few zeros as fill the last block, and the length in bits. -/
def padded (message : List UInt8) : List UInt8 :=
  message ++ 0x80 :: List.replicate ((119 - message.length % 64) % 64) 0 ++
    lengthBytes (8 * message.length)

def sha1 (message : List UInt8) : List UInt8 :=
  (Sha1.start.absorbAll (padded message)).toBytes

end Televisor.Digest
