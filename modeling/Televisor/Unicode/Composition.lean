import Televisor.Text.Ranges

namespace Televisor.Unicode

open Text

/-! Composed form: marks in canonical order, and every pair that has a character of its own written
as that character. -/

/-- Composed characters: the gap after the previous one, and the two characters each is made of. -/
def pairText : String := String.join [
  "e0 61 300 0 61 301 0 61 302 0 61 303 0 61 308 0 61 30a 1 63 327 0 65 300 0 65 301 0 65 302 ",
  "0 65 308 0 69 300 0 69 301 0 69 302 0 69 308 1 6e 303 0 6f 300 0 6f 301 0 6f 302 0 6f 303 0 ",
  "6f 308 2 75 300 0 75 301 0 75 302 0 75 308 0 79 301 1 79 308 1 61 304 1 61 306 1 61 328 1 ",
  "63 301 1 63 302 1 63 307 1 63 30c 1 64 30c 3 65 304 1 65 306 1 65 307 1 65 328 1 65 30c 1 ",
  "67 302 1 67 306 1 67 307 1 67 327 1 68 302 3 69 303 1 69 304 1 69 306 1 69 328 5 6a 302 1 ",
  "6b 327 2 6c 301 1 6c 327 1 6c 30c 5 6e 301 1 6e 327 1 6e 30c 4 6f 304 1 6f 306 1 6f 30b 3 ",
  "72 301 1 72 327 1 72 30c 1 73 301 1 73 302 1 73 327 1 73 30c 1 74 327 1 74 30c 3 75 303 1 ",
  "75 304 1 75 306 1 75 30a 1 75 30b 1 75 328 1 77 302 1 79 302 2 7a 301 1 7a 307 1 7a 30c 22 ",
  "6f 31b e 75 31b 1d 61 30c 1 69 30c 1 6f 30c 1 75 30c 1 fc 304 1 fc 301 1 fc 30c 1 fc 300 2 ",
  "e4 304 1 227 304 1 e6 304 3 67 30c 1 6b 30c 1 6f 328 1 1eb 304 1 292 30c 0 6a 30c 4 67 301 ",
  "3 6e 300 1 e5 301 1 e6 301 1 f8 301 1 61 30f 1 61 311 1 65 30f 1 65 311 1 69 30f 1 69 311 1 ",
  "6f 30f 1 6f 311 1 72 30f 1 72 311 1 75 30f 1 75 311 1 73 326 1 74 326 3 68 30c 7 61 307 1 ",
  "65 327 1 f6 304 1 f5 304 1 6f 307 1 22f 304 1 79 304 15c 3ca 301 1b 3b1 301 0 3b5 301 0 3b7 ",
  "301 0 3b9 301 0 3cb 301 19 3b9 308 0 3c5 308 0 3bf 301 0 3c5 301 0 3c9 301 6a 438 306 16 ",
  "435 300 0 435 308 1 433 301 3 456 308 4 43a 301 0 438 300 0 443 306 18 475 30f 4a 436 306 e ",
  "430 306 1 430 308 3 435 306 3 4d9 308 1 436 308 1 437 308 3 438 304 1 438 308 1 43e 308 3 ",
  "4e9 308 1 44d 308 1 443 304 1 443 308 1 443 30b 1 447 308 3 44b 308 128 627 653 0 627 654 0 ",
  "648 654 0 627 655 0 64a 654 99 6d5 654 1 6c1 654 10 6d2 654 255 928 93c 7 930 93c 2 933 93c ",
  "96 9c7 9be 0 9c7 9d7 17b b47 b56 2 b47 b3e 0 b47 b57 47 b92 bd7 35 bc6 bbe 0 bc7 bbe 0 bc6 ",
  "bd7 7b c46 c56 77 cbf cd5 6 cc6 cd5 0 cc6 cd6 1 cc6 cc2 0 cca cd5 7e d46 d3e 0 d47 d3e 0 ",
  "d46 d57 8d dd9 dca 1 dd9 dcf 0 ddc dca 0 dd9 ddf 247 1025 102e adf 1b05 1b35 1 1b07 1b35 1 ",
  "1b09 1b35 1 1b0b 1b35 1 1b0d 1b35 3 1b11 1b35 28 1b3a 1b35 1 1b3c 1b35 2 1b3e 1b35 0 1b3f ",
  "1b35 1 1b42 1b35 2bd 61 325 1 62 307 1 62 323 1 62 331 1 e7 301 1 64 307 1 64 323 1 64 331 ",
  "1 64 327 1 64 32d 1 113 300 1 113 301 1 65 32d 1 65 330 1 229 306 1 66 307 1 67 304 1 68 ",
  "307 1 68 323 1 68 308 1 68 327 1 68 32e 1 69 330 1 ef 301 1 6b 301 1 6b 323 1 6b 331 1 6c ",
  "323 1 1e37 304 1 6c 331 1 6c 32d 1 6d 301 1 6d 307 1 6d 323 1 6e 307 1 6e 323 1 6e 331 1 6e ",
  "32d 1 f5 301 1 f5 308 1 14d 300 1 14d 301 1 70 301 1 70 307 1 72 307 1 72 323 1 1e5b 304 1 ",
  "72 331 1 73 307 1 73 323 1 15b 307 1 161 307 1 1e63 307 1 74 307 1 74 323 1 74 331 1 74 32d ",
  "1 75 324 1 75 330 1 75 32d 1 169 301 1 16b 308 1 76 303 1 76 323 1 77 300 1 77 301 1 77 308 ",
  "1 77 307 1 77 323 1 78 307 1 78 308 1 79 307 1 7a 302 1 7a 323 1 7a 331 0 68 331 0 74 308 0 ",
  "77 30a 0 79 30a 7 61 323 1 61 309 1 e2 301 1 e2 300 1 e2 309 1 e2 303 1 1ea1 302 1 103 301 ",
  "1 103 300 1 103 309 1 103 303 1 1ea1 306 1 65 323 1 65 309 1 65 303 1 ea 301 1 ea 300 1 ea ",
  "309 1 ea 303 1 1eb9 302 1 69 309 1 69 323 1 6f 323 1 6f 309 1 f4 301 1 f4 300 1 f4 309 1 f4 ",
  "303 1 1ecd 302 1 1a1 301 1 1a1 300 1 1a1 309 1 1a1 303 1 1a1 323 1 75 323 1 75 309 1 1b0 ",
  "301 1 1b0 300 1 1b0 309 1 1b0 303 1 1b0 323 1 79 300 1 79 323 1 79 309 1 79 303 6 3b1 313 0 ",
  "3b1 314 0 1f00 300 0 1f01 300 0 1f00 301 0 1f01 301 0 1f00 342 0 1f01 342 8 3b5 313 0 3b5 ",
  "314 0 1f10 300 0 1f11 300 0 1f10 301 0 1f11 301 a 3b7 313 0 3b7 314 0 1f20 300 0 1f21 300 0 ",
  "1f20 301 0 1f21 301 0 1f20 342 0 1f21 342 8 3b9 313 0 3b9 314 0 1f30 300 0 1f31 300 0 1f30 ",
  "301 0 1f31 301 0 1f30 342 0 1f31 342 8 3bf 313 0 3bf 314 0 1f40 300 0 1f41 300 0 1f40 301 0 ",
  "1f41 301 a 3c5 313 0 3c5 314 0 1f50 300 0 1f51 300 0 1f50 301 0 1f51 301 0 1f50 342 0 1f51 ",
  "342 8 3c9 313 0 3c9 314 0 1f60 300 0 1f61 300 0 1f60 301 0 1f61 301 0 1f60 342 0 1f61 342 8 ",
  "3b1 300 1 3b5 300 1 3b7 300 1 3b9 300 1 3bf 300 1 3c5 300 1 3c9 300 33 3b1 306 0 3b1 304 4 ",
  "3b1 342 f 3b7 342 9 3b9 306 0 3b9 304 0 3ca 300 3 3b9 342 0 3ca 342 8 3c5 306 0 3c5 304 0 ",
  "3cb 300 1 3c1 313 0 3c1 314 0 3c5 342 0 3cb 342 e 3c9 342 1a3 2190 338 0 2192 338 12 2194 ",
  "338 1e 21d0 338 0 21d4 338 0 21d2 338 34 2203 338 4 2208 338 2 220b 338 17 2223 338 1 2225 ",
  "338 1a 223c 338 2 2243 338 2 2245 338 1 2248 338 16 3d 338 1 2261 338 a 224d 338 0 3c 338 0 ",
  "3e 338 0 2264 338 0 2265 338 2 2272 338 0 2273 338 2 2276 338 0 2277 338 6 227a 338 0 227b ",
  "338 2 2282 338 0 2283 338 2 2286 338 0 2287 338 22 22a2 338 0 22a8 338 0 22a9 338 0 22ab ",
  "338 30 227c 338 0 227d 338 0 2291 338 0 2292 338 6 22b2 338 0 22b3 338 0 22b4 338 0 22b5 ",
  "338 d5e 304b 3099 1 304d 3099 1 304f 3099 1 3051 3099 1 3053 3099 1 3055 3099 1 3057 3099 1 ",
  "3059 3099 1 305b 3099 1 305d 3099 1 305f 3099 1 3061 3099 2 3064 3099 1 3066 3099 1 3068 ",
  "3099 6 306f 3099 0 306f 309a 1 3072 3099 0 3072 309a 1 3075 3099 0 3075 309a 1 3078 3099 0 ",
  "3078 309a 1 307b 3099 0 307b 309a 16 3046 3099 9 309d 3099 d 30ab 3099 1 30ad 3099 1 30af ",
  "3099 1 30b1 3099 1 30b3 3099 1 30b5 3099 1 30b7 3099 1 30b9 3099 1 30bb 3099 1 30bd 3099 1 ",
  "30bf 3099 1 30c1 3099 2 30c4 3099 1 30c6 3099 1 30c8 3099 6 30cf 3099 0 30cf 309a 1 30d2 ",
  "3099 0 30d2 309a 1 30d5 3099 0 30d5 309a 1 30d8 3099 0 30d8 309a 1 30db 3099 0 30db 309a 16 ",
  "30a6 3099 2 30ef 3099 0 30f0 3099 0 30f1 3099 0 30f2 3099 3 30fd 3099 df9b 11099 110ba 1 ",
  "1109b 110ba e 110a5 110ba 82 11131 11127 0 11132 11127 21b 11347 1133e 0 11347 11357 16e ",
  "114b9 114ba 0 114b9 114b0 1 114b9 114bd fb 115b8 115af 0 115b9 115af 37c 11935 11930"]

/-- Marks by combining class: gap, size and class of each range. -/
def classText : String := String.join [
  "300 15 e6 0 1 e8 0 4 dc 0 1 e8 0 1 d8 0 5 dc 0 2 ca 0 4 dc 0 2 ca 0 b dc 0 5 1 0 4 dc 0 8 ",
  "e6 0 1 f0 0 1 e6 0 3 dc 0 3 e6 0 2 dc 1 3 e6 0 4 dc 0 1 e6 0 1 e8 0 2 dc 0 1 e6 0 1 e9 0 2 ",
  "ea 0 1 e9 0 2 ea 0 1 e9 0 d e6 113 5 e6 109 1 dc 0 4 e6 0 1 dc 0 3 e6 0 1 de 0 1 dc 0 6 e6 ",
  "0 6 dc 0 2 e6 0 1 dc 0 2 e6 0 1 de 0 1 e4 0 1 e6 0 1 a 0 1 b 0 1 c 0 1 d 0 1 e 0 1 f 0 1 10 ",
  "0 1 11 0 1 12 0 2 13 0 1 14 0 1 15 0 1 16 1 1 17 1 1 18 0 1 19 1 1 e6 0 1 dc 1 1 12 48 8 e6 ",
  "0 1 1e 0 1 1f 0 1 20 30 1 1b 0 1 1c 0 1 1d 0 1 1e 0 1 1f 0 1 20 0 1 21 0 1 22 0 2 e6 0 2 dc ",
  "0 5 e6 0 1 dc 0 2 e6 0 1 dc 10 1 23 65 7 e6 2 4 e6 0 1 dc 0 1 e6 2 2 e6 1 1 dc 0 2 e6 0 1 ",
  "dc 23 1 24 1e 1 e6 0 1 dc 0 2 e6 0 1 dc 0 2 e6 0 3 dc 0 1 e6 0 2 dc 0 1 e6 0 1 dc 0 3 e6 0 ",
  "1 dc 0 1 e6 0 1 dc 0 1 e6 0 1 dc 0 1 e6 0 1 dc 0 2 e6 a0 7 e6 0 1 dc 0 1 e6 9 1 dc 18 4 e6 ",
  "1 9 e6 1 3 e6 1 5 e6 2b 3 dc 3c 1 e6 0 3 dc 0 4 e6 2a 5 e6 0 5 dc 0 e e6 1 1 dc 0 2 e6 0 1 ",
  "dc 0 2 e6 0 1 dc 0 3 e6 0 3 dc 0 1 1b 0 1 1c 0 1 1d 0 3 e6 0 1 dc 0 2 e6 0 2 dc 0 5 e6 3c 1 ",
  "7 10 1 9 3 1 e6 0 1 dc 0 2 e6 67 1 7 10 1 9 30 1 e6 3d 1 7 10 1 9 6e 1 7 10 1 9 6e 1 7 10 1 ",
  "9 7f 1 9 6e 1 7 10 1 9 7 1 54 0 1 5b 65 1 7 10 1 9 6d 2 9 10 1 9 7c 1 9 6d 2 67 0 1 9 d 4 ",
  "6b 6c 2 76 0 1 9 d 4 7a 4c 2 dc 1b 1 dc 1 1 dc 1 1 d8 37 1 81 0 1 82 1 1 84 5 4 82 2 1 82 1 ",
  "2 e6 0 1 9 1 2 e6 3e 1 dc 70 1 7 1 2 9 52 1 dc 2cf 3 e6 3b4 2 9 1e 1 9 9d 1 9 a 1 e6 cb 1 ",
  "e4 8f 1 de 0 1 e6 0 1 dc db 1 e6 0 1 dc 47 1 9 14 8 e6 2 1 dc 30 5 e6 0 6 dc 0 2 e6 0 1 dc ",
  "1 2 dc 0 2 e6 0 2 dc 0 5 e6 0 1 dc 0 4 e6 65 1 7 f 1 9 26 1 e6 0 1 dc 0 7 e6 36 2 9 3a 1 7 ",
  "b 2 9 43 1 7 98 3 e6 1 1 1 0 5 dc 0 2 e6 0 4 dc 0 1 e6 1 7 1 4 1 dc 6 1 e6 3 2 e6 c6 2 e6 0 ",
  "1 dc 0 7 e6 0 1 dc 0 2 e6 0 1 ea 0 1 d6 0 1 dc 0 1 ca 0 25 e6 0 1 e8 0 2 e4 0 1 dc 0 1 da 0 ",
  "1 e6 0 1 e9 0 1 dc 0 1 e6 0 1 dc 2d0 2 e6 0 2 1 0 4 e6 0 3 1 0 2 e6 4 1 e6 3 2 1 0 1 e6 0 1 ",
  "dc 0 1 e6 0 2 1 0 4 dc 0 1 e6 bfe 3 e6 8d 1 9 60 20 e6 22a 1 da 0 1 e4 0 1 e8 0 1 de 0 2 e0 ",
  "69 2 8 75d4 1 e6 4 a e6 20 2 e6 50 2 e6 114 1 9 25 1 9 97 1 9 1b 12 e6 39 3 dc 25 1 9 5f 1 ",
  "7 c 1 9 ef 1 e6 1 2 e6 0 1 dc 2 2 e6 5 2 e6 1 1 e6 34 1 9 f6 1 9 4f30 1 1a 301 7 e6 0 7 dc ",
  "0 2 e6 3cd 1 dc e2 1 dc 95 5 e6 692 1 dc 1 1 e6 28 1 e6 0 1 1 0 1 dc 4 1 9 a5 1 e6 0 1 dc ",
  "23d 4 e6 183 2 e6 50 3 dc 46 2 dc 0 3 e6 0 1 dc 0 1 e6 0 4 dc 31 1 e6 0 1 dc 0 1 e6 0 1 dc ",
  "c0 1 9 29 1 9 e 1 9 39 1 9 0 1 7 45 3 e6 30 2 9 3e 1 7 4c 1 9 9 1 7 6a 1 9 0 1 7 b2 1 7 0 1 ",
  "9 50 2 7 10 1 9 18 7 e6 3 5 e6 cd 1 9 3 1 7 17 1 e6 63 1 9 0 1 7 fb 1 9 0 1 7 7e 1 9 76 1 9 ",
  "0 1 7 73 1 9 10d 1 9 0 1 7 102 2 9 4 1 7 9c 1 9 53 1 9 12 1 9 51 1 9 1a5 1 9 102 1 7 1 2 9 ",
  "51 1 9 1a9 2 9 4bad 5 1 3b 7 e6 4b9 2 6 4cac 1 1 14c6 2 d8 0 3 1 3 1 e2 0 5 d8 8 8 dc 2 5 ",
  "e6 0 2 dc 1e 4 e6 94 3 e6 dbb 7 e6 1 11 e6 2 7 e6 1 2 e6 1 5 e6 64 1 e6 a0 7 e6 177 1 e6 3d ",
  "4 e6 1fc 2 e8 0 1 dc 0 1 e6 3e0 7 dc 6d 6 e6 0 1 7"]

def valuedFrom (position : Nat) : List Nat → List (Nat × Nat × Nat)
  | gap :: size :: value :: rest =>
    (position + gap, position + gap + size, value) :: valuedFrom (position + gap + size) rest
  | _ => []

def valued (text : String) : List (Nat × Nat × Nat) :=
  valuedFrom 0 (hexNumbersFrom 0 text.toList)

def valueAt (ranges : List (Nat × Nat × Nat)) (code : Nat) : Nat :=
  match ranges.find? fun range => range.1 ≤ code && code < range.2.1 with
  | some range => range.2.2
  | none => 0

def classRanges : List (Nat × Nat × Nat) :=
  valued classText

/-- The combining class of a character; what is no mark has class zero. -/
def combiningClass (c : Char) : Nat :=
  if c.toNat < 0x300 then 0 else valueAt classRanges c.toNat

structure Pair where
  whole : Nat
  first : Nat
  second : Nat
deriving Repr, DecidableEq

def pairsFrom (position : Nat) : List Nat → List Pair
  | gap :: first :: second :: rest =>
    ⟨position + gap, first, second⟩ :: pairsFrom (position + gap + 1) rest
  | _ => []

def pairs : List Pair :=
  pairsFrom 0 (hexNumbersFrom 0 pairText.toList)

/-- Syllables of Hangul are made of a lead, a vowel and perhaps a tail. -/
def hangulFirst : Nat := 0xAC00

def leadFirst : Nat := 0x1100

def vowelFirst : Nat := 0x1161

/-- The place of a missing tail; tails follow. -/
def noTail : Nat := 0x11A7

def isHangul (code : Nat) : Bool :=
  hangulFirst ≤ code && code < hangulFirst + 19 * 21 * 28

def hangulParts (code : Nat) : List Char :=
  let place := code - hangulFirst
  let lead := Char.ofNat (leadFirst + place / (21 * 28))
  let vowel := Char.ofNat (vowelFirst + place / 28 % 21)
  if place % 28 = 0 then [lead, vowel] else [lead, vowel, Char.ofNat (noTail + place % 28)]

def parts : (depth : Nat) → Char → List Char
  | 0, c => [c]
  | depth + 1, c =>
    if c.toNat < 0x80 then [c]
    else if isHangul c.toNat then hangulParts c.toNat
    else
      match pairs.find? (·.whole == c.toNat) with
      | some pair => parts depth (Char.ofNat pair.first) ++ [Char.ofNat pair.second]
      | none => [c]

/-- Puts a mark behind all marks before it whose class is not greater. -/
def insertMark (mark : Char) : List Char → List Char
  | [] => [mark]
  | c :: rest =>
    if combiningClass mark < combiningClass c then mark :: c :: rest
    else c :: insertMark mark rest

/-- Brings marks into canonical order; `marks` are those since the last character that is none. -/
def orderMarks (marks : List Char) : List Char → List Char
  | [] => marks
  | c :: rest =>
    if combiningClass c = 0 then marks ++ c :: orderMarks [] rest
    else orderMarks (insertMark c marks) rest

def hangulWhole? (first second : Nat) : Option Nat :=
  if leadFirst ≤ first && first < leadFirst + 19 && vowelFirst ≤ second && second < vowelFirst + 21
  then some (hangulFirst + ((first - leadFirst) * 21 + (second - vowelFirst)) * 28)
  else if isHangul first && (first - hangulFirst) % 28 = 0 && noTail < second && second < noTail + 28
  then some (first + (second - noTail))
  else none

def whole? (first second : Char) : Option Char :=
  match hangulWhole? first.toNat second.toNat with
  | some code => some (Char.ofNat code)
  | none =>
    (pairs.find? fun pair => pair.first == first.toNat && pair.second == second.toNat).map
      fun pair => Char.ofNat pair.whole

/-- Composes what follows a starter; `kept` are the marks that stay, and `last` is the class of the
last of them. -/
def composeFrom (starter : Char) (kept : List Char) (last : Nat) : List Char → List Char
  | [] => starter :: kept
  | c :: rest =>
    let class_ := combiningClass c
    let reaches := kept.isEmpty || (last < class_ && last != 0)
    match if reaches then whole? starter c else none with
    | some whole => composeFrom whole kept last rest
    | none =>
      if class_ = 0 then starter :: kept ++ composeFrom c [] 0 rest
      else composeFrom starter (kept ++ [c]) class_ rest

def compose : List Char → List Char
  | [] => []
  | c :: rest =>
    if combiningClass c = 0 then composeFrom c [] 0 rest
    else c :: compose rest

/-- The composed form of a text; no character is made of more than four. -/
def composed (text : List Char) : List Char :=
  compose (orderMarks [] (text.flatMap (parts 3)))

end Televisor.Unicode
