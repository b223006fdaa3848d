import Televisor.Unicode.Composition

namespace Televisor.Unicode

open Text

/-! Where joiners, which are invisible themselves, may stand: next to a sign that joins consonants,
or between letters that join. -/

/-- How letters join: gap, size and number of each range. -/
def joiningText : String := String.join [
  "ad 1 3 252 70 3 113 7 3 107 2d 3 1 1 3 1 2 3 1 2 3 1 1 3 48 b 3 1 1 3 3 1 2 1 4 4 0 1 2 0 1 ",
  "4 0 1 2 0 1 4 0 5 2 0 4 4 0 d 2 0 1 5 0 7 2 0 1 4 0 2 2 0 15 3 e 2 2 0 1 3 0 3 4 1 3 4 0 10 ",
  "2 0 12 4 0 26 2 0 1 4 0 2 2 0 9 4 0 1 2 0 1 4 0 1 2 0 1 4 0 2 2 0 2 4 1 1 4 0 7 3 2 6 3 2 2 ",
  "3 1 4 3 0 2 4 a 3 2 2 1 2 f 1 3 0 1 4 0 1 3 0 3 2 0 5 4 0 4 2 0 1 4 0 9 2 0 1 4 0 1 2 0 1 4 ",
  "0 1 2 0 1 4 0 2 2 0 1 4 0 1b 3 2 1 4 0 b 2 0 3 4 0 f 2 0 2 4 0 4 2 0 1 4 0 1 2 0 2 4 0 3 2 ",
  "0 2 4 0 6 2 26 b 3 19 21 2 0 9 3 6 1 5 2 1 3 18 4 3 1 9 3 1 3 3 1 5 3 12 1 4 0 5 2 0 2 4 0 ",
  "1 2 0 1 4 0 a 2 0 1 4 0 1 2 0 3 4 0 3 3 4 1 2 1 4 2 1 1 4 0 1 2 0 2 4 5 13 4 0 3 5 0 1 2 2 ",
  "5 2 0 1 4 0 1 2 7 9 3 0 a 2 0 3 4 1 1 4 0 2 2 0 2 4 0 6 2 0 1 4 0 f 2 1 18 3 1 20 3 37 1 3 ",
  "1 1 3 4 8 3 4 1 3 3 7 3 a 2 3 1d 1 3 3a 1 3 4 4 3 8 1 3 14 2 3 1a 1 3 2 2 3 39 1 3 4 2 3 4 ",
  "2 3 2 3 3 3 1 3 1e 2 3 3 1 3 b 2 3 39 1 3 4 5 3 1 2 3 4 1 3 14 2 3 16 6 3 1 1 3 3a 1 3 2 1 ",
  "3 1 4 3 8 1 3 7 2 3 b 2 3 1e 1 3 3d 1 3 c 1 3 32 1 3 3 1 3 37 1 3 1 3 3 5 3 3 1 4 3 7 2 3 b ",
  "2 3 1d 1 3 3a 1 3 2 1 3 6 1 3 5 2 3 14 2 3 1c 2 3 39 2 3 4 4 3 8 1 3 14 2 3 1d 1 3 48 1 3 7 ",
  "3 3 1 1 3 5a 1 3 2 7 3 c 8 3 62 1 3 2 9 3 b 7 3 49 2 3 1b 1 3 1 1 3 1 1 3 37 e 3 1 5 3 1 2 ",
  "3 5 b 3 1 24 3 9 1 3 66 4 3 1 6 3 1 2 3 2 2 3 19 2 3 4 3 3 10 4 3 d 1 3 2 2 3 6 1 3 f 1 3 ",
  "2bf 3 3 3b2 3 3 1d 2 3 1e 2 3 1e 2 3 40 2 3 1 7 3 8 1 3 2 b 3 9 1 3 29 1 2 2 1 5 0 3 3 1 1 ",
  "3 10 59 2 c 2 3 0 22 2 0 1 3 0 1 2 75 3 3 4 2 3 9 1 3 6 3 3 db 2 3 2 1 3 3a 1 3 1 7 3 1 1 3 ",
  "1 1 3 2 8 3 6 a 3 2 1 3 30 2e 3 2 c 3 14 4 3 30 1 3 1 5 3 1 1 3 5 1 3 28 9 3 c 2 3 20 4 3 2 ",
  "2 3 1 3 3 38 1 3 1 2 3 3 1 3 1 3 3 3a 8 3 2 2 3 98 3 3 1 d 3 1 7 3 4 1 3 6 1 3 3 2 3 c6 40 ",
  "3 20b 1 3 1 1 5 0 2 3 1a 5 3 31 5 3 5 6 3 60 21 3 bfe 3 3 8d 1 3 60 20 3 22a 4 3 6b 2 3 ",
  "75d4 4 3 1 a 3 20 2 3 50 2 3 110 1 3 3 1 3 4 1 3 19 2 3 5 1 3 13 32 2 0 1 1 51 2 3 1a 12 3 ",
  "d 1 3 26 8 3 19 b 3 2e 3 3 30 1 3 2 4 3 2 2 3 27 1 3 43 6 3 2 2 3 2 2 3 c 1 3 8 1 3 2f 1 3 ",
  "33 1 3 1 3 3 2 2 3 5 2 3 1 1 3 2a 2 3 8 1 3 ee 1 3 2 1 3 4 1 3 4f30 1 3 2e1 10 3 10 10 3 cf ",
  "1 3 f9 3 3 201 1 3 e2 1 3 95 5 3 686 3 3 1 2 3 5 4 3 28 3 3 4 1 3 80 5 2 0 1 4 1 1 4 1 2 4 ",
  "2 1 1 0 5 4 0 4 2 0 1 1 0 5 2 0 1 4 0 3 2 0 1 4 2 1 4 0 2 3 4 4 2 0 1 4 90 1 2 0 1 4 0 1 2 ",
  "0 3 4 0 3 2 0 1 4 0 2 2 0 1 4 0 1 2 0 2 4 0 1 2 0 1 4 17 4 4 0 2 2 151 1 1 0 21 2 0 1 4 0 1 ",
  "2 0 4 3 41 5 3 13d 2 3 15 1 4 0 2 2 1 2 2 32 6 3 30 3 2 0 1 4 0 11 2 1 b 3 0 3 2 0 1 4 1b 4 ",
  "2 0 2 4 0 c 2 0 4 3 2a 1 2 1 2 2 0 3 4 1 1 2 0 2 4 0 2 2 0 1 4 0 2 2 1 1 2 0 2 4 0 1 2 4 1 ",
  "4 0 1 2 0 1 1 35 1 3 36 f 3 29 1 3 2 2 3 a 3 3 31 4 3 2 2 3 7 1 3 3d 3 3 24 5 3 1 8 3 3e 1 ",
  "3 c 2 3 34 9 3 a 4 3 2 1 3 5f 3 3 2 1 3 1 2 3 6 1 3 2 1 3 9d 1 3 3 8 3 15 2 3 39 2 3 3 1 3 ",
  "25 7 3 3 5 3 46 6 3 d 1 3 1 1 3 1 1 3 e 2 3 55 8 3 2 3 3 1 1 3 17 1 3 54 6 3 1 1 3 4 2 3 1 ",
  "2 3 ee 4 3 6 2 3 1 2 3 1b 2 3 55 8 3 2 1 3 1 2 3 6a 1 3 1 1 3 2 6 3 1 1 3 65 1 3 1 1 3 2 4 ",
  "3 1 5 3 103 9 3 1 2 3 100 2 3 1 1 3 4 1 3 90 4 3 2 2 3 4 1 3 20 a 3 28 6 3 2 4 3 8 1 3 9 6 ",
  "3 2 3 3 2e d 3 1 2 3 c6 1 3 1 3 3 1 1 3 c9 7 3 1 6 3 1 1 3 52 16 3 2 7 3 1 2 3 1 2 3 7a 6 3 ",
  "3 1 3 1 2 3 1 7 3 1 1 3 48 2 3 3 1 3 1 1 3 15b 2 3 b 2 3 34 5 3 5 1 3 1 1 3 17 1 3 14d5 11 ",
  "3 6 f 3 2cc8 c 3 3 3 3 9c0 5 3 3b 7 3 418 1 3 3f 4 3 51 1 3 4cb8 2 3 1 4 3 125c 2e 3 2 17 3 ",
  "220 3 3 9 10 3 2 7 3 1e 4 3 94 3 3 7bb 37 3 4 32 3 8 1 3 e 1 3 16 5 3 1 f 3 550 7 3 1 11 3 ",
  "2 7 3 1 2 3 1 5 3 64 1 3 a0 7 3 177 1 3 3d 4 3 1fc 4 3 fe 2 3 f3 1 3 2 1 3 7 2 3 5 1 3 1da ",
  "7 3 29 44 2 0 8 3 c16b5 1 3 1e 60 3 80 f0 3"]

def markGaps : String := String.join [
  "300 70 113 7 107 2d 1 1 1 2 1 2 1 1 48 b 30 15 10 1 65 7 2 6 2 2 1 4 23 1 1e 1b 5b b 3a 9 9 ",
  "1 18 4 1 9 1 3 1 5 2b 3 3c 8 2a 18 1 21 36 3 1 12 1 7 a 2 1d 3 38 1 1 7 2 2 2 3 9 1 a 2 1a ",
  "1 2 3 38 1 1 5 4 2 2 3 3 1 1e 2 3 1 b 3 38 1 1 8 1 3 1 3 14 2 16 6 1 3 38 1 1 7 2 2 2 3 7 3 ",
  "a 2 1e 1 3b 5 3 3 1 4 9 1 28 5 37 1 1 7 1 3 1 4 7 2 b 2 1d 3 38 1 1 7 1 3 1 4 7 2 b 2 f 1 c ",
  "4 37 2 1 7 1 3 1 4 9 1 a 2 1d 3 46 1 4 6 1 1 1 8 12 2 3d 1 2 7 c 8 62 1 2 9 b 7 49 2 1b 1 1 ",
  "1 1 1 4 2 31 14 1 2 5 b 1 24 9 1 64 14 17 4 4 3 1 3 2 7 3 4 d c 1 1 a 4 2bf 3 3b2 4 1c 3 1d ",
  "2 1e 2 40 20 9 1 2d 3 1 1 75 2 22 1 76 c 4 c db 5 39 a 1 1d 2 1 30 1f 31 5 2f 11 26 9 c 3 ",
  "1e d 38 e 30 14 98 3 1 15 4 1 6 1 2 3 c6 40 2d0 21 bfe 3 8d 1 60 20 22a 6 69 2 75d4 4 1 a ",
  "20 2 50 2 110 1 3 1 4 1 17 5 4 1 53 2 32 12 1a 12 d 1 26 8 19 d 2c 4 2f e 24 1 43 e c 1 8 2 ",
  "2d 3 32 1 1 3 2 2 5 2 1 1 29 5 5 2 ec 8 1 2 4f30 1 2e1 10 10 10 3cd 1 e2 1 95 5 686 3 1 2 5 ",
  "4 28 3 4 1 a5 2 23d 4 183 2 50 3 46 b 31 4 7a 3 35 f 29 1 2 2 a 4 2d b 7 1 3d 3 24 e 10 2 ",
  "2c 1 c 3 30 e 8 4 1 2 5c c 6 1 2 1 9d c 15 4 37 2 1 7 2 2 2 3 9 1 a 2 2 7 3 5 c0 12 17 1 51 ",
  "14 eb 7 2 9 1b 2 52 11 6a d 65 f 100 f f5 6 1 2 2 4 1 1 1 2 8d 7 2 7 3 1 1c a 28 7 1 4 8 1 ",
  "9 b 2e 10 195 8 1 8 52 16 1 e 7a 6 3 1 1 2 1 7 1 1 42 5 1 2 1 5 15b 4 9 2 1 1 30 7 3 5 14fd ",
  "1 6 f 369a 5 3b 7 418 1 1 37 7 4 51 1 b 2 4cab 2 1261 2e 2 17 21e 5 3 6 8 8 2 7 1e 4 94 3 ",
  "7bb 37 4 32 8 1 e 1 16 5 1 f 550 7 1 11 2 7 1 2 1 5 64 1 a0 7 177 1 3d 4 1fc 4 3e0 7 6d 7 ",
  "c17b5 f0"]

inductive Joining where
  | never
  | leftOnly
  | both
  | across
  | rightOnly
deriving Repr, DecidableEq

def Joining.ofNumber : Nat → Joining
  | 1 => .leftOnly
  | 2 => .both
  | 3 => .across
  | 4 => .rightOnly
  | _ => .never

def joiningRanges : List (Nat × Nat × Nat) :=
  valued joiningText

def joining (c : Char) : Joining :=
  .ofNumber (valueAt joiningRanges c.toNat)

def markRanges : Ranges :=
  Ranges.ofGaps markGaps

def isMark (c : Char) : Bool :=
  0x300 ≤ c.toNat && markRanges.contains c.toNat

def nonJoiner : Char := Char.ofNat 0x200C

def joiner : Char := Char.ofNat 0x200D

/-- The combining class of signs that join consonants. -/
def viramaClass : Nat := 9

/-- The nearest letter, signs apart that letters join across. -/
def nearest (letters : List Char) : Joining :=
  match (letters.map joining).find? (· != .across) with
  | some joining => joining
  | none => .never

/-- Whether joiners may stand where they do; `before` is what precedes, the nearest first. -/
def joinersFit (before : List Char) : List Char → Bool
  | [] => true
  | c :: rest =>
    let afterVirama := before.head?.any fun b => combiningClass b = viramaClass
    let between :=
      [.leftOnly, .both].contains (nearest before) && [.rightOnly, .both].contains (nearest rest)
    let fits :=
      if c = joiner then afterVirama
      else if c = nonJoiner then afterVirama || between
      else true
    fits && joinersFit (c :: before) rest

end Televisor.Unicode
