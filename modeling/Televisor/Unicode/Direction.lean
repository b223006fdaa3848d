import Televisor.Unicode.Composition

namespace Televisor.Unicode

/-! The direction that characters are written in, and which names may mix directions. -/

/-- Directions other than left to right: gap, size and number of each range. -/
def directionText : String := String.join [
  "0 9 9 0 5 b 0 e 9 0 5 b 0 2 8 0 3 7 0 5 8 0 1 5 0 1 6 0 1 5 0 2 6 0 a 4 0 1 6 0 6 8 1a 6 8 ",
  "1a 4 8 0 6 9 0 1 b 0 1a 9 0 1 6 0 1 8 0 4 7 0 4 8 1 2 8 0 1 9 0 2 8 0 2 7 0 2 4 0 1 8 1 3 8 ",
  "0 1 4 1 5 8 17 1 8 1f 1 8 1c1 2 8 7 e 8 2 e 8 5 9 8 1 11 8 0 70 a 4 2 8 8 1 8 5 2 8 1 1 8 ",
  "6e 1 8 8c 7 a 100 1 8 2 2 8 0 1 7 1 2d a 0 1 1 0 1 a 0 1 1 0 2 a 0 1 1 0 2 a 0 1 1 0 1 a 8 ",
  "1b 1 4 6 1 b 6 3 0 2 8 0 1 2 0 2 7 0 1 2 0 1 6 0 1 2 0 2 8 0 b a 0 30 2 0 15 a 0 a 3 0 1 7 ",
  "0 2 3 0 3 2 0 1 a 0 65 2 0 7 a 0 1 3 0 1 8 0 6 a 0 2 2 0 2 a 0 1 8 0 4 a 0 2 2 0 a 4 0 14 2 ",
  "1 2 2 0 1 a 0 1e 2 0 1b a 2 59 2 0 b a 0 1 2 e 2b 1 0 9 a 0 2 1 0 4 8 0 1 1 2 1 a 0 18 1 0 ",
  "4 a 0 1 1 0 9 a 0 1 1 0 3 a 0 1 1 0 5 a 2 f 1 1 19 1 0 3 a 2 1 1 1 b 2 5 1f 2 1 2 3 6 8 a 0 ",
  "2a 2 0 18 a 0 1 3 0 20 a 37 1 a 1 1 a 4 8 a 4 1 a 3 7 a a 2 a 1d 1 a 3a 1 a 4 4 a 8 1 a 14 ",
  "2 a e 2 7 7 1 7 2 1 a 2 2 a 39 1 a 4 2 a 4 2 a 2 3 a 3 1 a 1e 2 a 3 1 a b 2 a 39 1 a 4 5 a ",
  "1 2 a 4 1 a 14 2 a d 1 7 8 6 a 1 1 a 3a 1 a 2 1 a 1 4 a 8 1 a 7 2 a b 2 a 1e 1 a 3d 1 a c 1 ",
  "a 25 6 8 0 1 7 0 1 8 5 1 a 3 1 a 37 1 a 1 3 a 5 3 a 1 4 a 7 2 a b 2 a 14 7 8 2 1 a 3a 1 a f ",
  "2 a 14 2 a 1c 2 a 39 2 a 4 4 a 8 1 a 14 2 a 1d 1 a 48 1 a 7 3 a 1 1 a 5a 1 a 2 7 a 4 1 7 7 ",
  "8 a 62 1 a 2 9 a b 7 a 49 2 a 1b 1 a 1 1 a 1 1 a 0 4 8 33 e a 1 5 a 1 2 a 5 b a 1 24 a 9 1 ",
  "a 66 4 a 1 6 a 1 2 a 2 2 a 19 2 a 4 3 a 10 4 a d 1 a 2 2 a 6 1 a f 1 a 2bf 3 a 30 a 8 66 1 ",
  "8 27f 1 b 1a 2 8 75 3 a 1d 2 a 1e 2 a 1e 2 a 40 2 a 1 7 a 8 1 a 2 b a 7 1 7 1 1 a 12 a 8 6 ",
  "b 8 0 3 a 0 1 9 0 1 a 75 2 a 22 1 a 76 3 a 4 2 a 9 1 a 6 3 a 4 1 8 3 2 8 98 22 8 17 2 a 2 1 ",
  "a 3a 1 a 1 7 a 1 1 a 1 1 a 2 8 a 6 a a 2 1 a 30 1f a 31 4 a 30 1 a 1 5 a 1 1 a 5 1 a 28 9 a ",
  "c 2 a 20 4 a 2 2 a 1 3 a 38 1 a 1 2 a 3 1 a 1 3 a 3a 8 a 2 2 a 98 3 a 1 d a 1 7 a 4 1 a 6 1 ",
  "a 3 2 a c6 40 a 1bd 1 8 1 3 8 b 3 8 d 3 8 d 3 8 d 2 8 1 b b 0 3 9 1 1 1 0 18 8 0 7 b 0 1 6 ",
  "0 5 7 0 f 8 0 1 6 0 1a 8 0 1 b 0 5 9 1 4 b 0 6 9 0 1 4 3 6 4 0 2 5 0 3 8 1 a 4 0 2 5 0 3 8 ",
  "11 21 7 f 21 a f 2 8 1 4 8 1 2 8 a 1 8 1 3 8 5 6 8 1 1 8 1 1 8 1 1 8 4 1 7 b 2 8 4 5 8 5 4 ",
  "8 2 10 8 29 3 8 4 82 8 0 1 5 0 1 7 0 122 8 45 1a 8 1 91 8 19 b 8 15 28 8 0 14 4 4e 1c2 8 1 ",
  "153 8 100 274 8 2 20 8 1 69 8 e5 6 8 4 3 a 7 7 8 7f 1 a 60 20 a 0 5e 8 22 1a 8 1 59 8 c d6 ",
  "8 1a c 8 4 1 b 0 4 8 3 19 8 9 4 a 2 1 8 5 2 8 5 3 8 59 2 a 0 2 8 3 1 8 5a 1 8 c4 24 8 39 2 ",
  "8 31 10 8 1c 3 8 32 f 8 c 4 8 a7 4 8 63 2 8 1f 1 8 19c0 40 8 5690 37 8 146 3 8 5f 4 a 0 1 8 ",
  "0 a a 0 2 8 1e 2 a 50 2 a e 22 8 66 1 8 79 1 a 3 1 a 4 1 a 19 2 a 1 4 8 0 1 a b 2 7 3a 4 8 ",
  "4c 2 a 1a 12 a d 1 a 26 8 a 19 b a 2e 3 a 30 1 a 2 4 a 2 2 a 27 1 a 43 6 a 2 2 a 2 2 a c 1 ",
  "a 8 1 a 2f 1 a 33 1 a 1 3 a 2 2 a 5 2 a 1 1 a 2a 2 a 8 1 a 73 2 8 79 1 a 2 1 a 4 1 a 4f2f 1 ",
  "1 0 1 a 0 a 1 0 1 5 0 d 1 1 5 1 1 1 1 1 2 1 1 2 1 1 a 1 0 73 2 10 16b 2 0 12 8 0 40 2 2 36 ",
  "2 7 1 8 20 d 2 0 3 8 0 10 a 0 a 8 6 10 a 0 20 8 0 1 6 0 1 8 0 1 6 1 1 8 0 1 6 0 9 8 0 1 7 0 ",
  "2 8 0 2 5 0 3 8 1 1 8 0 2 7 0 1 8 4 5 2 1 87 2 2 1 9 1 2 8 0 3 7 0 5 8 0 1 5 0 1 6 0 1 5 0 ",
  "2 6 0 a 4 0 1 6 0 6 8 1a 6 8 1a b 8 7a 2 7 0 3 8 0 2 7 1 7 8 a 5 8 103 1 8 3e 4d 8 3 d 8 3 ",
  "1 8 5c 1 a e2 1 a 0 1b 4 7a 5 a 485 6 1 2 1 1 1 2c 1 1 2 1 3 1 1 2 17 1 1 48 1 8 9 1 30 13 ",
  "1 1 2 1 5 21 1 3 1 8 0 1a 1 5 1 1 40 38 1 4 14 1 2 2f 1 0 3 a 1 2 a 5 4 a 0 4 1 1 3 1 1 1d ",
  "1 2 3 a 4 1 a 0 9 1 7 9 1 7 40 1 20 25 1 0 2 a 4 c 1 9 36 1 3 7 8 0 16 1 2 1b 1 5 1a 1 7 4 ",
  "1 c 7 1 50 49 1 37 33 1 d 33 1 7 6 1 0 24 2 0 4 a 8 a 3 126 1f 3 1 2a 1 1 2 a 0 1 1 2 2 1 ",
  "4b 3 a 0 28 1 8 16 2 0 b a 0 9 2 16 12 1 0 4 a 0 4 1 26 1c 1 14 17 1 a 1 a 36 f a b 14 8 a ",
  "1 a 2 2 a a 3 a 31 4 a 2 2 a 7 1 a 3d 3 a 24 5 a 1 8 a 3e 1 a c 2 a 34 9 a a 4 a 2 1 a 5f 3 ",
  "a 2 1 a 1 2 a 6 1 a 2 1 a 9d 1 a 3 8 a 15 2 a 39 2 a 3 1 a 25 7 a 3 5 a c3 8 a 2 3 a 1 1 a ",
  "17 1 a 54 6 a 1 1 a 4 2 a 1 2 a ee 4 a 6 2 a 1 2 a 1b 2 a 55 8 a 2 1 a 1 2 a 1f d 8 3e 1 a ",
  "1 1 a 2 6 a 1 1 a 65 3 a 2 4 a 1 5 a 103 9 a 1 2 a 100 2 a 1 1 a 4 1 a 90 4 a 2 2 a 4 1 a ",
  "20 6 a 2 2 a 28 6 a 2 4 a 8 1 a 9 6 a 2 3 a 2e d a 1 2 a 196 7 a 1 6 a 54 16 a 2 7 a 1 2 a ",
  "1 2 a 7a 6 a 3 1 a 1 2 a 1 7 a 1 1 a 48 2 a 3 1 a 1 1 a 15b 2 a b 2 a 34 5 a 5 1 a 1 1 a 92 ",
  "8 8 0 4 7 0 11 8 144e 1 a 6 f a 369a 5 a 3b 7 a 418 1 a 3f 4 a 4f 1 8 1 1 a 4cb8 2 a 1 4 9 ",
  "125c 2e a 2 17 a 220 3 a 9 8 9 0 8 a 2 7 a 1e 4 a 3b 2 8 15 42 8 0 3 a 0 1 8 ba 57 8 384 1 ",
  "8 39 1 8 39 1 8 39 1 8 39 1 8 a 32 4 200 37 a 4 32 a 8 1 a e 1 a 16 5 a 1 f a 550 7 a 1 11 ",
  "a 2 7 a 1 2 a 1 5 a 64 1 a a0 7 a 177 1 a 3d 4 a f 1 7 1ec 4 a 310 c5 1 2 9 1 0 7 a 29 44 1 ",
  "0 7 a 0 1 1 4 a 1 4 2 1 311 44 2 4c 3d 2 c2 4 2 1 1b 2 1 2 2 1 1 2 2 1 2 1 a 2 1 4 2 1 1 2 ",
  "1 1 2 6 1 2 4 1 2 1 1 2 1 1 2 1 3 2 1 2 2 1 1 2 2 1 2 1 1 2 1 1 2 1 1 2 1 1 2 1 2 2 1 1 2 2 ",
  "4 2 1 7 2 1 4 2 1 4 2 1 1 2 1 a 2 1 11 2 5 3 2 1 5 2 1 11 2 34 2 8 10e 2c 8 4 64 8 c f 8 2 ",
  "f 8 1 f 8 1 25 8 a b 4 0 5 8 1f 1 8 3a 6 8 3d 1 8 b2 6 8 9a 3d8 8 4 11 8 3 d 8 3 77 8 4 5f ",
  "8 6 c 8 4 1 8 f c 8 4 38 8 8 a 8 6 28 8 8 1e 8 2 2 8 4e 154 8 c e 8 2 d 8 3 9 8 7 2e 8 1 7 ",
  "8 8 e 8 4 9 8 7 9 8 7 93 8 1 37 8 25 a 4 c0407 1 9 1e 60 9 80 f0 a"]

inductive Direction where
  | left
  | right
  | arabic
  | arabicNumber
  | number
  /-- Signs that go with numbers. -/
  | numeric
  | neutral
  | mark
  /-- Direction controls and separators. -/
  | other
deriving Repr, DecidableEq

def Direction.ofNumber : Nat → Direction
  | 0 => .left
  | 1 => .right
  | 2 => .arabic
  | 3 => .arabicNumber
  | 4 => .number
  | 5 => .numeric
  | 6 => .numeric
  | 7 => .numeric
  | 8 => .neutral
  | 9 => .neutral
  | 10 => .mark
  | _ => .other

def directionRanges : List (Nat × Nat × Nat) :=
  valued directionText

def direction (c : Char) : Direction :=
  .ofNumber (valueAt directionRanges c.toNat)

def Direction.isLeftward : Direction → Bool
  | .right | .arabic | .arabicNumber => true
  | _ => false

def lastDirection? (label : List Char) : Option Direction :=
  (label.reverse.map direction).find? (· != .mark)

/-- What a name that is written from right to left may hold. -/
def mayStandLeftward : Direction → Bool
  | .left | .other => false
  | _ => true

/-- What a name that is written from left to right may hold. -/
def mayStandRightward : Direction → Bool
  | .left | .number | .numeric | .neutral | .mark => true
  | _ => false

/-- Whether a name keeps to the rules for names near others that are written from right to left. -/
def isDirected (label : List Char) : Bool :=
  let directions := label.map direction
  match directions.head? with
  | none => true
  | some .left =>
    directions.all mayStandRightward && [some .left, some .number].contains (lastDirection? label)
  | some first =>
    (first == .right || first == .arabic) && directions.all mayStandLeftward &&
      [some .right, some .arabic, some .number, some .arabicNumber].contains
        (lastDirection? label) &&
      !(directions.contains .number && directions.contains .arabicNumber)

end Televisor.Unicode
