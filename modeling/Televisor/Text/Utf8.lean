namespace Televisor.Text

/-! UTF-8 sizes, encoding and decoding of byte lists. -/

def utf8Length (text : List Char) : Nat :=
  text.foldl (fun size c => size + c.utf8Size) 0

def utf8Bytes (text : List Char) : List UInt8 :=
  text.flatMap String.utf8EncodeChar

def isContinuation (byte : UInt8) : Bool :=
  0x80 ≤ byte && byte ≤ 0xBF

/-- Whether a byte may stand second after the given lead byte. -/
def isSecond (lead byte : UInt8) : Bool :=
  if lead == 0xE0 then 0xA0 ≤ byte && byte ≤ 0xBF
  else if lead == 0xED then 0x80 ≤ byte && byte ≤ 0x9F
  else if lead == 0xF0 then 0x90 ≤ byte && byte ≤ 0xBF
  else if lead == 0xF4 then 0x80 ≤ byte && byte ≤ 0x8F
  else isContinuation byte

def tailBits (byte : UInt8) : Nat :=
  byte.toNat % 64

/-- The character at the head of the bytes, or nothing where they are ill-formed, and how many of
the bytes after the first belong to it. -/
def headChar (lead : UInt8) (rest : List UInt8) : Option Char × Nat :=
  if lead < 0x80 then (some (Char.ofNat lead.toNat), 0)
  else if lead < 0xC2 || 0xF4 < lead then (none, 0)
  else
    match rest with
    | [] => (none, 0)
    | second :: rest =>
      if !isSecond lead second then (none, 0)
      else if lead < 0xE0 then (some (Char.ofNat (lead.toNat % 32 * 64 + tailBits second)), 1)
      else
        match rest with
        | [] => (none, 1)
        | third :: rest =>
          if !isContinuation third then (none, 1)
          else if lead < 0xF0 then
            (some (Char.ofNat (lead.toNat % 16 * 4096 + tailBits second * 64 + tailBits third)), 2)
          else
            match rest with
            | [] => (none, 2)
            | fourth :: _ =>
              if !isContinuation fourth then (none, 2)
              else
                (some (Char.ofNat (lead.toNat % 8 * 262144 + tailBits second * 4096 +
                  tailBits third * 64 + tailBits fourth)), 3)

def decodeUtf8 : List UInt8 → List (Option Char)
  | [] => []
  | lead :: rest =>
    let head := headChar lead rest
    head.1 :: decodeUtf8 (rest.drop head.2)
termination_by bytes => bytes.length
decreasing_by simp only [List.length_drop, List.length_cons]; omega

/-- The text of well-formed bytes. -/
def textOfUtf8? (bytes : List UInt8) : Option String :=
  ((decodeUtf8 bytes).mapM id).map String.ofList

/-- The text of any bytes, with U+FFFD for each ill-formed run. -/
def textOfUtf8Lossy (bytes : List UInt8) : String :=
  String.ofList ((decodeUtf8 bytes).map (·.getD (Char.ofNat 0xFFFD)))

end Televisor.Text
