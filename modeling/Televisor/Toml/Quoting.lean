import Televisor.Text.Hex

namespace Televisor.Toml

/-! Texts of TOML in their four notations. -/

/-- Characters that may stand in a comment or, delimiters apart, in a text on one line. -/
def isLineChar (c : Char) : Bool :=
  c = '\t' || (0x20 ≤ c.toNat && c.toNat != 0x7F)

def isBlank (c : Char) : Bool :=
  c = ' ' || c = '\t'

def afterLineEnd? : List Char → Option (List Char)
  | '\n' :: rest => some rest
  | '\r' :: '\n' :: rest => some rest
  | _ => none

def codePoint? (digits : List Char) : Option Char := do
  let values ← digits.mapM Text.hexValue?
  let code := values.foldl (fun n value => n * 16 + value) 0
  if code < 0xD800 || (0xDFFF < code && code < 0x110000) then return Char.ofNat code else none

/-- The character an escape stands for, after its backslash. -/
def escape? : List Char → Option (Char × List Char)
  | 'b' :: rest => some (Char.ofNat 8, rest)
  | 't' :: rest => some ('\t', rest)
  | 'n' :: rest => some ('\n', rest)
  | 'f' :: rest => some (Char.ofNat 12, rest)
  | 'r' :: rest => some ('\r', rest)
  | '"' :: rest => some ('"', rest)
  | '\\' :: rest => some ('\\', rest)
  | 'u' :: rest =>
    if 4 ≤ rest.length then (codePoint? (rest.take 4)).map (·, rest.drop 4) else none
  | 'U' :: rest =>
    if 8 ≤ rest.length then (codePoint? (rest.take 8)).map (·, rest.drop 8) else none
  | _ => none

def dropLines (text : List Char) : List Char :=
  match text with
  | ' ' :: rest => dropLines rest
  | '\t' :: rest => dropLines rest
  | '\n' :: rest => dropLines rest
  | '\r' :: '\n' :: rest => dropLines rest
  | text => text

/-- The text after a backslash that ends its line, with all blanks and line ends after it gone. -/
def afterFold? (text : List Char) : Option (List Char) :=
  match afterLineEnd? (text.dropWhile isBlank) with
  | some rest => some (dropLines rest)
  | none => none

/-- The rest of a text on one line; `literal` texts know no escapes.  `fuel` is at least the number
of characters. -/
def readLine? (literal : Bool) (acc : List Char) (fuel : Nat) (text : List Char) :
    Option (String × List Char) :=
  match fuel, text with
  | fuel + 1, c :: rest =>
    if c = (if literal then '\'' else '"') then some (String.ofList acc.reverse, rest)
    else if c = '\\' && !literal then
      match escape? rest with
      | some (c, rest) => readLine? literal (c :: acc) fuel rest
      | none => none
    else if isLineChar c then readLine? literal (c :: acc) fuel rest
    else none
  | _, _ => none

/-- The rest of a text over several lines, up to three delimiters; one or two more belong to the
text. -/
def readLines? (literal : Bool) (acc : List Char) (fuel : Nat) (text : List Char) :
    Option (String × List Char) :=
  match fuel, text with
  | fuel + 1, c :: rest =>
    let delimiter := if literal then '\'' else '"'
    let run := ((c :: rest).takeWhile (· = delimiter)).length
    if 3 ≤ run then
      let kept := min (run - 3) 2
      let text := String.ofList (List.replicate kept delimiter ++ acc).reverse
      some (text, (c :: rest).drop (kept + 3))
    else if c = '\\' && !literal then
      match afterFold? rest with
      | some rest => readLines? literal acc fuel rest
      | none =>
        match escape? rest with
        | some (c, rest) => readLines? literal (c :: acc) fuel rest
        | none => none
    else if isLineChar c then readLines? literal (c :: acc) fuel rest
    else
      match afterLineEnd? (c :: rest) with
      | some rest => readLines? literal ('\n' :: acc) fuel rest
      | none => none
  | _, _ => none

/-- The line end right after the opening delimiters does not count. -/
def dropFirstLineEnd (text : List Char) : List Char :=
  (afterLineEnd? text).getD text

def readKeyText? : List Char → Option (String × List Char)
  | '"' :: rest => readLine? false [] (rest.length + 1) rest
  | '\'' :: rest => readLine? true [] (rest.length + 1) rest
  | _ => none

def readText? : List Char → Option (String × List Char)
  | '"' :: '"' :: '"' :: rest => readLines? false [] (rest.length + 1) (dropFirstLineEnd rest)
  | '\'' :: '\'' :: '\'' :: rest => readLines? true [] (rest.length + 1) (dropFirstLineEnd rest)
  | text => readKeyText? text

end Televisor.Toml
