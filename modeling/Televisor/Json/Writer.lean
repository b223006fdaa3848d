import Televisor.Decimal.Layout
import Televisor.Text.Hex

namespace Televisor.Json

/-! Writing JSON without blanks. -/

/-- How a character stands inside a JSON text. -/
def escapedChar (c : Char) : List Char :=
  if c = '"' then ['\\', '"']
  else if c = '\\' then ['\\', '\\']
  else if c = '\n' then ['\\', 'n']
  else if c = '\r' then ['\\', 'r']
  else if c = '\t' then ['\\', 't']
  else if c.toNat = 8 then ['\\', 'b']
  else if c.toNat = 12 then ['\\', 'f']
  else if c.toNat < 0x20 then
    ['\\', 'u', '0', '0', Text.hexDigit (c.toNat / 16), Text.hexDigit (c.toNat % 16)]
  else [c]

def writeText (text : String) : String :=
  String.ofList ('"' :: text.toList.flatMap escapedChar ++ ['"'])

def writeBool (value : Bool) : String :=
  if value then "true" else "false"

def writeList (items : List String) : String :=
  "[" ++ String.intercalate "," items ++ "]"

/-- The fields are already written. -/
def writeObject (fields : List (String × String)) : String :=
  let members := fields.map fun field => writeText field.1 ++ ":" ++ field.2
  "\x7b" ++ String.intercalate "," members ++ "\x7d"

def writeOption (value : Option String) : String :=
  value.getD "null"

end Televisor.Json
