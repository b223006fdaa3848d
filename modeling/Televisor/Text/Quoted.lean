import Televisor.Text.Printable

namespace Televisor.Text

/-! Quoted texts in messages: between double quotes, with a backslash before quotes and backslashes,
the usual letters for NUL, tab and line ends, and the code point of any other unprintable
character. -/

def quotedChar (c : Char) : List Char :=
  match c with
  | '\x00' => ['\\', '0']
  | '\t' => ['\\', 't']
  | '\r' => ['\\', 'r']
  | '\n' => ['\\', 'n']
  | '"' => ['\\', '"']
  | '\\' => ['\\', '\\']
  | c => if isPrintable c then [c] else ['\\', 'u', '\x7b'] ++ hexNumber c.toNat ++ ['\x7d']

def quoted (text : String) : String :=
  String.ofList ('"' :: text.toList.flatMap quotedChar ++ ['"'])

end Televisor.Text
