import Televisor.Unicode.Direction
import Televisor.Unicode.Folding
import Televisor.Unicode.Joining
import Televisor.Url.Encoding
import Televisor.Url.Punycode

namespace Televisor.Url

open Text Unicode

/-! Domain names in the ASCII form that URLs use.  A name is folded and composed first; a label that
then is not ASCII is written in Punycode, and one that looks like Punycode must be what it would be
written as. -/

/-- Characters that no domain name in a URL may hold. -/
def isForbiddenInDomain (c : Char) : Bool :=
  c.toNat ≤ 0x20 || c.toNat = 0x7F ||
    ['#', '%', '/', ':', '<', '>', '?', '@', '[', '\\', ']', '^', '|'].contains c

def isAscii (c : Char) : Bool :=
  c.toNat < 0x80

/-- What a label in Punycode begins with. -/
def punycodeMark : List Char := "xn--".toList

structure Label where
  letters : List Char
  ascii : List Char
deriving Repr, DecidableEq

/-- Whether folding and composing leave the letters as they are. -/
def isSettled (letters : List Char) : Bool :=
  letters.all (fun c => foldChar? c == some [c]) && composed letters == letters

def readLabel? (label : List Char) : Option Label :=
  match behind? punycodeMark label with
  | some digits =>
    match if digits.all isAscii then Punycode.decode? digits else none with
    | some letters =>
      if !letters.all isAscii && isSettled letters then some ⟨letters, label⟩ else none
    | none => none
  | none =>
    if label.all isAscii then some ⟨label, label⟩
    else some ⟨label, punycodeMark ++ Punycode.encode label⟩

/-- Whether a label may stand in a name; `directed` tells whether the name has letters that are
written from right to left. -/
def Label.isValid (label : Label) (directed : Bool) : Bool :=
  !label.letters.head?.any isMark && joinersFit [] label.letters &&
    (!directed || isDirected label.letters)

def internationalToAscii? (name : List Char) : Option (List Char) := do
  let folded ← fold? name
  let labels ← (splitAll '.' (composed folded)).mapM readLabel?
  let directed := labels.any fun label => label.letters.any fun c => (direction c).isLeftward
  let letters := labels.flatMap (·.letters)
  if labels.all (·.isValid directed) && !letters.any isForbiddenInDomain then
    return ['.'].intercalate (labels.map (·.ascii))
  else none

def isPlain (name : List Char) : Bool :=
  name.all isAscii &&
    (splitAll '.' (name.map Char.toLower)).all fun label => (behind? punycodeMark label).isNone

def domainToAscii? (name : List Char) : Option (List Char) :=
  if isPlain name then
    let lower := name.map Char.toLower
    if lower.any isForbiddenInDomain then none else some lower
  else internationalToAscii? name

def readDomain? (text : List Char) : Option (List Char) := do
  let name ← textOfUtf8? (percentDecode (utf8Bytes text))
  domainToAscii? name.toList

end Televisor.Url
