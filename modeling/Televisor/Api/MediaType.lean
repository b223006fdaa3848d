namespace Televisor.Api

/-! The type of a request's body, as its header gives it: a type, a subtype that may end in a suffix,
and parameters. -/

def isTokenChar (c : Char) : Bool :=
  c.isAlphanum || ['!', '#', '$', '%', '&', '\'', '*', '+', '-', '.', '^', '_', Char.ofNat 0x60, '|',
    '~'].contains c

def isQuotedChar (c : Char) : Bool :=
  0x20 ≤ c.toNat && c.toNat != 0x7F

/-- What follows the quote that closes a value, if one does. -/
def afterQuote? : List Char → Option (List Char)
  | [] => none
  | '"' :: rest => some rest
  | c :: rest => if isQuotedChar c then afterQuote? rest else none

/-- What follows the semicolon after a value in quotes, with blanks before it; nothing at the end. -/
def afterQuotedValue? (text : List Char) : Option (List Char) :=
  match text.dropWhile (· = ' ') with
  | [] => some []
  | ';' :: rest => some rest
  | _ => none

/-- What follows a value and its semicolon; a value in quotes has at least one character, whatever it
is. -/
def afterValue? (text : List Char) : Option (List Char) :=
  match text with
  | ['"'] => none
  | '"' :: first :: rest =>
    if isQuotedChar first then (afterQuote? rest).bind afterQuotedValue? else none
  | _ =>
    match text.dropWhile isTokenChar with
    | [] => some []
    | ';' :: rest => if text.head?.any isTokenChar then some rest else none
    | _ => none

def afterParameter? (text : List Char) : Option (List Char) :=
  match text.takeWhile isTokenChar, text.dropWhile isTokenChar with
  | _ :: _, '=' :: rest => afterValue? rest
  | _, _ => none

/-- Whether the text is a list of parameters; `fuel` bounds their number. -/
def areParameters : (fuel : Nat) → List Char → Bool
  | 0, _ => false
  | fuel + 1, text =>
    match text.dropWhile (· = ' ') with
    | [] => true
    | rest =>
      match afterParameter? rest with
      | some after => areParameters fuel after
      | none => false

structure MediaType where
  type : String
  subtype : String
  suffix : Option String
deriving Repr, DecidableEq

/-- Splits a subtype at its last plus sign, unless it is its first character. -/
def splitSuffix (text : List Char) : List Char × Option (List Char) :=
  let suffix := (text.reverse.takeWhile (· ≠ '+')).reverse
  let before := text.take (text.length - suffix.length - 1)
  if suffix.length = text.length || before.isEmpty then (text, none) else (before, some suffix)

namespace MediaType

def ofText? (text : String) : Option MediaType :=
  let chars := text.toList
  match chars.takeWhile isTokenChar, chars.dropWhile isTokenChar with
  | type@(_ :: _), '/' :: rest =>
    match rest.takeWhile isTokenChar, rest.dropWhile isTokenChar with
    | [], _ => none
    | whole@(_ :: _), after =>
      let ends :=
        match after with
        | [] => true
        | c :: parameters => (c = ';' || c = ' ') && areParameters (parameters.length + 1) parameters
      if ends then
        let (subtype, suffix) := splitSuffix whole
        let small (letters : List Char) := String.ofList (letters.map Char.toLower)
        some ⟨small type, small subtype, suffix.map small⟩
      else none
  | _, _ => none

def isJson (media : MediaType) : Bool :=
  media.type = "application" && (media.subtype = "json" || media.suffix = some "json")

end MediaType

end Televisor.Api
