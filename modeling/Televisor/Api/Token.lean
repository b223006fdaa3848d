import Televisor.Text.Search
import Televisor.Url.Encoding

namespace Televisor.Api

/-! Whether a request carries the token. -/

/-- Header values are bytes, given here as text. -/
abbrev Headers := List (String × String)

/-- The first header of that name, in any case. -/
def header? (headers : Headers) (name : String) : Option String :=
  (headers.find? fun header => header.1.map Char.toLower == name).map (·.2)

def isReadable (value : String) : Bool :=
  value.all fun c => (0x20 ≤ c.toNat && c.toNat < 0x7F) || c = '\t'

def bearer? (headers : Headers) : Option String := do
  let value ← header? headers "authorization"
  if isReadable value then
    let token ← Text.behind? "Bearer ".toList value.toList
    return String.ofList token
  else none

/-- The last value given to a name in a query. -/
def queryValue? (query : List (String × String)) (name : String) : Option String :=
  (query.reverse.find? (·.1 == name)).map (·.2)

/-- A bearer token decides if there is one, otherwise the query does. -/
def isAuthorized (headers : Headers) (query : List (String × String)) (token : String) : Bool :=
  match bearer? headers with
  | some given => given == token
  | none => queryValue? query "token" == some token

def tokenDigits : List Char :=
  "ABCDEFGHIJKLMNOPQRSTUVWXYZabcdefghijklmnopqrstuvwxyz0123456789".toList

/-- A token made up by chance; every number picks a character. -/
def freshToken (picks : List Nat) : String :=
  String.ofList (picks.map fun pick => tokenDigits.getD (pick % tokenDigits.length) 'A')

def tokenLength : Nat := 32

end Televisor.Api
