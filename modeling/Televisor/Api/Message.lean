import Televisor.Api.Token
import Televisor.Json.Writer

namespace Televisor.Api

/-! Requests of clients and the answers to them. -/

structure Request where
  method : String
  target : String
  headers : Headers
  body : String
  /-- Whether the connection could be taken over for something else. -/
  upgradable : Bool
deriving Repr, DecidableEq

namespace Request

def resource (request : Request) : List Char :=
  request.target.toList.takeWhile (· != '#')

def path (request : Request) : String :=
  String.ofList (request.resource.takeWhile (· != '?'))

def query (request : Request) : List (String × String) :=
  Url.formPairs ((request.resource.dropWhile (· != '?')).drop 1)

end Request

structure Response where
  status : Nat
  contentType : Option String
  /-- The methods that the path knows, where the one used is none of them. -/
  allow : Option String
  body : String
deriving Repr, DecidableEq

namespace Response

def bare (status : Nat) : Response :=
  ⟨status, none, none, ""⟩

def text (status : Nat) (body : String) : Response :=
  ⟨status, some "text/plain; charset=utf-8", none, body⟩

def json (status : Nat) (body : String) : Response :=
  ⟨status, some "application/json", none, body⟩

def withoutBody (response : Response) : Response :=
  { response with body := "" }

def notFound : Response :=
  bare 404

def methodNotAllowed (allow : String) : Response :=
  { bare 405 with allow := some allow }

def unauthorized : Response :=
  text 401 "Unauthorized"

/-- The answer when nobody takes commands any more. -/
def stopped : Response :=
  text 503 "controller stopped"

end Response

end Televisor.Api
