import Televisor.Api.Handshake
import Televisor.Api.MediaType
import Televisor.Controller.Failure
import Televisor.Controller.Reading
import Televisor.Media.State

namespace Televisor.Api

open Controller

/-! What becomes of a request.  Whatever a request is made of is read before its token is looked at,
so a request that cannot be read is told so whoever sends it. -/

inductive Route where
  | health
  | state
  | feed
  | command
deriving Repr, DecidableEq

namespace Route

def ofPath? : String → Option Route
  | "/health" => some .health
  | "/state" => some .state
  | "/ws" => some .feed
  | "/command" => some .command
  | _ => none

/-- The methods of a route, as they are listed for a client that uses another. -/
def methods : Route → List String
  | .command => ["POST"]
  | _ => ["GET", "HEAD"]

def allow (route : Route) : String :=
  String.intercalate "," route.methods

end Route

/-- What answers requests: the token, the state published last, and the seconds on the clock. -/
structure Service where
  token : String
  state : Media.MediaState
  clock : Nat

inductive Reaction where
  | respond (response : Response)
  | forward (command : Command)
  | follow (acceptKey : String)
deriving Repr, DecidableEq

def bodyLimit : Nat := 2 * 1024 * 1024

def isJson (headers : Headers) : Bool :=
  (((header? headers "content-type").filter isReadable).bind MediaType.ofText?).any MediaType.isJson

/-- Where a fault stands, before what it is. -/
def placed (place message : String) : String :=
  if place.isEmpty then message else place ++ ": " ++ message

/-- The command in the body, or the answer that refuses it; what follows the command is not read. -/
def readBody (request : Request) : Except Response Command :=
  if !isJson request.headers then
    .error (.text 415 "Expected request with \x60Content-Type: application/json\x60")
  else if bodyLimit < Text.utf8Length request.body.toList then
    .error (.text 413 "Failed to buffer the request body: length limit exceeded")
  else
    match Command.ofOutline (Json.outline (Json.tokens request.body)).1 with
    | .ok command => .ok command
    | .error .malformed => .error (.text 400 "Failed to parse the request body as JSON")
    | .error (.mismatch place message) =>
      .error (.text 422
        ("Failed to deserialize the JSON body into the target type: " ++ placed place message))

open Json in
/-- The answer to a command, from its outcome; there is none if the command was dropped. -/
def commandResponse : Option (Except Failure Unit) → Response
  | some (.ok ()) => .json 200 (writeObject [("status", writeText "ok")])
  | some (.error failure) =>
    .json (if failure.isCallerError then 400 else 502)
      (writeObject [("error", writeText failure.message), ("status", writeText "error")])
  | none => .stopped

open Json in
def healthText (clock : Nat) : String :=
  writeObject [("status", writeText "healthy"), ("timestamp", toString clock)]

namespace Service

def admits (service : Service) (request : Request) : Bool :=
  isAuthorized request.headers request.query service.token

def answer (service : Service) (request : Request) : Route → Reaction
  | .health => .respond (.json 200 (healthText service.clock))
  | .state =>
    .respond (if service.admits request then .json 200 service.state.json else .unauthorized)
  | .feed =>
    match readHandshake request with
    | .error response => .respond response
    | .ok key => if service.admits request then .follow key else .respond (.bare 401)
  | .command =>
    match readBody request with
    | .error response => .respond response
    | .ok command =>
      if service.admits request then .forward command else .respond .unauthorized

/-- What a request leads to; a request for the head of an answer gets no body. -/
def react (service : Service) (request : Request) : Reaction :=
  match Route.ofPath? request.path with
  | none => .respond .notFound
  | some route =>
    if !route.methods.contains request.method then .respond (.methodNotAllowed route.allow)
    else
      match service.answer request route with
      | .respond response =>
        .respond (if request.method = "HEAD" then response.withoutBody else response)
      | reaction => reaction

end Service

end Televisor.Api
