import Televisor.Run.Clients
import Televisor.Proofs.Run.Execution

namespace Televisor.Api

open Controller

/-! What a client without the token is told.  It never depends on the state, and nothing is done for
such a client; but a command is read before the token is looked at, so its body shows in the
answer. -/

/-- What a request is for, where it asks for something that needs the token. -/
inductive Purpose (request : Request) : Route → Prop
  | state (path : request.path = "/state") (method : request.method = "GET") :
      Purpose request .state
  | feed {key} (path : request.path = "/ws") (method : request.method = "GET")
      (upgrade : readHandshake request = .ok key) : Purpose request .feed
  | command (path : request.path = "/command") (method : request.method = "POST") :
      Purpose request .command

/-- The answer to a request that does not carry the token. -/
def refusal (request : Request) : Route → Response
  | .feed => .bare 401
  | .command =>
    match readBody request with
    | .ok _ => .unauthorized
    | .error response => response
  | _ => .unauthorized

/-- The body of the request is a command. -/
def Request.IsCommand (request : Request) : Prop :=
  ∃ command, readBody request = .ok command

/-- A request that differs in its body alone. -/
def Request.withBody (request : Request) (body : String) : Request :=
  { request with body := body }

theorem readBody_status {request : Request} {response : Response}
    (unread : readBody request = .error response) : response.status ∈ [400, 413, 415, 422] := by
  unfold readBody at unread
  split at unread
  · cases unread
    decide
  · split at unread
    · cases unread
      decide
    · split at unread <;> cases unread <;> simp [Response.text]

variable {request : Request}

theorem Purpose.withBody {route : Route} (purpose : Purpose request route) (body : String) :
    Purpose (request.withBody body) route := by
  cases purpose with
  | state path method => exact .state path method
  | feed path method upgrade => exact .feed path method upgrade
  | command path method => exact .command path method

/-- Whoever does not have the token gets an answer and nothing else. -/
theorem Service.react_refused {service : Service} {route : Route} (purpose : Purpose request route)
    (refused : service.admits request = false) :
    service.react request = .respond (refusal request route) := by
  cases purpose with
  | state path method =>
      simp [react, answer, path, method, Route.ofPath?, Route.methods, refused, refusal]
  | feed path method upgrade =>
      simp [react, answer, path, method, Route.ofPath?, Route.methods, upgrade, refused, refusal]
  | command path method =>
      cases read : readBody request <;>
        simp [react, answer, path, method, Route.ofPath?, Route.methods, read, refused, refusal]

/-- The answer says that the token is missing, unless it says what is wrong with the body. -/
theorem refusal_status (route : Route) : (refusal request route).status = 401 ↔
    (route = .command → request.IsCommand) := by
  cases route with
  | command =>
      cases read : readBody request with
      | ok command => simp [refusal, read, Request.IsCommand, Response.unauthorized, Response.text]
      | error response =>
          have listed := readBody_status read
          have other : response.status ≠ 401 := fun same => by simp [same] at listed
          simp [refusal, read, Request.IsCommand, other]
  | _ => simp [refusal, Response.unauthorized, Response.text, Response.bare]

theorem refusal_unauthorized {route : Route} (command : route = .command → request.IsCommand) :
    refusal request route = if route = .feed then .bare 401 else .unauthorized := by
  cases route with
  | command =>
      obtain ⟨command, read⟩ := command rfl
      simp [refusal, read]
  | _ => rfl

/-- Two requests get the same answer for want of the token, unless one of them is to send a command
and has none. -/
theorem refusal_alike (twin : Request) (route : Route) :
    (refusal request route = refusal twin route ∧ (refusal request route).status = 401) ↔
      (route = .command → request.IsCommand ∧ twin.IsCommand) := by
  constructor
  · rintro ⟨same, status⟩ isCommand
    have statusTwin : (refusal twin route).status = 401 := same ▸ status
    exact ⟨(refusal_status route).mp status isCommand,
      (refusal_status route).mp statusTwin isCommand⟩
  · intro commands
    have first := refusal_unauthorized fun isCommand => (commands isCommand).1
    have second := refusal_unauthorized fun isCommand => (commands isCommand).2
    exact ⟨first.trans second.symm,
      (refusal_status route).mpr fun isCommand => (commands isCommand).1⟩

end Televisor.Api

namespace Televisor.Run.State

open Api Controller

theorem request_refused (state : State) (token : String) (clock : Nat) (dropped : Bool)
    {request : Request} {route : Route} (purpose : Purpose request route)
    (refused : isAuthorized request.headers request.query token = false) :
    state.request token clock dropped request = (state, .answer (refusal request route)) := by
  have told : (state.service token clock).react request = .respond (refusal request route) :=
    Service.react_refused purpose refused
  rw [State.request, told]

/-- Requests without the token that agree in all but their bodies are answered whatever the state,
and nothing comes of them: no command is carried out, and no state is sent.  Both are told that the
token is missing, exactly if neither is to send a command that cannot be read; one that cannot be
read is told so instead. -/
theorem unauthorized_alike (state other : State) (token : String) (clock later : Nat)
    (dropped droppedToo : Bool) (request : Request) (body : String) (route : Route)
    (purpose : Purpose request route)
    (refused : isAuthorized request.headers request.query token = false) :
    let twin := request.withBody body
    state.request token clock dropped request = (state, .answer (refusal request route)) ∧
    other.request token later droppedToo twin = (other, .answer (refusal twin route)) ∧
    ((refusal request route = refusal twin route ∧ (refusal request route).status = 401) ↔
      (route = .command → request.IsCommand ∧ twin.IsCommand)) ∧
    ∀ response, route = .command → readBody request = .error response →
      refusal request route = response ∧ response.status ∈ [400, 413, 415, 422] := by
  intro twin
  refine ⟨state.request_refused token clock dropped purpose refused,
    other.request_refused token later droppedToo (purpose.withBody body) refused,
    refusal_alike twin route, ?_⟩
  rintro response rfl unread
  exact ⟨by rw [refusal, unread], readBody_status unread⟩

/-- A command that is sent without the token. -/
def tokenless : Request where
  method := "POST"
  target := "/command"
  headers := [("content-type", "application/json")]
  body := "\x7b\"command\":\"turn_off\"\x7d"
  upgradable := false

theorem tokenless_purpose : Purpose tokenless .command :=
  .command (by decide +kernel) rfl

theorem tokenless_refused : isAuthorized tokenless.headers tokenless.query "s3cret" = false := by
  decide +kernel

theorem tokenless_json : isJson tokenless.headers = true := by
  have found : header? tokenless.headers "content-type" = some "application/json" := by
    decide +kernel
  have readable : isReadable "application/json" = true := by
    simp [isReadable]
  have json : (MediaType.ofText? "application/json").any MediaType.isJson = true := by
    decide +kernel
  rw [isJson, found, Option.filter_some, if_pos readable]
  exact json

theorem readBody_tokenless (body : String) (short : Text.utf8Length body.toList ≤ bodyLimit) :
    readBody (tokenless.withBody body) =
      match Command.ofOutline (Json.outline (Json.tokens body)).1 with
      | .ok command => .ok command
      | .error .malformed => .error (.text 400 "Failed to parse the request body as JSON")
      | .error (.mismatch place message) =>
        .error (.text 422
          ("Failed to deserialize the JSON body into the target type: " ++ placed place message)) := by
  have json : isJson (tokenless.withBody body).headers = true := tokenless_json
  have fits : ¬ bodyLimit < Text.utf8Length (tokenless.withBody body).body.toList :=
    Nat.not_lt.mpr short
  rw [readBody, json, if_neg fits]
  rfl

theorem tokenless_read : tokenless.IsCommand := by
  have words : Json.tokens tokenless.body =
      [.openObject, .text "command", .colon, .text "turn_off", .closeObject] := by rfl
  have fields : Json.outlineFields [.text "command", .colon, .text "turn_off", .closeObject] =
      ([("command", .whole (.text "turn_off"))], true, []) := by
    rw [Json.outlineFields]
    rfl
  refine ⟨.turnOff, ?_⟩
  have read := readBody_tokenless tokenless.body (by decide)
  rw [words, Json.outline, fields] at read
  · exact read
  · simp

theorem tokenless_garbled : readBody (tokenless.withBody "x") =
    .error (.text 400 "Failed to parse the request body as JSON") := by
  rw [readBody_tokenless "x" (by decide)]
  rfl

/-- The command is refused for want of the token, and garbled it is refused for what it says. -/
theorem tokenless_told (state : State) :
    state.request "s3cret" 0 false tokenless = (state, .answer .unauthorized) ∧
    state.request "s3cret" 0 false (tokenless.withBody "x") =
      (state, .answer (.text 400 "Failed to parse the request body as JSON")) := by
  obtain ⟨command, read⟩ := tokenless_read
  have refused := state.request_refused "s3cret" 0 false tokenless_purpose tokenless_refused
  have garbled := state.request_refused "s3cret" 0 false (tokenless_purpose.withBody "x")
    tokenless_refused
  rw [refusal, read] at refused
  rw [refusal, tokenless_garbled] at garbled
  exact ⟨refused, garbled⟩

theorem tokenless_unmoved : Purpose tokenless .command ∧
    isAuthorized tokenless.headers tokenless.query "s3cret" = false ∧
    State.plain.request "s3cret" 0 false tokenless =
      (State.plain, .answer (refusal tokenless .command)) ∧
    refusal (tokenless.withBody "x") .command =
      .text 400 "Failed to parse the request body as JSON" :=
  have alike := unauthorized_alike .plain .plain "s3cret" 0 0 false false tokenless "x" .command
    tokenless_purpose tokenless_refused
  have garbled := unauthorized_alike .plain .plain "s3cret" 0 0 false false (tokenless.withBody "x")
    "x" .command (tokenless_purpose.withBody "x") tokenless_refused
  ⟨tokenless_purpose, tokenless_refused, alike.1, (garbled.2.2.2 _ rfl tokenless_garbled).1⟩

theorem body_shows_in_refusal : ¬ ∀ (state : State) (token : String) (request : Request)
    (body : String) (route : Route), Purpose request route →
    isAuthorized request.headers request.query token = false →
    (state.request token 0 false request).2 =
      (state.request token 0 false (request.withBody body)).2 := by
  intro alike
  have same := alike .plain "s3cret" tokenless "x" .command tokenless_purpose tokenless_refused
  obtain ⟨refused, garbled⟩ := tokenless_told .plain
  rw [refused, garbled] at same
  exact absurd same (by decide)

end Televisor.Run.State
