import Televisor.Config.Setup
import Televisor.Proofs.Api.Refusal
import Televisor.Proofs.Config.Overriding

namespace Televisor.Api

/-! Who is let in with nothing to show.  The service compares what a request carries with the token
it was given, so it depends on how that token was found whether an empty one opens anything. -/

/-- A token that stands in a request where the service looks for one. -/
inductive Carries (request : Request) : String → Prop
  | header {name token} (authorization : name.map Char.toLower = "authorization")
      (present : (name, "Bearer " ++ token) ∈ request.headers) : Carries request token
  | query {token} (present : ("token", token) ∈ request.query) : Carries request token

/-- The request carries no token, or only empty ones. -/
def Request.EmptyHanded (request : Request) : Prop :=
  ∀ token, Carries request token → token = ""

/-- The service finds a token in the request. -/
def Request.Offers (request : Request) : Prop :=
  (bearer? request.headers).isSome ∨ (queryValue? request.query "token").isSome

variable {request : Request} {token : String}

theorem header?_mem {headers : Headers} {name value : String}
    (found : header? headers name = some value) :
    ∃ given, given.map Char.toLower = name ∧ (given, value) ∈ headers := by
  obtain ⟨⟨given, _⟩, first, rfl⟩ := Option.map_eq_some_iff.mp found
  exact ⟨given, by simpa using List.find?_some first, List.mem_of_find?_eq_some first⟩

theorem carries_of_bearer? (found : bearer? request.headers = some token) :
    Carries request token := by
  obtain ⟨value, given, rest⟩ := Option.bind_eq_some_iff.mp found
  obtain ⟨name, authorization, present⟩ := header?_mem given
  split at rest
  · obtain ⟨letters, behind, same⟩ := Option.bind_eq_some_iff.mp rest
    cases same
    have joined : value = "Bearer " ++ String.ofList letters := by
      rw [← String.toList_inj, Text.behind?_joined behind, String.toList_append,
        String.toList_ofList (l := letters)]
    exact .header authorization (joined ▸ present)
  · contradiction

theorem carries_of_queryValue? (found : queryValue? request.query "token" = some token) :
    Carries request token := by
  obtain ⟨⟨name, _⟩, last, rfl⟩ := Option.map_eq_some_iff.mp found
  have named : name = "token" := by simpa using List.find?_some last
  exact .query (named ▸ List.mem_reverse.mp (List.mem_of_find?_eq_some last))

/-- Only what a request carries lets it in. -/
theorem carries_of_isAuthorized
    (authorized : isAuthorized request.headers request.query token = true) :
    Carries request token := by
  unfold isAuthorized at authorized
  split at authorized
  · rename_i given found
    exact carries_of_bearer? (beq_iff_eq.mp authorized ▸ found)
  · exact carries_of_queryValue? (beq_iff_eq.mp authorized)

theorem Request.EmptyHanded.isAuthorized_iff (emptyHanded : request.EmptyHanded) :
    isAuthorized request.headers request.query token = true ↔ token = "" ∧ request.Offers := by
  have bearer_empty {given : String} (found : bearer? request.headers = some given) : given = "" :=
    emptyHanded _ (carries_of_bearer? found)
  have value_empty {given : String} (found : queryValue? request.query "token" = some given) :
      given = "" :=
    emptyHanded _ (carries_of_queryValue? found)
  cases inHeader : bearer? request.headers with
  | some given =>
      obtain rfl := bearer_empty inHeader
      simp [isAuthorized, Offers, inHeader, eq_comm (a := "")]
  | none =>
      cases inQuery : queryValue? request.query "token" with
      | some given =>
          obtain rfl := value_empty inQuery
          simp [isAuthorized, Offers, inHeader, inQuery, eq_comm (a := "")]
      | none => simp [isAuthorized, Offers, inHeader, inQuery]

theorem freshToken_ne_empty {picks : List Nat} (some_pick : picks ≠ []) : freshToken picks ≠ "" := by
  intro empty
  rw [freshToken, ← String.toList_inj, String.toList_ofList] at empty
  exact some_pick (List.map_eq_nil_iff.mp empty)

/-- Nothing is forwarded and nobody follows the states without the token, whatever is asked for. -/
theorem Service.react_turned_away {service : Service} (refused : service.admits request = false) :
    ∃ response, service.react request = .respond response := by
  unfold react
  split
  · exact ⟨_, rfl⟩
  · rename_i route _
    split
    · exact ⟨_, rfl⟩
    · have answered : ∃ response, service.answer request route = .respond response := by
        cases route with
        | health => exact ⟨_, rfl⟩
        | state => exact ⟨_, rfl⟩
        | feed => cases shaken : readHandshake request <;> simp [answer, shaken, refused]
        | command => cases read : readBody request <;> simp [answer, read, refused]
      obtain ⟨response, told⟩ := answered
      rw [told]
      exact ⟨_, rfl⟩

theorem Service.react_told {service : Service} (purpose : Purpose request .state)
    (admitted : service.admits request = true) :
    service.react request = .respond (.json 200 service.state.json) := by
  cases purpose with
  | state path method =>
      simp [react, answer, path, method, Route.ofPath?, Route.methods, admitted]

end Televisor.Api

namespace Televisor.Run.State

open Api

theorem request_turned_away (state : State) (token : String) (clock : Nat) (dropped : Bool)
    {request : Request} (refused : isAuthorized request.headers request.query token = false) :
    ∃ response, state.request token clock dropped request = (state, .answer response) := by
  obtain ⟨response, told⟩ :
      ∃ response, (state.service token clock).react request = .respond response :=
    Service.react_turned_away refused
  exact ⟨response, by rw [State.request, told]⟩

theorem request_told (state : State) (token : String) (clock : Nat) (dropped : Bool)
    {request : Request} (purpose : Purpose request .state)
    (authorized : isAuthorized request.headers request.query token = true) :
    state.request token clock dropped request =
      (state, .answer (.json 200 state.controller.published.json)) := by
  have told : (state.service token clock).react request =
      .respond (.json 200 state.controller.published.json) :=
    Service.react_told purpose authorized
  rw [State.request, told]

end Televisor.Run.State

namespace Televisor.Host.FileTree

/-- Where there are no files, none is found. -/
theorem walk_empty {names found : Names} {path : List String} {content : List UInt8} :
    empty.walk names path ≠ .ok (.found found (.file content)) := by
  induction path generalizing names with
  | nil => simp [walk]
  | cons step rest ih =>
      have missing : empty.lookup? (names ++ [step]) = none := by simp [lookup?, empty]
      simp only [walk, missing]
      split
      · exact ih
      split
      · exact ih
      repeat' split
      all_goals simp

theorem read?_empty (path : String) : empty.read? path = none := by
  unfold read? locate
  split
  · rename_i found content located
    split at located
    · contradiction
    · exact absurd located walk_empty
  · rfl

end Televisor.Host.FileTree

namespace Televisor.Config

open Api Run

theorem Environment.own?_cons {environment : Environment} {name given : String}
    {value : Option String} (other : given ≠ "TVBRIDGE_" ++ name) :
    Environment.own? ((given, value) :: environment) name = environment.own? name := by
  rw [own?, own?, get?, get?, List.find?_cons_of_neg (by simpa using other)]

namespace Settings

def withToken (settings : Settings) (token : Option String) : Settings :=
  { settings with server := { settings.server with token := token } }

/-- Nothing is asked of the token before the program runs with it. -/
theorem validate_withToken (settings : Settings) (token : Option String) :
    (settings.withToken token).validate = settings.validate := by
  rfl

/-- The environment with an empty text for the token. -/
def blanking (environment : Environment) : Environment :=
  ("TVBRIDGE_SERVER_TOKEN", some "") :: environment

theorem activePath_blanking (environment : Environment) (tree : Host.FileTree) :
    activePath (blanking environment) tree = activePath environment tree := by
  have path : (blanking environment).own? "CONFIG_PATH" = environment.own? "CONFIG_PATH" :=
    Environment.own?_cons (by decide)
  simp only [activePath, defaultPath, path]
  rfl

theorem gather_blanking (environment : Environment) (tree : Host.FileTree) :
    gather (blanking environment) tree = (gather environment tree).withToken (some "") := by
  have token : (blanking environment).own? "SERVER_TOKEN" = some "" := by rfl
  have others (name : String) (other : "TVBRIDGE_SERVER_TOKEN" ≠ "TVBRIDGE_" ++ name) :
      (blanking environment).own? name = environment.own? name :=
    Environment.own?_cons other
  rw [gather, gather, activePath_blanking, override, override, token, others "HOST" (by decide),
    others "PORT" (by decide), others "MAC" (by decide),
    others "RENDERING_CONTROL_LOCATION" (by decide), others "POLL_INTERVAL_MS" (by decide),
    others "SERVER_ENABLED" (by decide), others "SERVER_PORT" (by decide)]
  rfl

theorem load_eq_ok {environment : Environment} {tree : Host.FileTree} {settings : Settings} :
    load environment tree = .ok settings ↔
      settings.validate = .ok () ∧ gather environment tree = settings := by
  rw [load_eq]
  constructor
  · intro loads
    cases checked : (gather environment tree).validate with
    | error fault => simp [checked, Except.map] at loads
    | ok _ =>
        rw [checked] at loads
        cases loads
        exact ⟨checked, rfl⟩
  · rintro ⟨valid, rfl⟩
    rw [valid]
    rfl

/-- Wherever the program runs it would run too with an empty variable for the token, and use that. -/
theorem load_blanking {environment : Environment} {tree : Host.FileTree} {settings : Settings}
    (loads : load environment tree = .ok settings) :
    load (blanking environment) tree = .ok (settings.withToken (some "")) := by
  obtain ⟨valid, rfl⟩ := load_eq_ok.mp loads
  exact load_eq_ok.mpr ⟨(validate_withToken _ _).trans valid, gather_blanking _ _⟩

/-- The token of the program is empty only if it was set so. -/
theorem token_eq_empty {settings : Settings} {picks : List Nat} (drawn : picks.length = tokenLength) :
    settings.token (freshToken picks) = "" ↔ settings.server.token = some "" := by
  have some_pick : picks ≠ [] := List.ne_nil_of_length_eq_add_one drawn
  cases set : settings.server.token with
  | none => simp [token, set, freshToken_ne_empty some_pick]
  | some given => simp [token, set]

theorem gather_token_eq_empty (environment : Environment) (tree : Host.FileTree) :
    (gather environment tree).server.token = some "" ↔
      environment.own? "SERVER_TOKEN" = some "" ∨ environment.own? "SERVER_TOKEN" = none ∧
        (ofFile (tree.read? (activePath environment tree))).server.token = some "" := by
  have overridden : (gather environment tree).server.token = (environment.own? "SERVER_TOKEN").or
      (ofFile (tree.read? (activePath environment tree))).server.token := rfl
  rw [overridden]
  cases environment.own? "SERVER_TOKEN" <;> simp

/-- With the token that the program uses, a request that carries no token but empty ones is let in
exactly if an empty token is set, by the variable or by the file, and the request offers it; a request
that carries none is turned away.  An empty token is no fault: wherever the program starts, it starts
with an empty variable too, and then whoever offers an empty token is let in. -/
theorem empty_token_opens_if_set {environment : Environment} {tree : Host.FileTree}
    {settings : Settings} (loads : load environment tree = .ok settings) {picks : List Nat}
    (drawn : picks.length = tokenLength) {request : Request} (emptyHanded : request.EmptyHanded) :
    let token := settings.token (freshToken picks)
    let file := ofFile (tree.read? (activePath environment tree))
    let blanked := settings.withToken (some "")
    (isAuthorized request.headers request.query token = true ↔
      settings.server.token = some "" ∧ request.Offers) ∧
    (settings.server.token = some "" ↔ environment.own? "SERVER_TOKEN" = some "" ∨
      environment.own? "SERVER_TOKEN" = none ∧ file.server.token = some "") ∧
    ((∀ carried, ¬ Carries request carried) →
      isAuthorized request.headers request.query token = false) ∧
    (¬ (settings.server.token = some "" ∧ request.Offers) → ∀ (state : State) clock dropped,
      (∃ response, state.request token clock dropped request = (state, .answer response)) ∧
      ∀ route, Purpose request route →
        state.request token clock dropped request = (state, .answer (refusal request route))) ∧
    (settings.server.token = some "" ∧ request.Offers → Purpose request .state →
      ∀ (state : State) clock dropped, state.request token clock dropped request =
        (state, .answer (.json 200 state.controller.published.json))) ∧
    load (blanking environment) tree = .ok blanked ∧
    (isAuthorized request.headers request.query (blanked.token (freshToken picks)) = true ↔
      request.Offers) := by
  intro token file blanked
  have opened : isAuthorized request.headers request.query token = true ↔
      settings.server.token = some "" ∧ request.Offers := by
    rw [emptyHanded.isAuthorized_iff, token_eq_empty drawn]
  have gathered : gather environment tree = settings := (load_eq_ok.mp loads).2
  refine ⟨opened, ?_, ?_, ?_, ?_, load_blanking loads, ?_⟩
  · rw [← gathered]
    exact gather_token_eq_empty environment tree
  · intro bare
    exact Bool.eq_false_iff.mpr fun authorized => bare _ (carries_of_isAuthorized authorized)
  · intro closed state clock dropped
    have refused : isAuthorized request.headers request.query token = false :=
      Bool.eq_false_iff.mpr fun authorized => closed (opened.mp authorized)
    exact ⟨state.request_turned_away token clock dropped refused, fun route purpose =>
      state.request_refused token clock dropped purpose refused⟩
  · intro isOpen purpose state clock dropped
    exact state.request_told token clock dropped purpose (opened.mpr isOpen)
  · rw [emptyHanded.isAuthorized_iff]
    exact and_iff_right rfl

/-- A request for the state, with an empty token. -/
def asksWithNothing : Request where
  method := "GET"
  target := "/state?token="
  headers := []
  body := ""
  upgradable := false

theorem asksWithNothing_query : asksWithNothing.query = [("token", "")] := by
  decide +kernel

theorem asksWithNothing_emptyHanded : asksWithNothing.EmptyHanded := by
  intro token carried
  cases carried with
  | header authorization present => exact absurd present List.not_mem_nil
  | query present =>
      rw [asksWithNothing_query, List.mem_singleton] at present
      exact (Prod.mk.inj present).2

theorem asksWithNothing_offers : asksWithNothing.Offers := by
  rw [Request.Offers, asksWithNothing_query]
  exact .inr rfl

theorem load_empty : load [] .empty = .ok .default := by
  have defaults : gather [] .empty = .default := by
    rw [gather, Host.FileTree.read?_empty]
    decide +kernel
  have valid : Settings.default.validate = .ok () := by
    decide +kernel
  exact load_eq_ok.mpr ⟨valid, defaults⟩

/-- With an empty variable for the token and the defaults for the rest, it is told the state. -/
theorem blanked_defaults_opened :
    let blanked := Settings.default.withToken (some "")
    let token := blanked.token (freshToken (List.replicate tokenLength 0))
    load (blanking []) .empty = .ok blanked ∧ blanked.server.enabled = true ∧
    (List.replicate tokenLength 0).length = tokenLength ∧ asksWithNothing.EmptyHanded ∧
    isAuthorized asksWithNothing.headers asksWithNothing.query token = true ∧
    State.plain.request token 0 false asksWithNothing =
      (State.plain, .answer (.json 200 State.plain.controller.published.json)) := by
  intro blanked token
  have loads := load_blanking load_empty
  have drawn : (List.replicate tokenLength 0).length = tokenLength := List.length_replicate
  have isOpen : blanked.server.token = some "" ∧ asksWithNothing.Offers :=
    ⟨rfl, asksWithNothing_offers⟩
  have purpose : Purpose asksWithNothing .state := .state (by decide +kernel) rfl
  have opened := empty_token_opens_if_set loads drawn asksWithNothing_emptyHanded
  exact ⟨loads, rfl, drawn, asksWithNothing_emptyHanded, opened.1.mpr isOpen,
    opened.2.2.2.2.1 isOpen purpose .plain 0 false⟩

theorem empty_token_not_turned_away : ¬ ∀ (environment : Environment) (tree : Host.FileTree)
    (settings : Settings) (picks : List Nat) (request : Request),
    load environment tree = .ok settings → settings.server.enabled = true →
    picks.length = tokenLength → request.EmptyHanded →
    isAuthorized request.headers request.query (settings.token (freshToken picks)) = false := by
  intro closed
  have refused := closed (blanking []) .empty (Settings.default.withToken (some ""))
    (List.replicate tokenLength 0) asksWithNothing (load_blanking load_empty) rfl
    List.length_replicate asksWithNothing_emptyHanded
  have admitted : isAuthorized asksWithNothing.headers asksWithNothing.query "" = true :=
    asksWithNothing_emptyHanded.isAuthorized_iff.mpr ⟨rfl, asksWithNothing_offers⟩
  exact Bool.noConfusion (refused.symm.trans admitted)

end Settings

end Televisor.Config
