import Televisor.Config.Validate
import Televisor.Proofs.Run.Sequence
import Televisor.Proofs.Run.Steadiness
import Televisor.Proofs.Telemetry.Books
import Televisor.Proofs.Telemetry.Values
import Televisor.Proofs.Url.HostNames

namespace Televisor.Run

open Controller Network Rendering Telemetry

/-! Where a renderer is told to send its events: to the receiver that was set up for the session.  It
is set up at the address that the host answers with, and at the one that any interface answers to if
the host does not know any. -/

/-- The address that a receiver is set up at. -/
def Host.address (host : Host) : Url.Address :=
  host.localAddress.getD unspecified

/-- The URL of a receiver that is set up there. -/
def Host.place (host : Host) : String :=
  "http://" ++ host.address.withPort host.port ++ host.path

/-- URLs that name no interface.  A renderer that is told one of them reaches nobody, or itself. -/
def nowhere (port : Nat) (path : String) : List String :=
  ["http://0.0.0.0:" ++ toString port ++ path, "http://[::]:" ++ toString port ++ path]

def isUnspecified : Url.Address → Bool
  | .v4 value => value == 0
  | .v6 words => words.all (· == 0)

theorem withPort_injective {first second : Url.Address} (proper : first.Proper)
    (proper' : second.Proper) {port : Nat} (same : first.withPort port = second.withPort port) :
    first = second := by
  have bracketed (value : Nat) (words : Url.Words) :
      (Url.Address.v4 value).withPort port ≠ (Url.Address.v6 words).withPort port := by
    intro same
    have opened : '[' ∉ (Url.v4Text value).toList :=
      Url.not_mem_v4Text rfl (by decide) value
    have written := congrArg String.toList same
    simp only [Url.Address.withPort, String.toList_append] at written
    cases text : (Url.v4Text value).toList with
    | nil => simp [text] at written
    | cons first rest =>
        rw [text] at written opened
        have head := congrArg List.head? written
        simp at head opened
        exact opened.1 head.symm
  refine Url.Address.text_injective proper proper' ?_
  cases first with
  | v4 value =>
      cases second with
      | v4 other =>
          rw [← String.toList_inj] at same ⊢
          simpa [Url.Address.withPort, Url.Address.text, String.toList_append] using same
      | v6 words => exact absurd same (bracketed value words)
  | v6 words =>
      cases second with
      | v4 value => exact absurd same.symm (bracketed value words)
      | v6 other =>
          rw [← String.toList_inj] at same ⊢
          simpa [Url.Address.withPort, Url.Address.text, String.toList_append] using same

theorem mem_nowhere_iff {address : Url.Address} (proper : address.Proper) (port : Nat)
    (path : String) :
    "http://" ++ address.withPort port ++ path ∈ nowhere port path ↔ isUnspecified address := by
  have cancel {first second : String}
      (same : "http://" ++ first ++ path = "http://" ++ second ++ path) : first = second := by
    rw [← String.toList_inj] at same ⊢
    simpa [String.toList_append] using same
  have zeros : (Url.Address.v6 (List.replicate 8 0)).Proper := ⟨rfl, by decide⟩
  have v4 : Url.v4Text 0 = "0.0.0.0" := by decide +kernel
  have v6 : Url.v6Text [0, 0, 0, 0, 0, 0, 0, 0] = "::" := by decide +kernel
  have texts : nowhere port path = ["http://" ++ (Url.Address.v4 0).withPort port ++ path,
      "http://" ++ (Url.Address.v6 (List.replicate 8 0)).withPort port ++ path] := by
    simp [nowhere, Url.Address.withPort, v4, v6, ← String.toList_inj]
  rw [texts, List.mem_cons, List.mem_singleton]
  constructor
  · rintro (same | same)
    · rw [withPort_injective proper (by decide : (Url.Address.v4 0).Proper) (cancel same)]
      rfl
    · rw [withPort_injective proper zeros (cancel same)]
      rfl
  · intro none
    cases address with
    | v4 value =>
        have zero : value = 0 := by simpa [isUnspecified] using none
        exact .inl (by rw [zero])
    | v6 words =>
        have all : words = List.replicate 8 0 := by
          refine List.eq_replicate_iff.mpr ⟨proper.1, ?_⟩
          simpa [isUnspecified] using none
        exact .inr (by rw [all])

/-- A receiver is set up nowhere if the host does not know an address of its own, and only then. -/
theorem Host.place_mem_nowhere_iff {host : Host}
    (proper : ∀ address, host.localAddress = some address → address.Proper) :
    host.place ∈ nowhere host.port host.path ↔
      ∀ address, host.localAddress = some address → isUnspecified address := by
  have anywhere : unspecified.Proper := by decide
  unfold place address
  cases known : host.localAddress with
  | none => exact iff_of_true ((mem_nowhere_iff anywhere _ _).mpr rfl) nofun
  | some address => simpa using mem_nowhere_iff (proper address known) host.port host.path

theorem Host.place_of_unknown {host : Host} (unknown : host.localAddress = none) :
    host.place = "http://0.0.0.0:" ++ toString host.port ++ host.path := by
  have text : Url.v4Text 0 = "0.0.0.0" := by decide +kernel
  simp [place, address, unknown, unspecified, Url.Address.withPort, text, ← String.toList_inj]

/-- Whatever has been done to a receiver, it is where its host said. -/
structure Receiver.Placed (receiver : Receiver) : Prop where
  address : receiver.address = receiver.host.address
  path : receiver.inbox.path = receiver.host.path
  bound : ∀ bound, receiver.inbox.bound = some bound →
    bound = (receiver.host.address, receiver.host.port)

namespace Receiver.Placed

variable {receiver : Receiver}

theorem new (host : Host) : (Receiver.new host).Placed :=
  ⟨rfl, rfl, nofun⟩

theorem listen (placed : receiver.Placed) : receiver.listen.Placed where
  address := placed.address
  path := placed.path
  bound := by
    intro bound same
    rcases Option.or_eq_some_iff.mp same with already | ⟨_, fresh⟩
    · exact placed.bound bound already
    · rw [← Option.some.inj fresh, placed.address]
      rfl

theorem consume (placed : receiver.Placed) : receiver.consume.Placed :=
  ⟨placed.address, placed.path, placed.bound⟩

theorem stop (placed : receiver.Placed) : receiver.stop.Placed :=
  ⟨placed.address, placed.path, nofun⟩

/-- If a receiver names a URL, it is the one that its host said. -/
theorem callback?_eq (placed : receiver.Placed) {callback : String}
    (named : receiver.callback? = some callback) : callback = receiver.host.place := by
  unfold Receiver.callback? at named
  split at named
  · contradiction
  · obtain ⟨bound, isBound, rfl⟩ := Option.map_eq_some_iff.mp named
    rw [placed.bound bound isBound, placed.path]
    rfl

end Receiver.Placed

/-- A renderer is told no other place than one where a receiver was set up. -/
def Call.Truthful (hosts : List Host) (call : Call) : Prop :=
  ∀ request told, call = .http request → ("callback", told) ∈ request.headers →
    ∃ host ∈ hosts, told = "<" ++ host.place ++ ">"

theorem Call.Truthful.mono {hosts more : List Host} {call : Call} (truthful : call.Truthful hosts)
    (subset : hosts ⊆ more) : call.Truthful more := by
  intro request told same member
  obtain ⟨host, present, named⟩ := truthful request told same member
  exact ⟨host, subset present, named⟩

theorem Call.truthful_of_silent {hosts : List Host} {call : Call}
    (silent : ∀ request, call ≠ .http request) : call.Truthful hosts :=
  fun request _ same => absurd same (silent request)

end Televisor.Run

namespace Televisor.Telemetry

open Run

variable {hosts more : List Run.Host} {session other : Session}

/-- Events for the session are asked for where its receiver was set up. -/
structure Session.Leads (hosts : List Run.Host) (session : Session) : Prop where
  place : ∀ callback, session.control.callback = some callback →
    ∃ host, hosts[session.receiver]? = some host ∧ callback = host.place
  granted : session.status = .subscribed → session.control.callback ≠ none

theorem Session.Leads.like (leads : session.Leads hosts)
    (callback : other.control.callback = session.control.callback)
    (receiver : other.receiver = session.receiver)
    (status : other.status = .subscribed → session.status = .subscribed) : other.Leads hosts where
  place := by
    rw [callback, receiver]
    exact leads.place
  granted := by
    rw [callback]
    exact leads.granted ∘ status

theorem Session.Leads.mono (leads : session.Leads hosts) (grown : hosts <+: more) :
    session.Leads more where
  place := by
    intro callback same
    obtain ⟨host, found, named⟩ := leads.place callback same
    have present := (List.getElem?_eq_some_iff.mp found).1
    obtain ⟨added, joined⟩ := grown
    exact ⟨host, by rw [← joined, List.getElem?_append_left present, found], named⟩
  granted := leads.granted

theorem Session.Leads.receive (leads : session.Leads hosts) (body : String) :
    (session.receive body).1.Leads hosts := by
  rw [session.receive_eq]
  exact leads.like rfl rfl id

end Televisor.Telemetry

namespace Televisor.Run

open Controller Network Rendering Telemetry

/-- A request for events for a session. -/
theorem subscribe_truthful {hosts : List Host} {session : Session} (leads : session.Leads hosts)
    {callback : String} (known : session.control.callback = some callback) (url : String) :
    (Call.http (subscribe url callback)).Truthful hosts := by
  rintro request told same member
  cases same
  obtain ⟨host, found, rfl⟩ := leads.place callback known
  refine ⟨host, List.mem_of_getElem? found, ?_⟩
  simpa [subscribe, timeoutHeader] using member

/-- A request of any other kind. -/
theorem silent_truthful {hosts : List Host} {request : Request}
    (silent : ∀ header ∈ request.headers, header.1 ≠ "callback") :
    (Call.http request).Truthful hosts := by
  rintro other told same member
  cases same
  exact absurd rfl (silent _ member)

namespace State

/-- The hosts as they were when the receivers were set up. -/
def hosts (state : State) : List Host :=
  state.receivers.map (·.host)

/-- Every receiver is where its host said, and renderers are told of no other places; the hosts are of
some kind. -/
structure Grounded (known : Host → Prop) (state : State) : Prop where
  host : known state.host
  placed : ∀ receiver ∈ state.receivers, receiver.Placed ∧ known receiver.host
  held : ∀ session, state.held = some session → session.Leads state.hosts
  draft : ∀ session, state.draft = some session → session.Leads state.hosts
  told : Calls (Call.Truthful state.hosts) state.trace

variable {known : Host → Prop} {before after state : State} {session : Session}

theorem updateReceiver_hosts (state : State) (number : Nat) {change : Receiver → Receiver}
    (host : ∀ receiver, (change receiver).host = receiver.host) :
    (state.updateReceiver number change).hosts = state.hosts := by
  refine List.ext_getElem? fun other => ?_
  simp only [hosts, updateReceiver, List.getElem?_map, List.getElem?_modify]
  cases state.receivers[other]? with
  | none => rfl
  | some receiver =>
      by_cases same : number = other <;> simp [same, host]

theorem send_hosts (state : State) (request : Request) :
    (state.send request).1.hosts = state.hosts := by
  unfold send
  split <;> rfl

/-- Nobody grants what cannot be asked for. -/
theorem askForEvents_granted {control : Control} {renewing : Bool} {grant : Grant}
    (granted : (state.askForEvents control renewing).2 = .ok grant) : control.callback ≠ none := by
  intro silent
  unfold askForEvents at granted
  rw [silent] at granted
  contradiction

namespace Grounded

/-- Nothing is done to receivers, but sessions may be in other states, and more may have been seen. -/
theorem like (grounded : Grounded known before) (host : after.host = before.host)
    (receivers : after.receivers = before.receivers)
    (held : ∀ session, after.held = some session → session.Leads before.hosts)
    (draft : ∀ session, after.draft = some session → session.Leads before.hosts)
    (trace : ∃ seen, after.trace = seen ++ before.trace ∧
      Calls (Call.Truthful before.hosts) seen) : Grounded known after where
  host := host ▸ grounded.host
  placed := receivers ▸ grounded.placed
  held := by
    rw [hosts, receivers]
    exact held
  draft := by
    rw [hosts, receivers]
    exact draft
  told := by
    obtain ⟨seen, trace, truthful⟩ := trace
    rw [hosts, receivers, trace]
    exact truthful.append grounded.told

theorem aside (grounded : Grounded known before) (held : after.held = before.held)
    (draft : after.draft = before.draft) (receivers : after.receivers = before.receivers)
    (trace : after.trace = before.trace) (host : after.host = before.host) :
    Grounded known after :=
  grounded.like host receivers (held ▸ grounded.held) (draft ▸ grounded.draft)
    ⟨[], trace, .nil⟩

theorem note (grounded : Grounded known state) {what : Occurrence}
    (truthful : ∀ call, what = .called call → call.Truthful state.hosts) :
    Grounded known (state.note what) := by
  refine grounded.like rfl rfl grounded.held grounded.draft ⟨[⟨state.now, what⟩], rfl, ?_⟩
  intro call member
  obtain ⟨time, found⟩ := mem_callsIn.mp member
  obtain ⟨rfl, rfl⟩ := Record.mk.inj (List.mem_singleton.mp found)
  exact truthful call rfl

/-- What is seen besides calls. -/
theorem see (grounded : Grounded known state) {what : Occurrence}
    (uncalled : ∀ call, what ≠ .called call) : Grounded known (state.note what) :=
  grounded.note fun call same => absurd same (uncalled call)

theorem call (grounded : Grounded known state) {call : Call}
    (silent : ∀ request, call ≠ .http request) : Grounded known (state.call call) :=
  grounded.note fun made same => by
    cases same
    exact Call.truthful_of_silent silent

theorem send (grounded : Grounded known state) {request : Request}
    (truthful : (Call.http request).Truthful state.hosts) : Grounded known (state.send request).1 := by
  unfold State.send
  split
  · exact grounded
  · rename_i built found
    have noted : Grounded known (state.call (.http built)) := by
      refine grounded.note fun made same => ?_
      cases same
      rintro request' told same member
      cases same
      rw [Request.built?_headers found] at member
      exact truthful request told rfl member
    exact noted.aside rfl rfl rfl rfl rfl

theorem hold (grounded : Grounded known state) (leads : session.Leads state.hosts) :
    Grounded known (state.hold session) := by
  refine grounded.like rfl rfl ?_ grounded.draft ⟨[], rfl, .nil⟩
  intro other isHeld
  cases isHeld
  exact leads

theorem receive (grounded : Grounded known state) (number : Nat) (body : String) :
    Grounded known (state.receive number body) := by
  have host : (state.receive number body).host = state.host := by
    obtain ⟨held, draft, queue, trace, same, -⟩ := state.receive_eq number body
    rw [same]
  rcases state.receive_cases number body with same | ⟨session, rfl, taken⟩
  · rw [same]
    exact grounded
  · have silent : Calls (Call.Truthful state.hosts) (takes state.now session body) := by
      intro call member
      unfold takes at member
      split at member <;> simp [callsIn, Record.call?] at member
    rcases taken.place with ⟨isHeld, held, draft⟩ | ⟨isDraft, draft, held⟩
    · refine grounded.like host taken.receivers ?_ (draft ▸ grounded.draft) ⟨_, taken.trace, silent⟩
      rw [held]
      rintro other same
      cases same
      exact (grounded.held session isHeld).receive body
    · refine grounded.like host taken.receivers (held ▸ grounded.held) ?_ ⟨_, taken.trace, silent⟩
      rw [draft]
      rintro other same
      cases same
      exact (grounded.draft session isDraft).receive body

theorem sendFor (grounded : Grounded known state) (leads : session.Leads state.hosts)
    (task : RenewalTask) {request : Request} (truthful : (Call.http request).Truthful state.hosts)
    (next : Exchange → Renewal) : Grounded known (state.sendFor session task request next) := by
  have sent := grounded.send truthful
  exact sent.hold (send_hosts state request ▸ leads.like rfl rfl id)

theorem reported (grounded : Grounded known state) (task : RenewalTask) :
    Grounded known (state.reported task) :=
  reported_cases state task grounded fun _ _ _ => grounded.see nofun

theorem continueRenewal (grounded : Grounded known state) (isHeld : state.held = some session)
    (task : RenewalTask) : Grounded known (state.continueRenewal session task) := by
  have told := grounded.reported task
  have turn := state.continueRenewal_turn session task
  rw [← state.reported_held task] at isHeld
  generalize state.reported task = reported at told turn isHeld
  generalize state.continueRenewal session task = after at turn ⊢
  have leads := told.held session isHeld
  cases turn with
  | ends | sleeps _ | granted _ => exact told.hold (leads.like rfl rfl id)
  | renews sid => exact told.sendFor leads task (silent_truthful (by simp [renew, timeoutHeader])) _
  | subscribes known => exact told.sendFor leads task (subscribe_truthful leads known _) _

theorem passing : Passing (Grounded known) where
  aside grounded held draft receivers trace _ host := grounded.aside held draft receivers trace host
  tell := by
    rintro state what grounded news
    refine grounded.note ?_
    rintro call rfl
    exact news.elim
  receive number body grounded := grounded.receive number body
  renew grounded isHeld _ := grounded.continueRenewal isHeld _

theorem steady : Steady (Grounded known) where
  toPassing := passing
  note := by
    rintro state what grounded routine
    refine grounded.note ?_
    rintro call rfl
    refine Call.truthful_of_silent ?_
    rintro request rfl
    exact routine.elim

theorem exchange (grounded : Grounded known state) {request : Request}
    (truthful : (Call.http request).Truthful state.hosts) :
    Grounded known (state.exchange request).1 :=
  passing.passTo (grounded.send truthful) _

theorem updateReceiver (grounded : Grounded known state) (number : Nat)
    {change : Receiver → Receiver}
    (kept : ∀ receiver : Receiver, receiver.Placed → (change receiver).Placed)
    (host : ∀ receiver, (change receiver).host = receiver.host) :
    Grounded known (state.updateReceiver number change) := by
  have hosts := updateReceiver_hosts state number host
  refine ⟨grounded.host, fun receiver member => ?_, ?_, ?_, ?_⟩
  · obtain ⟨other, found⟩ := List.getElem?_of_mem member
    obtain ⟨old, isOld, same⟩ := updateReceiver_found found
    have placed := grounded.placed old (List.mem_of_getElem? isOld)
    split at same
    · rw [← same, host]
      exact placed.imp_left (kept old)
    · exact same ▸ placed
  · rw [hosts]
    exact grounded.held
  · rw [hosts]
    exact grounded.draft
  · rw [hosts]
    exact grounded.told

theorem addReceiver (grounded : Grounded known state) : Grounded known state.addReceiver.1 := by
  have called : Grounded known (state.call (.receiver (Receiver.new state.host).source)) :=
    grounded.call nofun
  have hosts : state.addReceiver.1.hosts = state.hosts ++ [state.host] := by
    simp [State.hosts, State.addReceiver, Receiver.new, State.call, State.note]
  have grown : state.hosts <+: state.addReceiver.1.hosts := hosts ▸ List.prefix_append _ _
  refine ⟨grounded.host, fun receiver member => ?_, fun session isHeld => ?_,
    fun session isDraft => ?_, fun call member => ?_⟩
  · rcases List.mem_append.mp member with old | new
    · exact grounded.placed receiver old
    · rw [List.mem_singleton.mp new]
      exact ⟨.new state.host, grounded.host⟩
  · exact (grounded.held session isHeld).mono grown
  · exact (grounded.draft session isDraft).mono grown
  · exact (called.told call member).mono grown.subset

theorem startReceiver (grounded : Grounded known state) : Grounded known state.startReceiver.1 := by
  have found := (passing.wait grounded state.delays.route).addReceiver
  unfold State.startReceiver
  generalize (state.wait state.delays.route).addReceiver = adding at found ⊢
  obtain ⟨added, number⟩ := adding
  have called : Grounded known (added.call .startReceiver) := found.call nofun
  have waited := passing.wait called (added.call .startReceiver).host.startDelay
  simp only
  split
  · exact waited
  · have listens : Grounded known ((State.wait (added.call .startReceiver) _).updateReceiver number
        Receiver.listen) :=
      waited.updateReceiver number (fun _ => .listen) fun _ => rfl
    exact listens.see nofun

theorem stopReceiver (grounded : Grounded known state) (number : Nat) :
    Grounded known (state.stopReceiver number) := by
  have called : Grounded known (state.call .stopReceiver) := grounded.call nofun
  have waited := passing.wait called state.delays.stop
  have closed : Grounded known (((state.call .stopReceiver).wait state.delays.stop).updateReceiver
      number Receiver.stop) :=
    waited.updateReceiver number (fun _ => .stop) fun _ => rfl
  exact closed.see nofun

/-- A session that is set up with a receiver is led to it. -/
theorem fresh_leads (grounded : Grounded known state) (device : Device) (number : Nat) :
    (Session.fresh (.ofDevice device ((state.receivers[number]?).bind Receiver.callback?))
      number).Leads state.hosts where
  place := by
    intro callback same
    obtain ⟨receiver, found, named⟩ := Option.bind_eq_some_iff.mp same
    have known : state.hosts[number]? = some receiver.host := by
      rw [State.hosts, List.getElem?_map, found, Option.map_some]
    exact ⟨receiver.host, known,
      (grounded.placed receiver (List.mem_of_getElem? found)).1.callback?_eq named⟩
  granted := nofun

theorem drafting_hosts (state : State) (session : Session) :
    (state.drafting session).hosts = state.hosts :=
  state.updateReceiver_hosts session.receiver fun _ => rfl

theorem drafting (grounded : Grounded known state) (leads : session.Leads state.hosts) :
    Grounded known (state.drafting session) := by
  have consumed : Grounded known
      (state.updateReceiver session.receiver Receiver.consume) :=
    grounded.updateReceiver session.receiver (fun _ => .consume) fun _ => rfl
  have attached : Grounded known
      ((state.updateReceiver session.receiver Receiver.consume).call .attach) :=
    consumed.call nofun
  refine attached.like rfl rfl attached.held (fun drafted isDraft => ?_) ⟨[], rfl, .nil⟩
  cases isDraft
  exact drafting_hosts state session ▸ leads

theorem askForEvents (grounded : Grounded known state) (leads : session.Leads state.hosts)
    (renewing : Bool) : Grounded known (state.askForEvents session.control renewing).1 := by
  have called : Grounded known (state.call (.subscribe renewing)) := grounded.call nofun
  unfold State.askForEvents
  split
  · exact called
  · rename_i callback known
    have asked := called.exchange (subscribe_truthful leads known session.control.device.eventUrl)
    exact asked.see nofun

theorem adopt (grounded : Grounded known state) {finish : Session → Session}
    (leads : ∀ session, state.draft = some session → (finish session).Leads state.hosts) :
    Grounded known (state.adopt finish) := by
  refine grounded.like rfl rfl (fun session isHeld => ?_) (fun session isDraft => ?_)
    ⟨[], rfl, .nil⟩
  · obtain ⟨draft, isDraft, rfl⟩ := Option.map_eq_some_iff.mp isHeld
    exact leads draft isDraft
  · contradiction

theorem abandon (grounded : Grounded known state) (number : Nat) :
    Grounded known (state.abandon number) := by
  have detached : Grounded known (state.call .detach) := grounded.call nofun
  have dropped : Grounded known { state.call .detach with draft := none } := by
    refine detached.like rfl rfl detached.held (fun session isDraft => ?_) ⟨[], rfl, .nil⟩
    contradiction
  exact dropped.stopReceiver number

theorem setUp (grounded : Grounded known state) (device : Device) (number : Nat) :
    Grounded known (state.setUp device number).1 := by
  rw [state.setUp_eq device number]
  have leads := grounded.fresh_leads device number
  generalize Session.fresh _ number = session at leads ⊢
  have drafted := grounded.drafting leads
  rw [← drafting_hosts state session] at leads
  have asked := drafted.askForEvents leads true
  obtain ⟨seen, drift, _⟩ := askForEvents_drift (state.drafting session) session.control true
  have draft : ((state.drafting session).askForEvents session.control true).1.draft.map
      Session.still = some session.still := drift.draft
  have granted : ∀ grant, ((state.drafting session).askForEvents session.control true).2 = .ok grant →
      session.control.callback ≠ none :=
    fun grant granted => askForEvents_granted granted
  generalize (state.drafting session).askForEvents session.control true = asking at asked draft granted ⊢
  obtain ⟨after, outcome⟩ := asking
  cases outcome with
  | ok grant =>
      refine asked.adopt fun current isDraft => ?_
      have leads := asked.draft current isDraft
      refine ⟨leads.place, fun _ => ?_⟩
      rw [isDraft, Option.map_some, Option.some.injEq] at draft
      have same : current.control.callback = session.control.callback :=
        congrArg (·.control.callback) draft
      exact same ▸ granted grant rfl
  | error failure =>
      simp only [conclude]
      split
      · refine asked.adopt fun current isDraft =>
          (asked.draft current isDraft).like rfl rfl fun subscribed => ?_
        contradiction
      · exact asked.abandon number

theorem startSession (grounded : Grounded known state) (location : String) :
    Grounded known (state.startSession location).1 := by
  have noted : Grounded known (state.note (.starting location)) := grounded.see nofun
  have fetched : Grounded known ((state.note (.starting location)).exchange (fetch location)).1 :=
    noted.exchange (silent_truthful nofun)
  unfold State.startSession
  generalize (state.note (.starting location)).exchange (fetch location) = fetching at fetched ⊢
  obtain ⟨after, answer⟩ := fetching
  simp only
  split
  · exact fetched
  · have started := fetched.startReceiver
    split
    · rename_i refused
      rw [refused] at started
      exact started
    · rename_i device _ _ _ number listening
      rw [listening] at started
      exact started.setUp device number

theorem changeHeldVolume (grounded : Grounded known state) (level : Media.Level) :
    Grounded known (state.changeHeldVolume level).1 := by
  unfold State.changeHeldVolume
  split
  · exact grounded
  · rename_i session _
    have called : Grounded known (state.call (.setVolume level)) := grounded.call nofun
    exact called.exchange (silent_truthful (by simp [setVolume]))

theorem updateControl (grounded : Grounded known state) {change : Control → Control}
    (kept : ∀ control, (change control).callback = control.callback) :
    Grounded known (state.updateControl change) := by
  refine grounded.like rfl rfl (fun session isHeld => ?_) grounded.draft ⟨[], rfl, .nil⟩
  obtain ⟨old, isOld, rfl⟩ := Option.map_eq_some_iff.mp isHeld
  exact (grounded.held old isOld).like (kept old.control) rfl id

theorem unsubscribeHeld (grounded : Grounded known state) :
    Grounded known state.unsubscribeHeld.1 := by
  have called : Grounded known (state.call .unsubscribe) := grounded.call nofun
  have forgotten : Grounded known ((state.call .unsubscribe).updateControl
      Control.forget) :=
    called.updateControl fun _ => rfl
  unfold State.unsubscribeHeld
  split
  · exact grounded
  · simp only
    split
    · exact forgotten
    · exact forgotten.exchange (silent_truthful (by simp [unsubscribe]))

theorem stopSession (grounded : Grounded known state) : Grounded known state.stopSession := by
  unfold State.stopSession
  split
  · exact grounded
  · rename_i session found
    have isHeld : state.held = some session := (Option.filter_eq_some_iff.mp found).1
    have detached : Grounded known (state.call .detach) := grounded.call nofun
    have released : Grounded known ((state.call .detach).hold session.released) :=
      detached.hold ((grounded.held session isHeld).like rfl rfl nofun)
    have quiet : Grounded known (if session.status = .subscribed then
        ((state.call .detach).hold session.released).unsubscribeHeld.1
        else (state.call .detach).hold session.released) := by
      split
      · exact released.unsubscribeHeld
      · exact released
    have rested : Grounded known (State.updateControl _ Control.stopRenewal) :=
      quiet.updateControl fun _ => rfl
    exact rested.stopReceiver session.receiver

theorem shutdown (grounded : Grounded known state) : Grounded known state.shutdown := by
  unfold State.shutdown
  split
  · exact grounded
  · have ending : Grounded known state.ending := grounded.aside rfl rfl rfl rfl rfl
    have stopped := ending.stopSession
    refine stopped.like rfl rfl (fun session isHeld => ?_) stopped.draft ⟨[], rfl, .nil⟩
    contradiction

theorem lasting : Lasting (Grounded known) where
  toSteady := steady
  start location grounded _ _ := grounded.startSession location
  volume level grounded := grounded.changeHeldVolume level
  shutdown grounded := grounded.shutdown

theorem initial (options : Options) (television : Television) {host : Host} (is : known host)
    (replies : Replies) (patience : Option Nat) :
    Grounded known (State.initial options television host replies patience) := by
  have silent : (State.initial options television host replies patience).trace = [] := rfl
  have unheld : (State.initial options television host replies patience).held = none := rfl
  have undrafted : (State.initial options television host replies patience).draft = none := rfl
  have unset : (State.initial options television host replies patience).receivers = [] := rfl
  refine ⟨is, fun receiver member => ?_, fun session isHeld => ?_, fun session isDraft => ?_, ?_⟩
  · rw [unset] at member
    contradiction
  · cases unheld.symm.trans isHeld
  · cases undrafted.symm.trans isDraft
  · rw [silent]
    exact .nil

theorem run (grounded : Grounded known state) {operations : List Operation}
    (surrounding : ∀ television host replies delays,
      .surround television host replies delays ∈ operations → known host) :
    Grounded known (state.run operations) := by
  refine lasting.run grounded fun television host replies delays member grounded => ?_
  exact ⟨surrounding television host replies delays member, grounded.placed, grounded.held,
    grounded.draft, grounded.told⟩

theorem receiver_of_mem (grounded : Grounded known state) {host : Host} (member : host ∈ state.hosts) :
    ∃ receiver ∈ state.receivers, receiver.host = host ∧ known host := by
  obtain ⟨receiver, present, rfl⟩ := List.mem_map.mp member
  exact ⟨receiver, present, rfl, (grounded.placed receiver present).2⟩

/-- Whatever is told in a request is the place of a receiver. -/
theorem told_place (grounded : Grounded known state) {request : Request} {told : String}
    (called : .http request ∈ callsIn state.trace) (header : ("callback", told) ∈ request.headers) :
    ∃ receiver ∈ state.receivers, known receiver.host ∧ told = "<" ++ receiver.host.place ++ ">" := by
  obtain ⟨host, member, named⟩ := grounded.told _ called request told rfl header
  obtain ⟨receiver, present, rfl, is⟩ := grounded.receiver_of_mem member
  exact ⟨receiver, present, is, named⟩

/-- Events for a session that is subscribed go to its receiver. -/
theorem subscribed_place (grounded : Grounded known state) (isHeld : state.held = some session)
    (subscribed : session.status = .subscribed) :
    ∃ receiver, state.receivers[session.receiver]? = some receiver ∧ known receiver.host ∧
      session.control.callback = some receiver.host.place := by
  have leads := grounded.held session isHeld
  obtain ⟨callback, same⟩ := Option.ne_none_iff_exists'.mp (leads.granted subscribed)
  obtain ⟨host, found, rfl⟩ := leads.place callback same
  obtain ⟨receiver, present, rfl⟩ := Option.map_eq_some_iff.mp (List.getElem?_map .. ▸ found)
  exact ⟨receiver, present, (grounded.placed receiver (List.mem_of_getElem? present)).2, same⟩

end Grounded

theorem checkLocation_eq_ok {location : String} : Config.checkLocation (some location) = .ok () ↔
    ∃ url, Url.parse location = .ok url ∧ url.isHttp = true := by
  unfold Config.checkLocation
  cases parsed : Url.parse location with
  | error reason => simp [parsed]
  | ok url => simp [parsed]

/-- Every request for events, be it the first of a session or a later one, names the place of a
receiver, which is where the host said when it was set up; a subscribed session is led to its own.
This is nowhere if and only if the host knew no address, or none that names an interface.  It knows
what its routes tell of an internet address.  But a location with a host name is accepted too, and the
host never knows any address then: whatever its routes, all requests lead nowhere, and so do all
sessions that are subscribed. -/
theorem callback_names_source (options : Options) (television : Television) (host : Host)
    (replies : Replies) (patience : Option Nat) (operations : List Operation) :
    let state := (initial options television host replies patience).run operations
    let Answering := fun site => site = host ∨ ∃ television replies delays,
      .surround television site replies delays ∈ operations
    (∀ request told, .http request ∈ callsIn state.trace → ("callback", told) ∈ request.headers →
      ∃ receiver ∈ state.receivers, Answering receiver.host ∧
        told = "<" ++ receiver.host.place ++ ">") ∧
    (∀ session, state.held = some session → session.status = .subscribed →
      ∃ receiver, state.receivers[session.receiver]? = some receiver ∧ Answering receiver.host ∧
        session.control.callback = some receiver.host.place) ∧
    (∀ site : Host, (∀ address, site.localAddress = some address → address.Proper) →
      (site.place ∈ nowhere site.port site.path ↔
        ∀ address, site.localAddress = some address → isUnspecified address)) ∧
    ∀ location, Config.checkLocation (some location) = .ok () →
      ∃ url remote port, Url.parse location = .ok url ∧ url.host? = some remote ∧
        url.effectivePort? = some port ∧
        (∀ route, sourceAddress? route location = remote.address?.bind (route · port)) ∧
        (remote.address? = none →
          (∀ site, Answering site → ∃ route, site.localAddress = sourceAddress? route location) →
          (∀ request told, .http request ∈ callsIn state.trace → ("callback", told) ∈ request.headers →
            ∃ site, Answering site ∧
              told = "<http://0.0.0.0:" ++ toString site.port ++ site.path ++ ">") ∧
          ∀ session, state.held = some session → session.status = .subscribed →
            ∃ site, Answering site ∧ session.control.callback =
              some ("http://0.0.0.0:" ++ toString site.port ++ site.path)) := by
  intro state Answering
  have grounded : Grounded Answering state :=
    (Grounded.initial options television (.inl rfl) replies patience).run
      fun television site replies delays member => .inr ⟨television, replies, delays, member⟩
  refine ⟨fun request told called header => grounded.told_place called header,
    fun session isHeld subscribed => grounded.subscribed_place isHeld subscribed,
    fun site proper => Host.place_mem_nowhere_iff proper, fun location accepted => ?_⟩
  obtain ⟨url, parsed, web⟩ := checkLocation_eq_ok.mp accepted
  obtain ⟨remote, port, named, effective, source⟩ := sourceAddress?_eq parsed web
  refine ⟨url, remote, port, parsed, named, effective, source, fun isName answers => ?_⟩
  have lost {site : Host} (answering : Answering site) :
      site.place = "http://0.0.0.0:" ++ toString site.port ++ site.path := by
    obtain ⟨route, found⟩ := answers site answering
    refine Host.place_of_unknown ?_
    rw [found, source route, isName]
    rfl
  refine ⟨fun request told called header => ?_, fun session isHeld subscribed => ?_⟩
  · obtain ⟨receiver, _, answering, rfl⟩ := grounded.told_place called header
    refine ⟨receiver.host, answering, ?_⟩
    rw [lost answering, ← String.toList_inj]
    simp
  · obtain ⟨receiver, _, answering, same⟩ := grounded.subscribed_place isHeld subscribed
    exact ⟨receiver.host, answering, lost answering ▸ same⟩

/-- A renderer that is known by its name, describes itself and grants what it is asked for, and a host
that answers as one does for a name. -/
def byName : State :=
  .initial ⟨"TV", "tv", none, none, some "http://tv.local/dmr", 10000, 3000⟩
    ⟨.ok true, 0, false, none, 0, none, true, none, none, 0, none, 0⟩ (.unrouted 8058 "/notify/6f2c")
    [("GET", [⟨.reply ⟨200, [], "<service><serviceType>RenderingControl</serviceType>" ++
      "<controlURL>/control</controlURL><eventSubURL>/events</eventSubURL></service>", false⟩, 0⟩]),
      ("SUBSCRIBE", [⟨.reply ⟨200, [("sid", "uuid:1")], "", false⟩, 0⟩])] none

theorem byName_unrouted (route : Url.Address → Nat → Option Url.Address) :
    sourceAddress? route "http://tv.local/dmr" = none := by
  have unread : remoteEnd? "http://tv.local/dmr" = none := by decide +kernel
  rw [sourceAddress?, unread]
  rfl

theorem byName_answers {site : Host} (answering : site = (.unrouted 8058 "/notify/6f2c") ∨
    ∃ television replies delays, .surround television site replies delays ∈ [Operation.poll]) :
    ∃ route, site.localAddress = sourceAddress? route "http://tv.local/dmr" := by
  rcases answering with rfl | ⟨_, _, _, surrounds⟩
  · exact ⟨fun _ _ => none, (byName_unrouted _).symm⟩
  · contradiction

theorem byName_accepted : Config.checkLocation (some "http://tv.local/dmr") = .ok () := by
  have web : (Url.parse "http://tv.local/dmr").toOption.any Url.isHttp = true := by decide +kernel
  cases parsed : Url.parse "http://tv.local/dmr" with
  | error reason => simp [parsed, Except.toOption] at web
  | ok url => exact checkLocation_eq_ok.mpr ⟨url, parsed, by simpa [parsed, Except.toOption] using web⟩

theorem byName_polled :
    .http (subscribe "http://tv.local/events" "http://0.0.0.0:8058/notify/6f2c") ∈
      callsIn (byName.run [.poll]).trace ∧
      (byName.run [.poll]).held.map (·.status) = some .subscribed := by
  decide +kernel

theorem byName_led_nowhere :
    ∃ session, (byName.run [.poll]).held = some session ∧ session.status = .subscribed ∧
      session.control.callback = some "http://0.0.0.0:8058/notify/6f2c" := by
  obtain ⟨session, isHeld, subscribed⟩ := Option.map_eq_some_iff.mp byName_polled.2
  obtain ⟨url, remote, port, parsed, named, _, source, lost⟩ :=
    (callback_names_source _ _ (.unrouted 8058 "/notify/6f2c") _ none [.poll]).2.2.2 _ byName_accepted
  have isName : remote.address? = none := by
    have found := source fun address _ => some address
    rw [byName_unrouted] at found
    cases numeric : remote.address? with
    | none => rfl
    | some address => simp [numeric] at found
  obtain ⟨site, answering, led⟩ :=
    (lost isName fun site => byName_answers).2 session isHeld subscribed
  refine ⟨session, isHeld, subscribed, ?_⟩
  rcases answering with rfl | ⟨_, _, _, surrounds⟩
  · rw [led]
    decide +kernel
  · contradiction

/-- The address a renderer is told may be none that it can reach. -/
theorem callback_leads_nowhere :
    ¬ ∀ (options : Options) (television : Television) (host : Host) (replies : Replies)
      (patience : Option Nat) (operations : List Operation) (location : String),
      options.location = some location → Config.checkLocation (some location) = .ok () →
      (∀ site, (site = host ∨ ∃ television replies delays,
        .surround television site replies delays ∈ operations) →
          ∃ route, site.localAddress = sourceAddress? route location) →
      ∀ request place port path, place ∈ nowhere port path →
        .http request ∈ callsIn
          ((initial options television host replies patience).run operations).trace →
        ("callback", "<" ++ place ++ ">") ∉ request.headers := by
  intro claimed
  exact claimed _ _ (.unrouted 8058 "/notify/6f2c") _ none [.poll] "http://tv.local/dmr" rfl byName_accepted
    (fun site => byName_answers) _ "http://0.0.0.0:8058/notify/6f2c" 8058 "/notify/6f2c"
    (by decide +kernel) byName_polled.1
    (by decide +kernel)

end State

end Televisor.Run
