import Televisor.Wake.OnLan

namespace Televisor.Wake

open Url

/-! Which datagrams are tried to wake a machine.  They are tried in order and up to the first that cannot
be sent, so the one to everybody is left out where the one to the last known address fails. -/

theorem MacAddress.magicPacket_length (mac : MacAddress) : mac.magicPacket.length = 102 := by
  have octets : mac.toList.length = 6 := mac.octets.length_toList
  simp [magicPacket, octets]

def outcomeOf (sent : Except String Unit) : Except Failure Unit :=
  sent.mapError .io

section InOrder

variable {network : Network} {datagrams : List Datagram}

theorem sendInOrder_sent {datagram : Datagram} (sent : network.send datagram = .ok ()) :
    sendInOrder network (datagram :: datagrams) =
      (datagram :: (sendInOrder network datagrams).1, (sendInOrder network datagrams).2) := by
  rw [sendInOrder, sent]

theorem sendInOrder_failed {datagram : Datagram} {reason : String}
    (failed : network.send datagram = .error reason) :
    sendInOrder network (datagram :: datagrams) = ([datagram], .error (.io reason)) := by
  rw [sendInOrder, failed]

theorem sendInOrder_singleton (network : Network) (datagram : Datagram) :
    sendInOrder network [datagram] = ([datagram], outcomeOf (network.send datagram)) := by
  cases sent : network.send datagram with
  | error reason => exact sendInOrder_failed sent
  | ok _ => exact sendInOrder_sent sent

end InOrder

/-- The first IPv4 address that a host's name stands for. -/
inductive FirstV4 (network : Network) (host : String) : Address → Prop where
  | found {before after : List Address} {value : Nat}
      (resolved : network.resolve host = .ok (before ++ .v4 value :: after))
      (others : ∀ address ∈ before, isV4 address = false) : FirstV4 network host (.v4 value)

theorem knownTarget?_eq_some {network : Network} {host : String} {target : Address} :
    knownTarget? network host = some target ↔ FirstV4 network host target := by
  constructor
  · intro known
    cases resolved : network.resolve host with
    | error reason => simp [knownTarget?, resolved] at known
    | ok addresses =>
        simp only [knownTarget?, resolved] at known
        obtain ⟨isIt, before, after, rfl, others⟩ := List.find?_eq_some_iff_append.mp known
        cases target with
        | v4 value => exact .found resolved (by simpa using others)
        | v6 words => cases isIt
  · rintro ⟨resolved, others⟩
    simp only [knownTarget?, resolved]
    exact List.find?_eq_some_iff_append.mpr ⟨rfl, _, _, rfl, by simpa using others⟩

section Wake

variable (mac : MacAddress) (port : Nat)

/-- The packet for one machine at its last known address. -/
def directed (target : Address) : Datagram := ⟨mac.magicPacket, target, port, false⟩

/-- The same packet for everybody. -/
def broadcast (everybody : Address) : Datagram := ⟨mac.magicPacket, everybody, port, true⟩

theorem directed_ne_broadcast (target everybody : Address) :
    directed mac port target ≠ broadcast mac port everybody :=
  fun same => nomatch congrArg Datagram.broadcast same

theorem datagrams_none (everybody : Address) :
    datagrams mac none port everybody = [broadcast mac port everybody] := rfl

theorem datagrams_some (target everybody : Address) :
    datagrams mac (some target) port everybody =
      [directed mac port target, broadcast mac port everybody] := rfl

variable {mac port} {network : Network} {host : String} {target everybody : Address}

theorem wakeVia_unknown (unknown : ∀ target, ¬ FirstV4 network host target) :
    wakeVia network mac host port everybody =
      ([broadcast mac port everybody], outcomeOf (network.send (broadcast mac port everybody))) := by
  have none : knownTarget? network host = none :=
    Option.eq_none_iff_forall_ne_some.mpr fun target known =>
      unknown target (knownTarget?_eq_some.mp known)
  rw [wakeVia, none, datagrams_none, sendInOrder_singleton]

theorem wakeVia_reached (first : FirstV4 network host target)
    (sent : network.send (directed mac port target) = .ok ()) :
    wakeVia network mac host port everybody =
      ([directed mac port target, broadcast mac port everybody],
        outcomeOf (network.send (broadcast mac port everybody))) := by
  rw [wakeVia, knownTarget?_eq_some.mpr first, datagrams_some, sendInOrder_sent sent,
    sendInOrder_singleton]

theorem wakeVia_unreached {reason : String} (first : FirstV4 network host target)
    (failed : network.send (directed mac port target) = .error reason) :
    wakeVia network mac host port everybody =
      ([directed mac port target], .error (.io reason)) := by
  rw [wakeVia, knownTarget?_eq_some.mpr first, datagrams_some, sendInOrder_failed failed]

end Wake

/-- The packet for everybody is tried, by itself or after the one to the last known address, unless
that one fails; then it is left out, and its failure is all that is told. -/
theorem broadcast_unless_directed_fails (network : Network) (mac : MacAddress) (host : String)
    (port : Nat) (everybody : Address) :
    let done := wakeVia network mac host port everybody
    let toAll := broadcast mac port everybody
    mac.magicPacket.length = 102 ∧
    ((∀ target, ¬ FirstV4 network host target) →
      done = ([toAll], outcomeOf (network.send toAll))) ∧
    (∀ target, FirstV4 network host target →
      let toOne := directed mac port target
      (network.send toOne = .ok () → done = ([toOne, toAll], outcomeOf (network.send toAll))) ∧
      ∀ reason, network.send toOne = .error reason → done = ([toOne], .error (.io reason))) ∧
    (toAll ∈ done.1 ↔ ∀ target, FirstV4 network host target →
      network.send (directed mac port target) = .ok ()) := by
  intro done toAll
  refine ⟨mac.magicPacket_length, wakeVia_unknown, fun target first =>
    ⟨wakeVia_reached first, fun reason => wakeVia_unreached first⟩, ?_⟩
  constructor
  · intro tried target first
    cases sent : network.send (directed mac port target) with
    | ok _ => rfl
    | error reason =>
        have only : done = _ := wakeVia_unreached first sent
        rw [only] at tried
        exact absurd (List.mem_singleton.mp tried).symm (directed_ne_broadcast mac port target _)
  · intro reaches
    by_cases known : ∃ target, FirstV4 network host target
    · obtain ⟨target, first⟩ := known
      have both : done = _ := wakeVia_reached first (reaches target first)
      rw [both]
      exact List.mem_cons_of_mem _ List.mem_cons_self
    · have alone : done = _ := wakeVia_unknown (not_exists.mp known)
      rw [alone]
      exact List.mem_cons_self

def television : Address := .v4 0x0A000009

/-- The television sleeps, and no machine of its network knows where it is; what is for everybody
goes out. -/
def asleep : Network where
  resolve _ := .ok [.v6 [0xFE80, 0, 0, 0, 0, 0, 0, 9], television]
  send datagram := if datagram.broadcast then .ok () else .error "No route to host (os error 113)"

def sleeper : MacAddress := ⟨⟨#[1, 2, 3, 4, 5, 6], rfl⟩⟩

theorem asleep_first : FirstV4 asleep "tv" television :=
  knownTarget?_eq_some.mp rfl

theorem asleep_left_alone :
    FirstV4 asleep "tv" television ∧
    asleep.send (directed sleeper port television) = .error "No route to host (os error 113)" ∧
    asleep.send (broadcast sleeper port everybody) = .ok () ∧
    wake asleep sleeper "tv" = ([directed sleeper port television],
      .error (.io "No route to host (os error 113)")) :=
  have attempts := broadcast_unless_directed_fails asleep sleeper "tv" port everybody
  ⟨asleep_first, rfl, rfl, (attempts.2.2.1 television asleep_first).2 _ rfl⟩

theorem broadcast_left_out : ¬ ∀ (network : Network) (mac : MacAddress) (host : String) (port : Nat)
    (everybody : Address),
    broadcast mac port everybody ∈ (wakeVia network mac host port everybody).1 := by
  intro always
  have tried := always asleep sleeper "tv" port everybody
  rw [wakeVia_unreached asleep_first rfl] at tried
  exact absurd (List.mem_singleton.mp tried).symm (directed_ne_broadcast _ _ _ _)

end Televisor.Wake
