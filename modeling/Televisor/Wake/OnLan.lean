import Televisor.Url.Address
import Televisor.Wake.Mac

namespace Televisor.Wake

open Url

/-! Waking a television over the network: the packet goes to its last known address, and then to
everybody, should the address have changed while it slept. -/

structure Datagram where
  payload : List UInt8
  target : Address
  port : Nat
  broadcast : Bool
deriving Repr, DecidableEq

/-- What a network makes of names and datagrams; a reason tells why it does not. -/
structure Network where
  resolve : String → Except String (List Address)
  send : Datagram → Except String Unit

def port : Nat := 9

def everybody : Address := .v4 0xFFFFFFFF

def isV4 : Address → Bool
  | .v4 _ => true
  | .v6 _ => false

/-- The addresses a packet goes to by itself: the first IPv4 address of the host, if there is one. -/
def knownTarget? (network : Network) (host : String) : Option Address :=
  match network.resolve host with
  | .ok addresses => addresses.find? isV4
  | .error _ => none

/-- Sends datagrams in order, up to the first failure; all that were tried are returned. -/
def sendInOrder (network : Network) : List Datagram → List Datagram × Except Failure Unit
  | [] => ([], .ok ())
  | datagram :: rest =>
    match network.send datagram with
    | .error reason => ([datagram], .error (.io reason))
    | .ok () =>
      let (tried, outcome) := sendInOrder network rest
      (datagram :: tried, outcome)

def datagrams (mac : MacAddress) (known : Option Address) (port : Nat) (everybody : Address) :
    List Datagram :=
  known.toList.map (fun target => ⟨mac.magicPacket, target, port, false⟩) ++
    [⟨mac.magicPacket, everybody, port, true⟩]

/-- Wakes a machine by its hardware address; `host` is where it was last. -/
def wakeVia (network : Network) (mac : MacAddress) (host : String) (port : Nat)
    (everybody : Address) : List Datagram × Except Failure Unit :=
  sendInOrder network (datagrams mac (knownTarget? network host) port everybody)

def wake (network : Network) (mac : MacAddress) (host : String) :
    List Datagram × Except Failure Unit :=
  wakeVia network mac host port everybody

def unreachable : String :=
  "Network is unreachable (os error 101)"

/-- A network that knows no names and no ways; addresses stand for themselves. -/
def nowhere : Network where
  resolve host :=
    match Address.ofText? host.toList with
    | some address => .ok [address]
    | none => .error "failed to lookup address information"
  send _ := .error unreachable

end Televisor.Wake
