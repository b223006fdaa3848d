import Televisor.Url.Parse

namespace Televisor.Rendering

open Url

/-! The address of ours that a renderer can be told to send events to. -/

/-- The address and port that a location names without any look-up. -/
def remoteEnd? (location : String) : Option (Address × Nat) := do
  let url ← (Url.parse location).toOption
  let host ← url.host?
  let port ← url.effectivePort?
  let address ← Address.ofText? (host.text.toList.filter fun c => c != '[' && c != ']')
  return (address, port)

/-- The address of ours from which a route leads to the location; `route` is what the system
knows. -/
def sourceAddress? (route : Address → Nat → Option Address) (location : String) :
    Option Address := do
  let (address, port) ← remoteEnd? location
  route address port

end Televisor.Rendering
