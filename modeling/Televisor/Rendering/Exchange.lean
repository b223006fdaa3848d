import Televisor.Media.Level
import Televisor.Network.Http
import Televisor.Rendering.Description
import Televisor.Rendering.Grant

namespace Televisor.Rendering

open Network

/-! The requests a renderer is sent, and what its answers mean. -/

def failureOf (url : String) : Breakdown → Failure
  | .connect message => .connection url message
  | .timeout message => .connection url message
  | .other message => .http message

def fetch (location : String) : Request :=
  ⟨"GET", location, [], none⟩

def readDevice (location : String) : Answer → Except Failure Device
  | .breakdown reason => .error (failureOf location reason)
  | .reply reply =>
    if !reply.isSuccess then .error (.response location reply.status)
    else if reply.broken then .error (.http "error decoding response body")
    else parseDescription location reply.body

/-- A granted subscription: its name, and how long it lasts in milliseconds. -/
structure Grant where
  sid : String
  duration : Nat
deriving Repr, DecidableEq

def timeoutHeader : String × String :=
  ("timeout", "Second-" ++ toString requestedSeconds)

def subscribe (url callback : String) : Request :=
  ⟨"SUBSCRIBE", url,
    [("callback", "<" ++ callback ++ ">"), ("nt", "upnp:event"), timeoutHeader], none⟩

def renew (url sid : String) : Request :=
  ⟨"SUBSCRIBE", url, [("sid", sid), timeoutHeader], none⟩

def readGrant (url : String) : Answer → Except Failure Grant
  | .breakdown reason => .error (failureOf url reason)
  | .reply reply =>
    if !reply.isSuccess then .error (.response url reply.status)
    else
      match reply.header? "sid" with
      | none => .error (.invalidDescription "subscription response without SID")
      | some sid =>
        let seconds := ((reply.header? "timeout").bind parseGrant?).getD requestedSeconds
        .ok ⟨sid, seconds * 1000⟩

def unsubscribe (url sid : String) : Request :=
  ⟨"UNSUBSCRIBE", url, [("sid", sid)], none⟩

def readEnd (url : String) : Answer → Except Failure Unit
  | .breakdown reason => .error (failureOf url reason)
  | .reply reply => if reply.isSuccess then .ok () else .error (.response url reply.status)

/-- The request body for the given service type and a volume in per cent. -/
def setVolumeEnvelope (serviceType : String) (volume : Nat) : String :=
  "<?xml version=\"1.0\" encoding=\"utf-8\"?>" ++
  "<s:Envelope xmlns:s=\"http://schemas.xmlsoap.org/soap/envelope/\" " ++
  "s:encodingStyle=\"http://schemas.xmlsoap.org/soap/encoding/\">" ++
  "<s:Body><u:SetVolume xmlns:u=\"" ++ serviceType ++ "\">" ++
  "<InstanceID>0</InstanceID><Channel>Master</Channel>" ++
  "<DesiredVolume>" ++ toString volume ++ "</DesiredVolume>" ++
  "</u:SetVolume></s:Body></s:Envelope>"

def setVolumeAction (serviceType : String) : String :=
  "\"" ++ serviceType ++ "#SetVolume\""

def setVolume (device : Device) (level : Media.Level) : Request :=
  ⟨"POST", device.controlUrl,
    [("content-type", "text/xml; charset=\"utf-8\""),
      ("soapaction", setVolumeAction device.serviceType)],
    some (setVolumeEnvelope device.serviceType level.toPercent)⟩

def readAction (url : String) : Answer → Except Failure Unit
  | .breakdown reason => .error (failureOf url reason)
  | .reply reply =>
    if reply.isSuccess then .ok () else .error (.actionResponse "SetVolume" reply.status)

end Televisor.Rendering
