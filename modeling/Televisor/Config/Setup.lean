import Televisor.Api.Token
import Televisor.Config.Validate
import Televisor.Controller.State
import Televisor.Remote.Packet

namespace Televisor.Config

/-! What the settings make of the parts of the program. -/

namespace Settings

def identity (settings : Settings) : Remote.Identity :=
  ⟨settings.tv.clientName, settings.tv.clientDescription, settings.tv.clientId⟩

def options (settings : Settings) : Except Fault Controller.Options :=
  settings.mac.map fun mac =>
    { name := settings.tv.name
      host := settings.tv.host
      mac := mac
      onAction := settings.tv.onAction
      location := settings.tv.location
      pollInterval := settings.poll.interval
      appListTimeout := settings.poll.appListTimeout }

/-- The token clients need; one is made up if none is set. -/
def token (settings : Settings) (fresh : String) : String :=
  settings.server.token.getD fresh

def apiAddress (settings : Settings) : String :=
  "127.0.0.1:" ++ toString settings.server.port

/-- What is printed at the start for whoever wants to watch the state. -/
def banner (settings : Settings) (fresh : String) : List String :=
  if settings.server.enabled then
    ["TV state: http://" ++ settings.apiAddress ++ "/state?token=" ++ settings.token fresh]
  else []

end Settings

end Televisor.Config
