import Televisor.Config.Settings
import Televisor.Text.Number

namespace Televisor.Config

/-! Settings that environment variables override. -/

/-- The variables that are set; one whose bytes are no text has none. -/
abbrev Environment := List (String × Option String)

def Environment.get? (environment : Environment) (name : String) : Option String :=
  (environment.find? (·.1 == name)).bind (·.2)

def Environment.own? (environment : Environment) (name : String) : Option String :=
  environment.get? ("TVBRIDGE_" ++ name)

/-- Every variable that means anything to the program. -/
def knownVariables : List String :=
  ["HOME", "XDG_CONFIG_HOME", "RUST_LOG"] ++
    (["CONFIG_PATH", "HOST", "PORT", "MAC", "RENDERING_CONTROL_LOCATION", "POLL_INTERVAL_MS",
      "SERVER_ENABLED", "SERVER_PORT", "SERVER_TOKEN"].map ("TVBRIDGE_" ++ ·))

/-- A variable that is set but cannot be read leaves a setting alone, but for the one that turns the
server on: there it means that it is on. -/
def Settings.override (settings : Settings) (environment : Environment) : Settings where
  tv := { settings.tv with
    host := (environment.own? "HOST").getD settings.tv.host
    port := ((environment.own? "PORT").bind Text.readWord16?).getD settings.tv.port
    mac := (environment.own? "MAC").or settings.tv.mac
    location := (environment.own? "RENDERING_CONTROL_LOCATION").or settings.tv.location }
  poll := { settings.poll with
    interval := ((environment.own? "POLL_INTERVAL_MS").bind Text.readWord64?).getD
      settings.poll.interval }
  server := {
    enabled := ((environment.own? "SERVER_ENABLED").map fun text =>
      (Text.readBool? text).getD true).getD settings.server.enabled
    port := ((environment.own? "SERVER_PORT").bind Text.readWord16?).getD settings.server.port
    token := (environment.own? "SERVER_TOKEN").or settings.server.token }

end Televisor.Config
