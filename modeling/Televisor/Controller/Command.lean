import Televisor.Media.Level
import Televisor.Json.Writer

namespace Televisor.Controller

open Media

/-! What a client can ask for. -/

inductive Command where
  | turnOn
  | turnOff
  | sendKeys (keys : List String)
  | launchApp (id : String)
  | setVolume (level : Level)
  | volumeUp
  | volumeDown
  | muteVolume
  | mediaPlay
  | mediaPause
  | mediaPlayPause
  | mediaNextTrack
  | mediaPreviousTrack
  | playMedia (kind mediaId : String)
  | selectSource (source : String)
deriving Repr, DecidableEq

namespace Command

def name : Command → String
  | .turnOn => "turn_on"
  | .turnOff => "turn_off"
  | .sendKeys _ => "send_keys"
  | .launchApp _ => "launch_app"
  | .setVolume _ => "set_volume"
  | .volumeUp => "volume_up"
  | .volumeDown => "volume_down"
  | .muteVolume => "mute_volume"
  | .mediaPlay => "media_play"
  | .mediaPause => "media_pause"
  | .mediaPlayPause => "media_play_pause"
  | .mediaNextTrack => "media_next_track"
  | .mediaPreviousTrack => "media_previous_track"
  | .playMedia _ _ => "play_media"
  | .selectSource _ => "select_source"

open Json in
def parameters : Command → List (String × String)
  | .sendKeys keys => [("keys", writeList (keys.map writeText))]
  | .launchApp id => [("app_id", writeText id)]
  | .setVolume level => [("level", level.json)]
  | .playMedia kind mediaId => [("kind", writeText kind), ("media_id", writeText mediaId)]
  | .selectSource source => [("source", writeText source)]
  | _ => []

open Json in
def json (command : Command) : String :=
  writeObject (("command", writeText command.name) :: command.parameters)

end Command

end Televisor.Controller
