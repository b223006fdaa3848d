import Televisor.Config.Settings
import Televisor.Url.Parse
import Televisor.Wake.Mac

namespace Televisor.Config

/-! Which settings the program can run with. -/

inductive Fault where
  | noHost
  | zeroTvPort
  | zeroServerPort
  | shortInterval
  | zeroAppListTimeout
  | badMac (reason : Wake.Failure)
  | badLocation (reason : Url.Failure)
  | locationNotHttp
  | noProgram
deriving Repr, DecidableEq

def Fault.message : Fault → String
  | .noHost => "tv.host must be set"
  | .zeroTvPort => "tv.port must be non-zero"
  | .zeroServerPort => "server.port must be non-zero"
  | .shortInterval => "poll.interval_ms must be >= 1000"
  | .zeroAppListTimeout => "poll.app_list_timeout_ms must be non-zero"
  | .badMac reason => reason.message
  | .badLocation reason => "tv.rendering_control_location is not a URL: " ++ reason.message
  | .locationNotHttp => "tv.rendering_control_location must be an http(s) URL"
  | .noProgram => "tv.on_action must name a program"

def isBlankText (text : String) : Bool :=
  (Text.trimBlanks text.toList).isEmpty

def Settings.mac (settings : Settings) : Except Fault (Option Wake.MacAddress) :=
  match settings.tv.mac with
  | none => .ok none
  | some text =>
    match Wake.MacAddress.parse text with
    | .ok mac => .ok (some mac)
    | .error reason => .error (.badMac reason)

def checkLocation : Option String → Except Fault Unit
  | none => .ok ()
  | some location =>
    match Url.parse location with
    | .ok url => if url.isHttp then .ok () else .error .locationNotHttp
    | .error reason => .error (.badLocation reason)

def checkOnAction : Option (List String) → Except Fault Unit
  | none => .ok ()
  | some [] => .error .noProgram
  | some (program :: _) => if isBlankText program then .error .noProgram else .ok ()

/-- The first fault in the settings decides. -/
def Settings.validate (settings : Settings) : Except Fault Unit := do
  if isBlankText settings.tv.host then throw .noHost
  if settings.tv.port = 0 then throw .zeroTvPort
  if settings.server.port = 0 then throw .zeroServerPort
  if settings.poll.interval < 1000 then throw .shortInterval
  if settings.poll.appListTimeout = 0 then throw .zeroAppListTimeout
  let _ ← settings.mac
  checkLocation settings.tv.location
  checkOnAction settings.tv.onAction

end Televisor.Config
