import Televisor.Controller.Command
import Televisor.Controller.Failure
import Televisor.Controller.State
import Televisor.Remote.Key
import Televisor.Text.Search

namespace Televisor.Controller

open Discovery Media Remote

/-! What a command comes to: at most one action towards the television. -/

inductive Action where
  | powerOff
  | sendKeys (keys : List String)
  | launchApp (id : String)
  | setVolume (level : Level)
  | runProgram (arguments : List String)
  | wake (mac : Wake.MacAddress)
deriving Repr, DecidableEq

inductive Decision where
  | refuse (failure : Failure)
  /-- The command is accepted and nothing is done. -/
  | hold
  | act (action : Action)
deriving Repr, DecidableEq

structure Circumstances where
  now : Nat
  gate : Gate
  hasLauncher : Bool
  sessionAlive : Bool
deriving Repr, DecidableEq

/-- While the television powers off, keys are held back unless the first of them turns it off. -/
def decideKeys (controller : Controller) (now : Nat) (keys : List String) : Decision :=
  match keys with
  | [] => .refuse (.misuse .noKeys)
  | first :: _ =>
    if controller.isPoweringOff now && first != Key.powerOff then .hold else .act (.sendKeys keys)

def decideLaunch (controller : Controller) (at_ : Circumstances) (id : String) : Decision :=
  if controller.isPoweringOff at_.now then .hold
  else if at_.hasLauncher then .act (.launchApp id)
  else .refuse (.unsupported "launch_app")

def decideTurnOn (controller : Controller) : Decision :=
  match controller.options.onAction, controller.options.mac with
  | some arguments, _ => .act (.runProgram arguments)
  | none, some mac => .act (.wake mac)
  | none, none => .refuse (.unsupported "turn_on")

def decideVolume (at_ : Circumstances) (level : Level) : Decision :=
  if !level.inUnit then .refuse (.misuse (.volumeOutside level.text))
  else if at_.sessionAlive then .act (.setVolume level)
  else .hold

/-- The keys that type a channel number and confirm it. -/
def channelKeys? (mediaId : String) : Option (List String) :=
  let digits := Text.trimBlanks mediaId.toList
  if digits.isEmpty || !digits.all Char.isDigit then none
  else some (digits.map Key.digit ++ [Key.enter])

def decideMedia (controller : Controller) (at_ : Circumstances) (kind mediaId : String) :
    Decision :=
  if kind = "app" then decideLaunch controller at_ mediaId
  else if kind = "channel" then
    match channelKeys? mediaId with
    | some keys => decideKeys controller at_.now keys
    | none => .refuse (.misuse (.channel mediaId))
  else .refuse (.misuse (.mediaType kind))

/-- Applications go before built-in sources of the same name. -/
def decideSource (controller : Controller) (at_ : Circumstances) (name : String) : Decision :=
  match at_.gate.apps?.bind (·.id? name) with
  | some id => decideLaunch controller at_ id
  | none =>
    match sourceKey? name with
    | some key => decideKeys controller at_.now [key]
    | none => .refuse (.misuse (.source name))

/-- The television never reports whether it plays, so the toggle goes by what was asked for last. -/
def decide (controller : Controller) (at_ : Circumstances) : Command → Decision
  | .turnOn => decideTurnOn controller
  | .turnOff => .act .powerOff
  | .sendKeys keys => decideKeys controller at_.now keys
  | .launchApp id => decideLaunch controller at_ id
  | .setVolume level => decideVolume at_ level
  | .volumeUp => decideKeys controller at_.now [Key.volumeUp]
  | .volumeDown => decideKeys controller at_.now [Key.volumeDown]
  | .muteVolume => decideKeys controller at_.now [Key.mute]
  | .mediaPlay => decideKeys controller at_.now [Key.play]
  | .mediaPause => decideKeys controller at_.now [Key.pause]
  | .mediaPlayPause =>
    decideKeys controller at_.now [if controller.playing then Key.pause else Key.play]
  | .mediaNextTrack => decideKeys controller at_.now [Key.channelUp]
  | .mediaPreviousTrack => decideKeys controller at_.now [Key.channelDown]
  | .playMedia kind mediaId => decideMedia controller at_ kind mediaId
  | .selectSource name => decideSource controller at_ name

/-- What a command changes in the controller before anything is done. -/
def prepare (controller : Controller) (gate : Gate) (now : Nat) : Command → Controller
  | .turnOff =>
    { controller with window := controller.window.arm now controller.options.pollInterval }.publish
      gate now
  | .mediaPlay => { controller with playing := true }
  | .mediaPause => { controller with playing := false }
  | .mediaPlayPause => { controller with playing := !controller.playing }
  | _ => controller

end Televisor.Controller
