import Televisor.Json.Writer
import Televisor.Media.Level

namespace Televisor.Media

/-! The state a client sees, and the sources that every television has, with the key that selects each. -/

structure Source where
  name : String
  key : String
deriving Repr, DecidableEq

def builtinSources : List Source :=
  [⟨"TV", "KEY_TV"⟩, ⟨"HDMI", "KEY_HDMI"⟩]

def builtinNames : List String :=
  builtinSources.map Source.name

def sourceKey? (name : String) : Option String :=
  (builtinSources.find? (·.name == name)).map Source.key

inductive Power where
  | on
  | off
deriving Repr, DecidableEq

/-- `poweringOff` is derived from an open power-off window and never stored. -/
inductive Lifecycle where
  | off
  | on
  | poweringOff
deriving Repr, DecidableEq

def Power.name : Power → String
  | .on => "on"
  | .off => "off"

def Lifecycle.name : Lifecycle → String
  | .off => "off"
  | .on => "on"
  | .poweringOff => "powering_off"

inductive Feature where
  | pause
  | volumeSet
  | volumeMute
  | previousTrack
  | nextTrack
  | turnOn
  | turnOff
  | playMedia
  | volumeStep
  | selectSource
  | play
deriving Repr, DecidableEq

namespace Feature

def all : List Feature :=
  [.pause, .volumeSet, .volumeMute, .previousTrack, .nextTrack, .turnOn, .turnOff, .playMedia,
    .volumeStep, .selectSource, .play]

def name : Feature → String
  | .pause => "PAUSE"
  | .volumeSet => "VOLUME_SET"
  | .volumeMute => "VOLUME_MUTE"
  | .previousTrack => "PREVIOUS_TRACK"
  | .nextTrack => "NEXT_TRACK"
  | .turnOn => "TURN_ON"
  | .turnOff => "TURN_OFF"
  | .playMedia => "PLAY_MEDIA"
  | .volumeStep => "VOLUME_STEP"
  | .selectSource => "SELECT_SOURCE"
  | .play => "PLAY"

def place : Feature → Nat
  | .pause => 0
  | .volumeSet => 2
  | .volumeMute => 3
  | .previousTrack => 4
  | .nextTrack => 5
  | .turnOn => 7
  | .turnOff => 8
  | .playMedia => 9
  | .volumeStep => 10
  | .selectSource => 11
  | .play => 14

end Feature

/-- All features are supported, but for two that depend on how the television is set up. -/
structure Features where
  canTurnOn : Bool
  canSetVolume : Bool
deriving Repr, DecidableEq

namespace Features

def has (features : Features) : Feature → Bool
  | .turnOn => features.canTurnOn
  | .volumeSet => features.canSetVolume
  | _ => true

def toList (features : Features) : List Feature :=
  Feature.all.filter features.has

def bits (features : Features) : Nat :=
  features.toList.foldr (fun feature bits => Nat.pow 2 feature.place + bits) 0

def names (features : Features) : String :=
  String.intercalate " | " (features.toList.map Feature.name)

end Features

structure MediaState where
  name : String
  state : Power
  lifecycle : Lifecycle
  available : Bool
  volume : Option Level
  muted : Option Bool
  sources : List String
  features : Features
deriving Repr, DecidableEq

namespace MediaState

/-- The state published before anything is known of the television. -/
def initial (name : String) : MediaState where
  name := name
  state := .off
  lifecycle := .off
  available := false
  volume := none
  muted := none
  sources := builtinNames
  features := ⟨false, false⟩

open Json in
def json (state : MediaState) : String :=
  writeObject [
    ("name", writeText state.name),
    ("state", writeText state.state.name),
    ("lifecycle", writeText state.lifecycle.name),
    ("available", writeBool state.available),
    ("volume_level", writeOption (state.volume.map Level.json)),
    ("is_volume_muted", writeOption (state.muted.map writeBool)),
    ("source_list", writeList (state.sources.map writeText)),
    ("supported_features", writeText state.features.names)]

end MediaState

end Televisor.Media
