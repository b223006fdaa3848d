import Televisor.Discovery.Gate
import Televisor.Media.State
import Televisor.Power.Window
import Televisor.Telemetry.Session
import Televisor.Wake.Mac

namespace Televisor

open Discovery Media Power

/-! What the controller knows, and the state it publishes. -/

namespace Controller

structure Options where
  name : String
  host : String
  mac : Option Wake.MacAddress
  onAction : Option (List String)
  /-- Where the television's renderer describes itself. -/
  location : Option String
  pollInterval : Nat
  appListTimeout : Nat
deriving Repr, DecidableEq

/-- Raised from callbacks of the television and of a telemetry session. -/
inductive Event where
  /-- The television refused this client; nothing recovers by itself. -/
  | reauthRequired
  | telemetryChanged
  | appsChanged
deriving Repr, DecidableEq

def Event.name : Event → String
  | .reauthRequired => "ReauthRequired"
  | .telemetryChanged => "TelemetryChanged"
  | .appsChanged => "AppsChanged"

end Controller

/-- `version` counts the states that have been published, and `publishedAt` is when the observable
state was compared with the published one for the last time. -/
structure Controller where
  options : Controller.Options
  authFailed : Bool
  shuttingDown : Bool
  window : Window
  power : Power
  /-- Whether playing was asked for last. -/
  playing : Bool
  volume : Option Level
  muted : Option Bool
  published : MediaState
  publishedAt : Nat
  version : Nat
deriving Repr, DecidableEq

namespace Controller

def isPoweringOff (controller : Controller) (now : Nat) : Bool :=
  controller.window.isOpen now

def lifecycle (controller : Controller) (now : Nat) : Lifecycle :=
  controller.window.lifecycle controller.power now

def canTurnOn (controller : Controller) : Bool :=
  controller.options.onAction.isSome || controller.options.mac.isSome

def isAvailable (controller : Controller) (now : Nat) : Bool :=
  !controller.authFailed &&
    (controller.power == .on || controller.canTurnOn || controller.isPoweringOff now)

def features (controller : Controller) : Features :=
  ⟨controller.canTurnOn, controller.options.location.isSome⟩

/-- The built-in sources, then the applications by name. -/
def sourceList (gate : Gate) : List String :=
  builtinNames ++ (gate.apps?.map Apps.names).getD []

/-- The observable state; volume and mute show only while the television is on. -/
def mediaState (controller : Controller) (gate : Gate) (now : Nat) : MediaState where
  name := controller.options.name
  state := controller.power
  lifecycle := controller.lifecycle now
  available := controller.isAvailable now
  volume := controller.volume.filter fun _ => controller.power == .on
  muted := controller.muted.filter fun _ => controller.power == .on
  sources := sourceList gate
  features := controller.features

def publish (controller : Controller) (gate : Gate) (now : Nat) : Controller :=
  let next := controller.mediaState gate now
  if controller.published = next then { controller with publishedAt := now }
  else
    { controller with
      published := next, publishedAt := now, version := controller.version + 1 }

def unpublished (options : Options) : Controller where
  options := options
  authFailed := false
  shuttingDown := false
  window := .closed
  power := .off
  playing := true
  volume := none
  muted := none
  published := .initial options.name
  publishedAt := 0
  version := 0

def new (options : Options) : Controller :=
  (unpublished options).publish .unresolved 0

/-- Takes over the values of a session that is alive. -/
def refresh (controller : Controller) (session : Option Telemetry.Session) : Controller :=
  match session.filter (·.alive) with
  | some session =>
    { controller with volume := session.snapshot.volume, muted := session.snapshot.muted }
  | none => controller

end Controller

end Televisor
